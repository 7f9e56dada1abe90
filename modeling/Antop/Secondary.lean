import Antop.Tables
import Antop.Shift

/-!
# Secondary addresses

A node that hears a neighbour at a distance other than one may give itself a second address that is
next to both (`chkSecAddr1`, `sendSap1`), agree on it with the neighbour (`processSap1`,
`processSan1`) and drop it when the neighbour is gone (`checkNeighOfSecondaryAddress`).
-/

namespace Antop

namespace Node

/-- `san_t_handler`. -/
def sanTHandler (n : Node) : Node := { n with flagAddrAvai := true }

/-- `send_sap1`.  Nothing is sent while an answer to the last proposal is awaited, nor when the
address to propose is not next to the primary one. -/
def sendSap1 (env : Env) (n : Node) (dst secAddr : In6Addr) (secMask : UChar) : Node :=
  if !n.flagAddrAvai then n
  else if dist secAddr n.primAddr ≠ 1 then n
  else
    let sap := { env.heap with
      pktTypeF := .sap, primAddr := n.primAddr, srcAddr := n.primAddr
      adAddr := { env.heap.adAddr with addr := secAddr, mask := secMask, redNumero := n.redNumero } }
    let n := n.timerAddMsec (freshSanT n.timers) 2 env.clock
    { n.send dst sap with flagAddrAvai := false }

/-- The node after proposals of secondary addresses. -/
def conPropuesta (n : Node) (timers : TimerQueue) (out : List (In6Addr × CtrlPkt))
    (flagAddrAvai : Bool) (nSLTable : List NSL) : Node :=
  { n with timers := timers, out := out, flagAddrAvai := flagAddrAvai, nSLTable := nSLTable }

lemma sendSap1_eq (env : Env) (n : Node) (dst secAddr : In6Addr) (secMask : UChar) :
    ∃ ts o f, sendSap1 env n dst secAddr secMask = n.conPropuesta ts o f n.nSLTable
      ∧ KeepsTimers n.timers ts := by
  unfold sendSap1
  split_ifs
  · exact ⟨n.timers, n.out, n.flagAddrAvai, rfl, .refl _⟩
  · exact ⟨n.timers, n.out, n.flagAddrAvai, rfl, .refl _⟩
  · exact ⟨_, _, _, rfl, keepsTimers_timerAddMsec _ _ _ _⟩

/-- `send_san1`. -/
def sendSan1 (n : Node) (dst secAddr : In6Addr) (secMask primMaskSource : UChar) : Node :=
  n.send dst { CtrlPkt.zero with
    pktTypeF := .san, primAddr := n.primAddr, srcAddr := n.primAddr
    adAddr := { tLenght := primMaskSource, addr := secAddr, mask := secMask
                redNumero := n.redNumero } }

/-- `process_sap1`. -/
def processSap1 (msg : CtrlPkt) (n : Node) : Node :=
  let n := { n.initTablesSecondaryLink with flagNeighBySecond := true }
  let n := n.addNSLTable msg.adAddr.addr msg.adAddr.mask
  n.sendSan1 msg.srcAddr msg.adAddr.addr msg.adAddr.mask n.primMask

/-- Whether `process_san1` raises the mask to that of the secondary address, which has to be next to
the primary one. -/
def subeMask (msg : CtrlPkt) (n : Node) : Prop :=
  n.primMask < msg.adAddr.mask ∧ dist msg.adAddr.addr n.primAddr = 1

instance (msg : CtrlPkt) (n : Node) : Decidable (n.subeMask msg) := by
  unfold subeMask
  infer_instance

/-- `process_san1`. -/
def processSan1 (msg : CtrlPkt) (n : Node) : Option Node :=
  let msgAux := { msg with adAddr := { msg.adAddr with mask := msg.adAddr.tLenght } }
  let n := { n with
    secAddrFlag := true, flagAddrAvai := true
    secAddr := msg.adAddr.addr, secMask := msg.adAddr.mask }
  let n := n.add msg.adAddr.addr
  let n := { n with
    primMask := if n.subeMask msg then msg.adAddr.mask else n.primMask
    rcvdAddr := delRcvdAddrTable msg.adAddr.addr n.rcvdAddr }
  (n.addNeighbor msgAux false).map fun n => { n with addrNodeSecondaryLink := msgAux.primAddr }

/-- **What `process_san1` changes.** -/
lemma processSan1_eq {msg : CtrlPkt} {n n' : Node} (h : n.processSan1 msg = some n') :
    ∃ t, n' = { n with
      secAddrFlag := true, flagAddrAvai := true
      secAddr := msg.adAddr.addr, secMask := msg.adAddr.mask
      iface := insert msg.adAddr.addr n.iface
      primMask := if n.subeMask msg then msg.adAddr.mask else n.primMask
      rcvdAddr := delRcvdAddrTable msg.adAddr.addr n.rcvdAddr
      neighTable := t, addrNodeSecondaryLink := msg.primAddr } := by
  obtain ⟨m, hm, rfl⟩ := Option.map_eq_some_iff.mp h
  obtain ⟨t, -, rfl⟩ := addNeighbor_eq_some.mp hm
  exact ⟨t, rfl⟩

/-- The rounds of the loop in `chk_sec_addr1`: one bit of the own block after the other is set, and
the address is proposed when the neighbour is next to it. -/
def chkSecAddrBits (env : Env) (neigh : In6Addr) : ℕ → In6Addr → UChar → Node → Node
  | 0, _, _, n => n
  | rounds + 1, aux1, primMaskAux, n =>
      let aux1 := shiftUnos 0 1 aux1
      let primMaskAux := primMaskAux + 1
      let aux2 := n.primAddr.or aux1
      let n := if dist aux2 neigh = 1 then
          n.initTablesSecondaryLink.sendSap1 env neigh aux2 primMaskAux
        else n
      chkSecAddrBits env neigh rounds aux1 primMaskAux n

/-- `chk_sec_addr1`: a recovered address that is next to the neighbour comes first, then the bits
of the own block. -/
def chkSecAddr1 (env : Env) (neigh : In6Addr) (n : Node) : Node :=
  if n.secAddrFlag then n
  else
    match n.rcvdAddr.find? fun it => dist it.primAddr neigh = 1 with
    | some it => n.initTablesSecondaryLink.sendSap1 env neigh it.primAddr it.primMask
    | none =>
        if n.hcDim ≤ n.primMask.toNat then n
        else
          let uno := In6Addr.ofWords 0x0080 0 0 0 0 0 0 0
          let aux1 := shiftUnos 0 (n.hcDim + n.primMask.toNat - 1) uno
          chkSecAddrBits env neigh (128 - (n.hcDim + n.primMask.toNat)) aux1 n.primMask n

lemma chkSecAddrBits_eq (env : Env) (neigh : In6Addr) (rounds : ℕ) (aux1 : In6Addr)
    (primMaskAux : UChar) (n : Node) :
    ∃ ts o f l, chkSecAddrBits env neigh rounds aux1 primMaskAux n = n.conPropuesta ts o f l
      ∧ KeepsTimers n.timers ts := by
  induction rounds generalizing aux1 primMaskAux n with
  | zero => exact ⟨n.timers, n.out, n.flagAddrAvai, n.nSLTable, rfl, .refl _⟩
  | succ rounds ih =>
      rw [chkSecAddrBits]
      split_ifs
      · obtain ⟨ts, o, f, hsap, hts⟩ := sendSap1_eq env n.initTablesSecondaryLink neigh
          (n.primAddr.or (shiftUnos 0 1 aux1)) (primMaskAux + 1)
        rw [hsap]
        obtain ⟨ts', o', f', l', h, hts'⟩ := ih (shiftUnos 0 1 aux1) (primMaskAux + 1)
          (n.initTablesSecondaryLink.conPropuesta ts o f n.initTablesSecondaryLink.nSLTable)
        exact ⟨ts', o', f', l', h, hts.trans hts'⟩
      · exact ih _ _ n

/-- **What `chk_sec_addr1` changes.** -/
lemma chkSecAddr1_eq (env : Env) (neigh : In6Addr) (n : Node) :
    ∃ ts o f l, chkSecAddr1 env neigh n = n.conPropuesta ts o f l ∧ KeepsTimers n.timers ts := by
  unfold chkSecAddr1
  split
  · exact ⟨n.timers, n.out, n.flagAddrAvai, n.nSLTable, rfl, .refl _⟩
  · split
    · obtain ⟨ts, o, f, h, hts⟩ := sendSap1_eq env n.initTablesSecondaryLink neigh _ _
      exact ⟨ts, o, f, _, h, hts⟩
    · split
      · exact ⟨n.timers, n.out, n.flagAddrAvai, n.nSLTable, rfl, .refl _⟩
      · exact chkSecAddrBits_eq _ _ _ _ _ _

/-! ## The proposal of a secondary address -/

/-- The addresses and masks the loop of `chk_sec_addr1` goes through. -/
def bitsAProbar (primAddr : In6Addr) : ℕ → In6Addr → UChar → List (In6Addr × UChar)
  | 0, _, _ => []
  | rounds + 1, aux1, primMaskAux =>
      (primAddr.or (shiftUnos 0 1 aux1), primMaskAux + 1)
        :: bitsAProbar primAddr rounds (shiftUnos 0 1 aux1) (primMaskAux + 1)

/-- The addresses with which `chk_sec_addr1` calls `send_sap1` for a neighbour, in their order, with
their masks. -/
def candidatas (neigh : In6Addr) (n : Node) : List (In6Addr × UChar) :=
  match n.rcvdAddr.find? fun it => dist it.primAddr neigh = 1 with
  | some it => [(it.primAddr, it.primMask)]
  | none =>
      if n.hcDim ≤ n.primMask.toNat then []
      else
        (bitsAProbar n.primAddr (128 - (n.hcDim + n.primMask.toNat))
          (shiftUnos 0 (n.hcDim + n.primMask.toNat - 1) (.ofWords 0x0080 0 0 0 0 0 0 0))
          n.primMask).filter fun c => dist c.1 neigh = 1

/-- The address `chk_sec_addr1` proposes to a neighbour, with its mask: the first one that is next to
the primary address, unless an answer is awaited. -/
def sapPropuesta (neigh : In6Addr) (n : Node) : Option (In6Addr × UChar) :=
  if n.secAddrFlag ∨ !n.flagAddrAvai then none
  else (n.candidatas neigh).find? fun c => dist c.1 n.primAddr = 1

/-- The packet of `send_sap1`. -/
def sapPkt (env : Env) (n : Node) (c : In6Addr × UChar) : CtrlPkt :=
  { env.heap with
    pktTypeF := .sap, primAddr := n.primAddr, srcAddr := n.primAddr
    adAddr := { env.heap.adAddr with addr := c.1, mask := c.2, redNumero := n.redNumero } }

/-- What `send_sap1` sends, and the flag after it. -/
lemma sendSap1_out (env : Env) (n : Node) (dst : In6Addr) (c : In6Addr × UChar) :
    if n.flagAddrAvai ∧ dist c.1 n.primAddr = 1 then
      (sendSap1 env n dst c.1 c.2).out = n.out ++ [(dst, n.sapPkt env c)]
        ∧ (sendSap1 env n dst c.1 c.2).flagAddrAvai = false
    else sendSap1 env n dst c.1 c.2 = n := by
  unfold sendSap1
  by_cases hf : n.flagAddrAvai
  · by_cases hd : dist c.1 n.primAddr = 1
    · rw [if_pos ⟨hf, hd⟩, if_neg (by simp [hf]), if_neg (by simp [hd])]
      exact ⟨rfl, rfl⟩
    · rw [if_neg (fun h => hd h.2), if_neg (by simp [hf]), if_pos hd]
  · rw [if_neg (fun h => hf h.1), if_pos (by simp [hf])]

/-- While an answer is awaited the loop of `chk_sec_addr1` sends nothing. -/
lemma chkSecAddrBits_of_espera (env : Env) (neigh : In6Addr) (rounds : ℕ) (aux1 : In6Addr)
    (primMaskAux : UChar) (n : Node) (h : n.flagAddrAvai = false) :
    (chkSecAddrBits env neigh rounds aux1 primMaskAux n).out = n.out
      ∧ (chkSecAddrBits env neigh rounds aux1 primMaskAux n).flagAddrAvai = false := by
  induction rounds generalizing aux1 primMaskAux n with
  | zero => exact ⟨rfl, h⟩
  | succ rounds ih =>
      rw [chkSecAddrBits]
      split_ifs
      · have hsap := sendSap1_out env n.initTablesSecondaryLink neigh
          (n.primAddr.or (shiftUnos 0 1 aux1), primMaskAux + 1)
        rw [if_neg (fun hc => by simp [initTablesSecondaryLink, h] at hc)] at hsap
        rw [hsap]
        exact ih _ _ n.initTablesSecondaryLink h
      · exact ih _ _ n h

/-- **The loop of `chk_sec_addr1`** sends the first proposal that passes `send_sap1`. -/
lemma chkSecAddrBits_out (env : Env) (neigh : In6Addr) (rounds : ℕ) (aux1 : In6Addr)
    (primMaskAux : UChar) (n : Node) (h : n.flagAddrAvai = true) :
    let elegida := ((bitsAProbar n.primAddr rounds aux1 primMaskAux).filter
      fun c => dist c.1 neigh = 1).find? fun c => dist c.1 n.primAddr = 1
    (chkSecAddrBits env neigh rounds aux1 primMaskAux n).out
        = n.out ++ (elegida.map fun c => (neigh, n.sapPkt env c)).toList
      ∧ (chkSecAddrBits env neigh rounds aux1 primMaskAux n).flagAddrAvai = elegida.isNone := by
  induction rounds generalizing aux1 primMaskAux n with
  | zero => simp [chkSecAddrBits, bitsAProbar, h]
  | succ rounds ih =>
      rw [chkSecAddrBits, bitsAProbar, List.filter_cons]
      dsimp only
      by_cases hneigh : dist (n.primAddr.or (shiftUnos 0 1 aux1)) neigh = 1
      · rw [if_pos hneigh, if_pos (by simpa using hneigh), List.find?_cons]
        have hsap := sendSap1_out env n.initTablesSecondaryLink neigh
          (n.primAddr.or (shiftUnos 0 1 aux1), primMaskAux + 1)
        by_cases hprim : dist (n.primAddr.or (shiftUnos 0 1 aux1)) n.primAddr = 1
        · rw [if_pos ⟨h, hprim⟩] at hsap
          obtain ⟨hout, hflag⟩ := chkSecAddrBits_of_espera env neigh rounds (shiftUnos 0 1 aux1)
            (primMaskAux + 1) _ hsap.2
          rw [hout, hflag, hsap.1]
          simp only [hprim, decide_true, Option.map_some, Option.toList_some, Option.isNone_some]
          exact ⟨rfl, trivial⟩
        · rw [if_neg (fun hc => hprim hc.2)] at hsap
          rw [hsap]
          simp only [hprim, decide_false]
          exact ih _ _ n.initTablesSecondaryLink h
      · rw [if_neg hneigh, if_neg (by simpa using hneigh)]
        exact ih _ _ n h

/-- With a secondary address, or while an answer is awaited, nothing is sent. -/
lemma chkSecAddr1_of_espera (env : Env) (neigh : In6Addr) (n : Node)
    (h : n.secAddrFlag ∨ n.flagAddrAvai = false) :
    (chkSecAddr1 env neigh n).out = n.out
      ∧ (chkSecAddr1 env neigh n).flagAddrAvai = n.flagAddrAvai := by
  unfold chkSecAddr1
  by_cases hsec : n.secAddrFlag
  · rw [if_pos hsec]
    exact ⟨rfl, rfl⟩
  have hf : n.flagAddrAvai = false := h.resolve_left hsec
  rw [if_neg hsec, hf]
  split
  next it hfind =>
    have hsap := sendSap1_out env n.initTablesSecondaryLink neigh (it.primAddr, it.primMask)
    rw [if_neg (fun hc => by simp [initTablesSecondaryLink, hf] at hc)] at hsap
    rw [hsap]
    exact ⟨rfl, hf⟩
  next hfind =>
    split_ifs
    · exact ⟨rfl, hf⟩
    · exact chkSecAddrBits_of_espera env neigh _ _ _ n hf

/-- **What `chk_sec_addr1` sends**: the proposal, if there is one. -/
lemma chkSecAddr1_out (env : Env) (neigh : In6Addr) (n : Node) :
    (chkSecAddr1 env neigh n).out
        = n.out ++ ((n.sapPropuesta neigh).map fun c => (neigh, n.sapPkt env c)).toList
      ∧ (chkSecAddr1 env neigh n).flagAddrAvai
        = (n.flagAddrAvai && (n.sapPropuesta neigh).isNone) := by
  by_cases hesp : n.secAddrFlag ∨ n.flagAddrAvai = false
  · have hprop : n.sapPropuesta neigh = none := if_pos (by simpa using hesp)
    obtain ⟨hout, hflag⟩ := chkSecAddr1_of_espera env neigh n hesp
    simp [hprop, hout, hflag]
  obtain ⟨hsec, hf⟩ : ¬ n.secAddrFlag ∧ n.flagAddrAvai = true := by simpa using hesp
  have hprop : n.sapPropuesta neigh
      = (n.candidatas neigh).find? fun c => dist c.1 n.primAddr = 1 :=
    if_neg (by simpa using hesp)
  rw [hprop, hf, Bool.true_and]
  unfold chkSecAddr1 candidatas
  rw [if_neg hsec]
  cases n.rcvdAddr.find? fun it => dist it.primAddr neigh = 1 with
  | some it =>
      have hsap := sendSap1_out env n.initTablesSecondaryLink neigh (it.primAddr, it.primMask)
      dsimp only
      by_cases hprim : dist it.primAddr n.primAddr = 1
      · rw [if_pos ⟨hf, hprim⟩] at hsap
        rw [hsap.1, hsap.2]
        simp only [List.find?_cons, hprim, decide_true, Option.map_some, Option.toList_some,
          Option.isNone_some]
        exact ⟨rfl, trivial⟩
      · rw [if_neg (fun hc => hprim hc.2)] at hsap
        rw [hsap]
        simp only [List.find?_cons, hprim, decide_false, List.find?_nil, Option.map_none,
          Option.toList_none, Option.isNone_none, List.append_nil]
        exact ⟨rfl, hf⟩
  | none =>
      dsimp only
      split_ifs
      · simp [hf]
      · exact chkSecAddrBits_out env neigh _ _ _ n hf

/-! ## The end of a secondary link -/

/-- The test of `check_neigh_of_secondary_address`: the secondary address is next to the primary
one, and the neighbour it was made for is still there, next to it. -/
def secondaryLinkAlive (n : Node) : Prop :=
  dist n.secAddr n.primAddr = 1 ∧
    ∃ it ∈ n.neighTable, it.primAddr = n.addrNodeSecondaryLink ∧ dist n.secAddr it.primAddr = 1

instance (n : Node) : Decidable n.secondaryLinkAlive := by
  unfold secondaryLinkAlive
  infer_instance

/-- A node without neighbours has no secondary link. -/
lemma not_secondaryLinkAlive_of_nil {n : Node} (h : n.neighTable = []) : ¬ n.secondaryLinkAlive := by
  rintro ⟨-, it, hit, -⟩
  simp [h] at hit

/-- `check_neigh_of_secondary_address`: a secondary address without its neighbour is dropped.  Its
block goes back to the own block when the masks agree, and to `rcvd_addr` otherwise. -/
def checkNeighOfSecondaryAddress (n : Node) : Node :=
  if n.secAddrFlag ∧ ¬ n.secondaryLinkAlive then
    let aux := n.secAddr
    let m := { n with secAddrFlag := false, secAddr := .zero, addrNodeSecondaryLink := .zero }
    let m :=
      if m.primMask = m.secMask then { m.storePrimMask (m.primMask.toNat - 1) with secMask := 0 }
      else { m with secMask := 0 }.recoverAddrSpace aux n.secMask
    m.del aux
  else n

lemma checkNeighOfSecondaryAddress_of_not_sec {n : Node} (h : n.secAddrFlag = false) :
    n.checkNeighOfSecondaryAddress = n :=
  if_neg fun hc => absurd hc.1 (by simp [h])

end Node

end Antop
