import Antop.ForeignHeartBeat

/-!
# The blocks a node hands out

A node hands out a block with a `PAP`, with a `SAP`, with the `MAR1` of `mezcla`, and with each
`MAR2`.  `send_pap` and `chk_sec_addr1` test `prim_mask` against `hc_dim` before they use the own
block; `mezcla` and the loops that send the `MAR2`s do not.

* `Node.entregas` — the blocks handed out in a step, each with its mask and, when it is cut from the
  own block, with the mask of the node at that moment; `bloques_step` says that these are the blocks
  in the messages that are sent.
* `Node.bloques_caben_iff` — along a run, every block has a mask from 1 to `hc_dim`, and none is cut
  from an own block that is used up, exactly when every step meets `Node.guardaEntregas`.
-/

namespace Antop

open Transition

/-- A block that is handed out: its mask, and the mask of the node when it is cut from the node's own
block. -/
structure Entrega where
  mask : ℕ
  propia : Option ℕ

/-- The block fits: its mask is from 1 to `hc_dim`, and an own block is not used up. -/
def Entrega.Cabe (hcDim : ℕ) (x : Entrega) : Prop :=
  (1 ≤ x.mask ∧ x.mask ≤ hcDim) ∧ ∀ m ∈ x.propia, m < hcDim

/-- The mask of the block a message hands out.  A `PAP` with mask 0 says that there is none; a `MAR1`
is an offer, of the slot after its mask, when `mezcla` sends it on a heartbeat, and is only passed on
otherwise. -/
def bloqueDe (hb : Bool) (m : CtrlPkt) : Option ℕ :=
  match m.pktTypeF with
  | .pap => if m.adAddr.mask = 0 then none else some m.adAddr.mask.toNat
  | .sap | .mar2 => some m.adAddr.mask.toNat
  | .mar1 => if hb then some (m.adAddr.mask.toNat + 1) else none
  | _ => none

/-- The masks of the blocks in messages. -/
def bloques (hb : Bool) (out : List (In6Addr × CtrlPkt)) : List ℕ :=
  out.filterMap fun m => bloqueDe hb m.2

@[simp] lemma bloques_nil (hb : Bool) : bloques hb [] = [] := rfl

@[simp] lemma bloques_append (hb : Bool) (o o' : List (In6Addr × CtrlPkt)) :
    bloques hb (o ++ o') = bloques hb o ++ bloques hb o' := List.filterMap_append

namespace Node

lemma bloques_send (hb : Bool) (n : Node) (dst : In6Addr) (pkt : CtrlPkt) :
    bloques hb (n.send dst pkt).out = bloques hb n.out ++ (bloqueDe hb pkt).toList := by
  have hone : bloques hb [(dst, pkt)] = (bloqueDe hb pkt).toList := by
    rw [bloques, List.filterMap_cons]
    cases bloqueDe hb pkt <;> rfl
  rw [send, bloques_append, hone]

/-- A message that hands nothing out. -/
lemma bloques_send_of_none {hb : Bool} {n : Node} {dst : In6Addr} {pkt : CtrlPkt}
    (h : bloqueDe hb pkt = none) : bloques hb (n.send dst pkt).out = bloques hb n.out := by
  rw [bloques_send, h, Option.toList_none, List.append_nil]

/-! ## `PAP` -/

/-- A slot of the own block, where there is one. -/
def entregasSlot (n : Node) : List Entrega :=
  if n.hcDim ≤ n.primMask.toNat ∨ n.primMask + 1 = 0 then []
  else [⟨(n.primMask + 1).toNat, some n.primMask.toNat⟩]

/-- What `send_pap` hands out: a recovered address, or a slot of the own block. -/
def entregasPap (n : Node) : List Entrega :=
  match n.rcvdAddr.getLast?, n.rcvdOffered with
  | some rcvdAux, none =>
      if rcvdAux.primMask = 0 then [] else [⟨rcvdAux.primMask.toNat, none⟩]
  | _, _ => n.entregasSlot

/-- What `send_pap` needs: the recovered address it offers has a mask that fits. -/
def guardaPap (n : Node) : Prop :=
  ∀ rcvdAux, n.rcvdAddr.getLast? = some rcvdAux → n.rcvdOffered = none →
    rcvdAux.primMask.toNat ≤ n.hcDim

lemma bloqueDe_pap {hb : Bool} {m : CtrlPkt} (h : m.pktTypeF = .pap) :
    (bloqueDe hb m).toList = if m.adAddr.mask = 0 then [] else [m.adAddr.mask.toNat] := by
  rw [bloqueDe, h]
  dsimp only
  split_ifs <;> rfl

/-- The mask of a slot of the own block. -/
def mascaraSlot (n : Node) : UChar :=
  if n.hcDim ≤ n.primMask.toNat then 0 else n.primMask + 1

lemma mascaraSlot_entregas (n : Node) :
    (if n.mascaraSlot = 0 then [] else [n.mascaraSlot.toNat])
      = n.entregasSlot.map Entrega.mask := by
  rw [mascaraSlot, entregasSlot]
  by_cases hdim : n.hcDim ≤ n.primMask.toNat
  · rw [if_pos hdim, if_pos (Or.inl hdim)]
    exact if_pos rfl
  · rw [if_neg hdim]
    by_cases hcero : n.primMask + 1 = 0
    · rw [if_pos (Or.inr hcero)]
      exact if_pos hcero
    · rw [if_neg (not_or.mpr ⟨hdim, hcero⟩)]
      exact if_neg hcero

/-- The mask in a proposal. -/
lemma proposal_mask (env : Env) (n : Node) :
    (if (n.proposal env).1.adAddr.mask = 0 then [] else [(n.proposal env).1.adAddr.mask.toNat])
      = n.entregasPap.map Entrega.mask := by
  have hslot {p : CtrlPkt} (hp : p.adAddr.mask = n.mascaraSlot) :
      (if p.adAddr.mask = 0 then [] else [p.adAddr.mask.toNat])
        = n.entregasSlot.map Entrega.mask := by
    rw [hp, mascaraSlot_entregas]
  rcases hlast : n.rcvdAddr.getLast? with _ | rcvdAux <;> rcases hnew : n.rcvdOffered with _ | a <;>
    simp only [entregasPap, hlast, hnew]
  case some.none =>
    have hmask : (n.proposal env).1.adAddr.mask = rcvdAux.primMask := by
      simp only [proposal, hlast, hnew]
    rw [hmask]
    split_ifs <;> rfl
  all_goals
    refine hslot ?_
    simp only [proposal, hlast, hnew, mascaraSlot]
    split_ifs <;> rfl

lemma bloques_sendPap (hb : Bool) (env : Env) (dst : In6Addr) (n : Node) :
    bloques hb (n.sendPap env dst).out = bloques hb n.out ++ n.entregasPap.map Entrega.mask := by
  have htipo : (n.proposal env).1.pktTypeF = .pap := by
    unfold proposal
    split
    · rfl
    · split_ifs <;> rfl
  rw [← proposal_mask env n, ← bloqueDe_pap htipo]
  exact bloques_send hb n dst _

lemma toNat_succ_of_ne {m : UChar} (h : m + 1 ≠ 0) : (m + 1).toNat = m.toNat + 1 := by
  bv_omega

lemma toNat_pos_of_ne {m : UChar} (h : m ≠ 0) : 1 ≤ m.toNat := by
  bv_omega

/-- A slot of the own block fits: `send_pap` has tested the mask. -/
lemma entregasSlot_caben (n : Node) : ∀ x ∈ n.entregasSlot, x.Cabe n.hcDim := by
  intro x hx
  rw [entregasSlot] at hx
  split_ifs at hx with hc
  · simp at hx
  · obtain ⟨hdim, hcero⟩ := not_or.mp hc
    rw [List.mem_singleton.mp hx, toNat_succ_of_ne hcero]
    refine ⟨⟨Nat.le_add_left 1 _, Nat.lt_of_not_le hdim⟩, ?_⟩
    rintro m ⟨⟩
    exact Nat.lt_of_not_le hdim

lemma entregasPap_caben_iff (n : Node) :
    (∀ x ∈ n.entregasPap, x.Cabe n.hcDim) ↔ n.guardaPap := by
  unfold entregasPap guardaPap
  split
  next rcvdAux hlast hnew =>
    rw [hlast, hnew]
    split_ifs with hcero
    · simp [hcero]
    · simp only [List.forall_mem_singleton, Entrega.Cabe, Option.some.injEq, forall_eq', forall_const]
      constructor
      · rintro ⟨⟨-, hle⟩, -⟩
        exact hle
      · intro hle
        exact ⟨⟨toNat_pos_of_ne hcero, hle⟩, by simp⟩
  next hno =>
    refine ⟨fun _ rcvdAux hlast hnew => absurd hnew (hno rcvdAux hlast), fun _ => ?_⟩
    exact entregasSlot_caben n

/-! ## `mezcla` -/

/-- The slot `mezcla` offers. -/
def entregaMezcla (n : Node) : Entrega :=
  match n.rcvdAddr.find? fun it => it.primMask ≠ 0 with
  | some it => ⟨it.primMask.toNat, none⟩
  | none => ⟨n.primMask.toNat + 1, some n.primMask.toNat⟩

/-- What `mezcla` needs: the recovered address it offers has a mask that fits, or the own block is not
used up. -/
def guardaMezcla (n : Node) : Prop :=
  match n.rcvdAddr.find? fun it => it.primMask ≠ 0 with
  | some it => it.primMask.toNat ≤ n.hcDim
  | none => n.primMask.toNat < n.hcDim

lemma bloques_mezcla (env : Env) (dst : In6Addr) (n : Node) :
    bloques true (n.mezcla env dst).out = bloques true n.out ++ [n.entregaMezcla.mask] := by
  have hmask : n.maskAProponer.1.toNat + 1 = n.entregaMezcla.mask := by
    unfold maskAProponer entregaMezcla
    cases hit : n.rcvdAddr.find? fun it => it.primMask ≠ 0 with
    | none => rfl
    | some it =>
        have hne : it.primMask ≠ 0 := by simpa using List.find?_some hit
        change (it.primMask - 1).toNat + 1 = it.primMask.toNat
        bv_omega
  rw [← hmask]
  exact bloques_append true n.out _

lemma entregaMezcla_cabe_iff (n : Node) : n.entregaMezcla.Cabe n.hcDim ↔ n.guardaMezcla := by
  unfold entregaMezcla guardaMezcla
  cases hit : n.rcvdAddr.find? fun it => it.primMask ≠ 0 with
  | none => simp [Entrega.Cabe]
  | some it =>
      have hne : it.primMask ≠ 0 := by simpa using List.find?_some hit
      simp [Entrega.Cabe, toNat_pos_of_ne hne]

/-! ## `SAP` -/

/-- The addresses `chk_sec_addr1` makes from the own block: in round `j` the bit `hc_dim + m + j` is
set, where `m` is the mask, up to the last bit of the address. -/
lemma bitsAProbar_eq (primAddr : In6Addr) (rounds : ℕ) (aux1 : In6Addr) (primMaskAux : UChar) :
    bitsAProbar primAddr rounds aux1 primMaskAux = (List.range rounds).map fun j =>
      (primAddr.or ((shiftUnos 0 1)^[j + 1] aux1), primMaskAux + BitVec.ofNat 8 (j + 1)) := by
  induction rounds generalizing aux1 primMaskAux with
  | zero => rfl
  | succ rounds ih =>
      rw [bitsAProbar, ih, List.range_succ_eq_map, List.map_cons, List.map_map]
      refine congrArg₂ List.cons rfl (List.map_congr_left fun j _ => ?_)
      have hmask : primMaskAux + 1 + BitVec.ofNat 8 (j + 1)
          = primMaskAux + BitVec.ofNat 8 (j + 1 + 1) := by
        bv_omega
      rw [Function.comp_apply, hmask]
      rfl

/-- The address of round `j`. -/
def bitPropio (n : Node) (j : ℕ) : In6Addr :=
  n.primAddr.or ((shiftUnos 0 1)^[j + 1]
    (shiftUnos 0 (n.hcDim + n.primMask.toNat - 1) (.ofWords 0x0080 0 0 0 0 0 0 0)))

/-- The address of round `j` is next to the neighbour and to the node. -/
def sirve (neigh : In6Addr) (n : Node) (j : ℕ) : Prop :=
  dist (n.bitPropio j) neigh = 1 ∧ dist (n.bitPropio j) n.primAddr = 1

instance (neigh : In6Addr) (n : Node) (j : ℕ) : Decidable (n.sirve neigh j) := by
  unfold sirve
  infer_instance

/-- What `chk_sec_addr1` hands out. -/
def entregasSap (neigh : In6Addr) (n : Node) : List Entrega :=
  (n.sapPropuesta neigh).toList.map fun c =>
    ⟨c.2.toNat, if (n.rcvdAddr.find? fun it => dist it.primAddr neigh = 1).isSome then none
      else some n.primMask.toNat⟩

/-- What `chk_sec_addr1` needs when it makes a proposal: a recovered address it proposes has a mask
that fits, and when a round finds an address one of the rounds up to `hc_dim` does. -/
def guardaSap (neigh : In6Addr) (n : Node) : Prop :=
  ¬ (n.secAddrFlag ∨ !n.flagAddrAvai) →
    match n.rcvdAddr.find? fun it => dist it.primAddr neigh = 1 with
    | some it => dist it.primAddr n.primAddr = 1 → 1 ≤ it.primMask.toNat ∧ it.primMask.toNat ≤ n.hcDim
    | none => ∀ j < 128 - (n.hcDim + n.primMask.toNat), n.primMask.toNat < n.hcDim → n.sirve neigh j →
        ∃ i < n.hcDim - n.primMask.toNat, n.sirve neigh i

lemma bloques_chkSecAddr1 (hb : Bool) (env : Env) (neigh : In6Addr) (n : Node) :
    bloques hb (n.chkSecAddr1 env neigh).out
      = bloques hb n.out ++ (n.entregasSap neigh).map Entrega.mask := by
  rw [(chkSecAddr1_out env neigh n).1, bloques_append, entregasSap]
  cases n.sapPropuesta neigh <;> rfl

/-- The proposal from the own block: that of the first round that finds an address. -/
lemma propuesta_propia_eq (neigh : In6Addr) (n : Node)
    (h : (n.rcvdAddr.find? fun it => dist it.primAddr neigh = 1) = none) :
    (n.candidatas neigh).find? (fun c => dist c.1 n.primAddr = 1) =
      if n.hcDim ≤ n.primMask.toNat then none
      else ((List.range (128 - (n.hcDim + n.primMask.toNat))).find? fun j => n.sirve neigh j).map
        fun j => (n.bitPropio j, n.primMask + BitVec.ofNat 8 (j + 1)) := by
  unfold candidatas
  rw [h]
  dsimp only
  split_ifs
  · rfl
  · rw [List.find?_filter, bitsAProbar_eq, List.find?_map]
    congr 2
    funext j
    rw [Bool.eq_iff_iff, decide_eq_true_eq, Function.comp_apply, decide_eq_true_eq]
    exact and_congr decide_eq_true_iff decide_eq_true_iff

lemma entregasSap_caben_iff (neigh : In6Addr) (n : Node) :
    (∀ x ∈ n.entregasSap neigh, x.Cabe n.hcDim) ↔ n.guardaSap neigh := by
  unfold entregasSap guardaSap sapPropuesta
  by_cases hesp : n.secAddrFlag ∨ !n.flagAddrAvai
  · rw [if_pos hesp]
    exact iff_of_true (by simp) fun hno => absurd hesp hno
  rw [if_neg hesp, imp_iff_right hesp]
  cases hfind : n.rcvdAddr.find? fun it => dist it.primAddr neigh = 1 with
  | some it =>
      unfold candidatas
      rw [hfind]
      by_cases hd : dist it.primAddr n.primAddr = 1 <;> simp [hd, Entrega.Cabe]
  | none =>
      rw [propuesta_propia_eq neigh n hfind]
      by_cases hdim : n.hcDim ≤ n.primMask.toNat
      · simp [hdim, Nat.not_lt_of_le hdim]
      rw [if_neg hdim]
      have hlt := Nat.lt_of_not_le hdim
      cases hj : (List.range (128 - (n.hcDim + n.primMask.toNat))).find? fun j => n.sirve neigh j with
      | none =>
          have hno := List.find?_eq_none.mp hj
          simp only [List.mem_range, decide_eq_true_eq] at hno
          simp only [Option.map_none, Option.toList_none, List.map_nil, List.not_mem_nil,
            IsEmpty.forall_iff, implies_true, true_iff]
          exact fun j hjlt _ hs => absurd hs (hno j hjlt)
      | some j =>
          obtain ⟨hs, hjlt, hmenor⟩ := List.find?_range_eq_some.mp hj
          have hjlt := List.mem_range.mp hjlt
          simp only [decide_eq_true_eq] at hs
          have hmask : (n.primMask + BitVec.ofNat 8 (j + 1)).toNat = n.primMask.toNat + (j + 1) := by
            rw [BitVec.toNat_add, BitVec.toNat_ofNat]
            omega
          simp only [Option.map_some, Option.toList_some, List.map_cons, List.map_nil,
            List.forall_mem_singleton, Entrega.Cabe, hmask, Option.isSome_none, Bool.false_eq_true,
            if_false, Option.mem_def, Option.some.injEq, forall_eq']
          constructor
          · rintro ⟨⟨-, hle⟩, -⟩ k - - -
            exact ⟨j, by omega, hs⟩
          · intro h
            obtain ⟨i, hi, hsi⟩ := h j hjlt hlt hs
            have hji : j ≤ i := by
              by_contra hc
              have := hmenor i (by omega)
              simp [hsi] at this
            exact ⟨⟨by omega, by omega⟩, hlt⟩

/-! ## `MAR2` -/

/-- The blocks of `k` `MAR2`s, sent one after the other from the mask `m` on. -/
def entregasMar2 (m : UChar) : ℕ → List Entrega
  | 0 => []
  | k + 1 => ⟨(m + 1).toNat, some m.toNat⟩ :: entregasMar2 (m + 1) k

lemma entregasMar2_add (m : UChar) (k l : ℕ) :
    entregasMar2 m (k + l) = entregasMar2 m k ++ entregasMar2 (m + BitVec.ofNat 8 k) l := by
  induction k generalizing m with
  | zero => simp [entregasMar2]
  | succ k ih =>
      have hm : m + 1 + BitVec.ofNat 8 k = m + BitVec.ofNat 8 (k + 1) := by bv_omega
      rw [Nat.succ_add, entregasMar2, entregasMar2, ih, hm, List.cons_append]

/-- **The `MAR2`s fit** when the last one does, and the mask does not wrap. -/
lemma entregasMar2_caben_iff (hcDim : ℕ) (m : UChar) (k : ℕ) :
    (∀ x ∈ entregasMar2 m k, x.Cabe hcDim) ↔ k = 0 ∨ m.toNat + k ≤ min hcDim 255 := by
  induction k generalizing m with
  | zero => simp [entregasMar2]
  | succ k ih =>
      have hlt := m.isLt
      rw [entregasMar2, List.forall_mem_cons, ih]
      by_cases hm : m + 1 = 0
      · have h255 : m.toNat = 255 := by bv_omega
        simp [Entrega.Cabe, h255]
      · have h255 : m.toNat ≠ 255 := by bv_omega
        rw [toNat_succ_of_ne hm]
        simp only [Entrega.Cabe, Option.mem_def, Option.some.injEq, forall_eq', Nat.succ_ne_zero,
          false_or]
        omega

lemma bloques_processMar1Envio (env : Env) (antopMsg : CtrlPkt) (origen : In6Addr) (monitoreo : Bool)
    (s : Mar1Loop) (it : Neighbor) :
    bloques false (processMar1Envio env antopMsg origen monitoreo s it).node.out
      = bloques false s.node.out
        ++ (entregasMar2 s.node.primMask (s.node.mar2Count origen monitoreo [it])).map Entrega.mask := by
  by_cases hv : s.node.visitaMar origen monitoreo it.primAddr
  · rw [processMar1Envio, if_pos hv.1, if_neg hv.2]
    by_cases ha : s.node.haciaAbajo it.primAddr
    · have hk : s.node.mar2Count origen monitoreo [it] = 0 := by simp [mar2Count, ha]
      rw [if_pos ha, hk]
      exact bloques_append false s.node.out _
    · have hk : s.node.mar2Count origen monitoreo [it] = 1 := by simp [mar2Count, ha, hv]
      rw [if_neg ha, hk, storePrimMask_succ]
      exact bloques_append false s.node.out _
  · have hk : s.node.mar2Count origen monitoreo [it] = 0 := by simp [mar2Count, hv]
    obtain ⟨t, rv, hs⟩ := processMar1Envio_salta env antopMsg hv
    rw [hs, hk, entregasMar2, List.map_nil, List.append_nil]
    rfl

lemma bloques_foldl_processMar1Envio (env : Env) (antopMsg : CtrlPkt) (origen : In6Addr)
    (monitoreo : Bool) (its : List Neighbor) (s : Mar1Loop) :
    bloques false (its.foldl (processMar1Envio env antopMsg origen monitoreo) s).node.out
      = bloques false s.node.out
        ++ (entregasMar2 s.node.primMask (s.node.mar2Count origen monitoreo its)).map Entrega.mask := by
  induction its generalizing s with
  | nil => simp [mar2Count, entregasMar2]
  | cons it its ih =>
      obtain ⟨t, rv, o, hnode, -⟩ := processMar1Envio_eq env antopMsg origen monitoreo s it
      have hresto : (processMar1Envio env antopMsg origen monitoreo s it).node.mar2Count origen
          monitoreo its = s.node.mar2Count origen monitoreo its := by
        rw [hnode]
        rfl
      rw [List.foldl_cons, ih, bloques_processMar1Envio, hresto, hnode,
        mar2Count_singleton_add _ _ _ it its, entregasMar2_add, List.map_append, List.append_assoc]
      rfl

lemma bloques_processMar2Envio (env : Env) (antopMsg : CtrlPkt) (aux1 : In6Addr) (n : Node)
    (flag : Bool) (it : Neighbor) :
    bloques false (processMar2Envio env antopMsg aux1 (n, flag) it).1.out
      = bloques false n.out ++ (entregasMar2 n.primMask
          ([it].countP fun it => n.visitaMar antopMsg.primAddr false it.primAddr)).map Entrega.mask := by
  by_cases hv : n.visitaMar antopMsg.primAddr false it.primAddr
  · have hout : antopMsg.primAddr ≠ it.primAddr := by simpa using hv.1
    have hk : ([it].countP fun it => n.visitaMar antopMsg.primAddr false it.primAddr) = 1 := by
      simp [hv]
    rw [processMar2Envio, if_pos hout, if_neg hv.2, hk, storePrimMask_succ]
    exact bloques_append false n.out _
  · have hk : ([it].countP fun it => n.visitaMar antopMsg.primAddr false it.primAddr) = 0 := by
      simp [hv]
    obtain ⟨t, rv, hs⟩ := processMar2Envio_salta env aux1 flag hv
    rw [hs, hk, entregasMar2, List.map_nil, List.append_nil]
    rfl

lemma bloques_foldl_processMar2Envio (env : Env) (antopMsg : CtrlPkt) (aux1 : In6Addr)
    (its : List Neighbor) (n : Node) (flag : Bool) :
    bloques false (its.foldl (processMar2Envio env antopMsg aux1) (n, flag)).1.out
      = bloques false n.out ++ (entregasMar2 n.primMask
          (its.countP fun it => n.visitaMar antopMsg.primAddr false it.primAddr)).map Entrega.mask := by
  induction its generalizing n flag with
  | nil => simp [entregasMar2]
  | cons it its ih =>
      have hbloques := bloques_processMar2Envio env antopMsg aux1 n flag it
      obtain ⟨t, rv, o, hstep⟩ := processMar2Envio_eq env antopMsg aux1 n flag it
      have hk : ((it :: its).countP fun it => n.visitaMar antopMsg.primAddr false it.primAddr)
          = ([it].countP fun it => n.visitaMar antopMsg.primAddr false it.primAddr)
            + its.countP fun it => n.visitaMar antopMsg.primAddr false it.primAddr := by
        rw [← List.singleton_append, List.countP_append]
      rw [hstep] at hbloques
      rw [List.foldl_cons, hstep, ih, hbloques, hk, entregasMar2_add, List.map_append,
        List.append_assoc]
      rfl

/-! ## Messages that hand nothing out -/

lemma bloques_finDirecto {hb : Bool} {env : Env} {antopMsg : CtrlPkt} {n n' : Node}
    (h : n.processMar1Directo env antopMsg = some n') : bloques hb n'.out = bloques hb n.out := by
  obtain ⟨m, hm, rfl⟩ := Option.map_eq_some_iff.mp h
  have hman (u : Node) : bloques hb (u.confirmarMar1 env antopMsg).out = bloques hb u.out :=
    bloques_send_of_none rfl
  unfold antesDeTomar at hm
  rw [out_cerrarPrimaria]
  by_cases hy : n.receptorSolo antopMsg
  · rw [if_pos hy] at hm ⊢
    obtain ⟨t, -, rfl⟩ := addNeighbor_eq_some.mp hm
    exact hman _
  · rw [if_neg hy] at hm ⊢
    obtain rfl := Option.some.inj hm
    exact hman n

lemma bloques_detectorDeFragmentacion (hb : Bool) (env : Env) (n : Node) :
    bloques hb (n.detectorDeFragmentacion env).out = bloques hb n.out := by
  have hfrag (m : Node) : bloques hb (m.fragmentacion env).out = bloques hb m.out := by
    rw [fragmentacion_eq]
    refine (bloques_append hb m.out _).trans ?_
    rw [List.append_right_eq_self, bloques, List.filterMap_eq_nil_iff]
    intro p hp
    obtain ⟨it, -, hp⟩ := List.mem_flatMap.mp hp
    split_ifs at hp
    · simp at hp
    · rw [List.mem_singleton.mp hp]
      rfl
  rcases detectorDeFragmentacion_cases env n with heq | heq | ⟨-, heq⟩
  · rw [heq]
  · rw [heq]
    rfl
  · rw [heq, hfrag]
    rfl

lemma bloques_processFarEnvios (hb : Bool) (env : Env) (antopMsg : CtrlPkt) (aux3 : In6Addr)
    (auxPrimMaskInicial : UChar) (n : Node) :
    bloques hb (n.processFarEnvios env antopMsg aux3 auxPrimMaskInicial).1.out
      = bloques hb n.out := by
  unfold processFarEnvios
  split_ifs
  · obtain ⟨t, rv, heq⟩ := foldl_processFarEnvio env antopMsg n.primAddr aux3 n.neighTable n false
    rw [heq]
    refine (bloques_append hb n.out _).trans ?_
    rw [List.append_right_eq_self, bloques, List.filterMap_eq_nil_iff]
    intro p hp
    obtain ⟨it, -, hp⟩ := List.mem_flatMap.mp hp
    split_ifs at hp
    · rw [List.mem_singleton.mp hp]
      rfl
    · simp at hp
  · rfl

lemma bloques_processFar {hb : Bool} {env : Env} {antopMsg : CtrlPkt} {n n' : Node}
    (h : n.processFar env antopMsg = some n') : bloques hb n'.out = bloques hb n.out := by
  have hfan (u : Node) (src dst : In6Addr) :
      bloques hb (u.sendFan env src dst).out = bloques hb u.out := bloques_send_of_none rfl
  unfold processFar at h
  dsimp only at h
  split_ifs at h with haddr
  · obtain rfl := Option.some.inj h
    unfold processFarSecundaria
    dsimp only
    split_ifs
    · rw [out_finFragmentacion]
      exact hfan _ _ _
    · exact hfan _ _ _
  · simp only [processFarPrimaria, Option.bind_eq_bind, Option.bind_eq_some_iff] at h
    obtain ⟨n₁, h₁, h⟩ := h
    have hout₁ : bloques hb n₁.out = bloques hb n.out := by
      unfold processFarCambio at h₁
      simp only [Option.bind_eq_bind, Option.bind_eq_some_iff, addNeighbor_eq_some] at h₁
      obtain ⟨_, ⟨t, ht, rfl⟩, h₁⟩ := h₁
      rw [← Option.some.inj h₁]
      exact hfan _ _ _
    rw [← hout₁, ← Option.some.inj h]
    split_ifs
    · rw [out_finFragmentacion]
      exact bloques_processFarEnvios hb env antopMsg _ _ n₁
    · exact bloques_processFarEnvios hb env antopMsg _ _ n₁

lemma out_sendHbChecks (env : Env) (n : Node) : (n.sendHbChecks env).out = n.out := by
  have honly : (n.checkIfIAmOnly env).out = n.out := by
    unfold checkIfIAmOnly
    split_ifs <;> rfl
  have hsec (m : Node) : m.checkNeighOfSecondaryAddress.out = m.out := by
    unfold checkNeighOfSecondaryAddress
    dsimp only
    split_ifs <;> rfl
  unfold sendHbChecks
  split_ifs
  · exact (hsec _).trans honly
  · rfl

lemma bloques_sendHb (hb : Bool) (env : Env) (timer : Bool) (n : Node) :
    bloques hb (n.sendHb env timer).out = bloques hb n.out := by
  rw [← out_sendHbChecks env n]
  unfold sendHb
  generalize n.sendHbChecks env = m
  have ht : (if timer then m.timerAddMsec .hbT 5000 env.clock else m).out = m.out := by
    split_ifs <;> rfl
  dsimp only
  generalize (if timer then m.timerAddMsec .hbT 5000 env.clock else m) = u at ht ⊢
  rw [← ht]
  split_ifs
  · exact (bloques_send_of_none rfl).trans (bloques_send_of_none rfl)
  · exact bloques_send_of_none rfl
  · exact bloques_send_of_none rfl
  · rfl

/-! ## One step -/

/-- What the dispatcher does first with a `MAR1`: an initiator whose network it comes from takes its
address back. -/
def recuperarDir (p : CtrlPkt) (n : Node) : Node :=
  if p.adAddr.redNumero = n.redNumero ∧ n.primAddr = dirDefault then n.volverDelDefault else n

lemma out_recuperarDir (p : CtrlPkt) (n : Node) : (n.recuperarDir p).out = n.out := by
  unfold recuperarDir
  split_ifs <;> rfl

/-- The node as the loop of `process_mar1` finds it, when the dispatcher gives it a `MAR1` for its
primary address. -/
def mar1Primaria (p : CtrlPkt) (n : Node) : Option Node :=
  let n := n.recuperarDir p
  if ((p.adAddr.redNumero ≠ n.redNumero ∨ n.secAddrFlag) ∧ p.adAddr.addr = n.primAddr)
      ∧ p.adAddr.addr ≠ n.secAddr then
    some { n with flagMezcla := true }
  else none

/-- The mask from which `process_mar1` counts on. -/
def mascaraMar1 (p : CtrlPkt) (n : Node) : UChar := n.primMask + p.adAddr.mask - (n.maskQueCae p - 1)

lemma primMask_entrarMar1 (p : CtrlPkt) (n : Node) : (n.entrarMar1 p).primMask = n.mascaraMar1 p := by
  change BitVec.ofInt 8 (n.primMask.toNat + p.adAddr.mask.toNat - ((n.maskQueCae p).toNat - 1)) = _
  have huno : (1 : UChar).toNat = 1 := rfl
  apply BitVec.eq_of_toNat_eq
  simp only [mascaraMar1, BitVec.toNat_ofInt, BitVec.toNat_sub, BitVec.toNat_add, huno]
  omega

/-- The blocks handed out on a `MAR1`. -/
def entregasMar1 (p : CtrlPkt) (n : Node) : List Entrega :=
  match n.mar1Primaria p with
  | none => []
  | some m => entregasMar2 (m.mascaraMar1 p) (m.mar2sDeMar1 p)

/-- The blocks handed out on a `MAR2`. -/
def entregasDeMar2 (p : CtrlPkt) (n : Node) : List Entrega :=
  if (p.adAddr.redNumero ≠ n.redNumero ∨ n.secAddrFlag) ∧ p.adAddr.addr ≠ n.secAddr then
    entregasMar2 p.adAddr.mask (n.mar2sDeMar2 p)
  else []

/-- A heartbeat whose sender is proposed a secondary address. -/
def ofrece (env : Env) (hb : CtrlPkt) (n : Node) : Prop :=
  (¬ n.flagFragmentacion ∧ ¬ n.flagMezcla)
    ∧ ((n.detectorDeMezcla env hb).2 ≠ -1 ∧ (n.detectorDeMezcla env hb).2 ≠ 1)
    ∧ (hb.primAddr ≠ n.primAddr ∧ hb.primAddr ≠ n.secAddr)
    ∧ ¬ n.enlazado hb ∧ ofrecerSecundaria n.addrDeEnlace hb

instance (hb : CtrlPkt) (n : Node) : Decidable (n.iniciaMezcla hb) := by
  unfold iniciaMezcla
  infer_instance

instance (env : Env) (hb : CtrlPkt) (n : Node) : Decidable (n.ofrece env hb) := by
  unfold ofrece
  infer_instance

/-- The blocks handed out on a heartbeat. -/
def entregasHb (env : Env) (hb : CtrlPkt) (n : Node) : List Entrega :=
  if n.iniciaMezcla hb then [n.entregaMezcla]
  else if n.ofrece env hb then n.entregasSap hb.primAddr
  else []

lemma bloques_processMar1Primaria {env : Env} {p : CtrlPkt} {n n' : Node}
    (h : n.processMar1Primaria env p = some n') :
    bloques false n'.out = bloques false n.out
      ++ (entregasMar2 (n.mascaraMar1 p) (n.mar2sDeMar1 p)).map Entrega.mask := by
  obtain ⟨n₁, h₁, h⟩ := Option.bind_eq_some_iff.mp h
  obtain ⟨t₁, ht, hn₁⟩ := Option.map_eq_some_iff.mp h₁
  have hn₁ : n₁ = n.conTablas t₁ n.rvTable n.out := hn₁.symm
  subst hn₁
  rw [← primMask_entrarMar1]
  by_cases hc : n.iniciaCiclo p
  · rw [if_pos hc] at h
    have hk : n.mar2sDeMar1 p
        = n.mar2Count (auxAntopMsg p).primAddr (n.flagMonitoreo p) t₁ := by
      rw [mar2sDeMar1_eq ht, if_pos hc]
    have hbloques := bloques_foldl_processMar1Envio env p (auxAntopMsg p).primAddr (n.flagMonitoreo p)
      t₁ ⟨(n.conTablas t₁ n.rvTable n.out).entrarMar1 p, n.primAddr, false⟩
    rw [hk]
    refine Eq.trans ?_ hbloques
    dsimp only at h
    split_ifs at h with hs
    · rw [← Option.some.inj h]
      exact bloques_send_of_none rfl
    · exact bloques_finDirecto h
  · rw [if_neg hc] at h
    have hk : n.mar2sDeMar1 p = 0 := by rw [mar2sDeMar1_eq ht, if_neg hc]
    rw [hk, entregasMar2, List.map_nil, List.append_nil]
    exact (@bloques_finDirecto false _ _ _ _ h).trans rfl

lemma bloques_processMar2Primaria (env : Env) (p : CtrlPkt) (n : Node) :
    bloques false (n.processMar2Primaria env p).out = bloques false n.out
      ++ (entregasMar2 p.adAddr.mask (n.mar2sDeMar2 p)).map Entrega.mask := by
  have hdirecto (u : Node) (aux1 : In6Addr) :
      bloques false (u.processMar2Directo env p aux1).out = bloques false u.out := by
    rw [processMar2Directo, out_cerrarPrimaria]
    exact bloques_send_of_none rfl
  unfold processMar2Primaria mar2sDeMar2
  dsimp only
  by_cases hc : n.primMask ≠ n.primMaskInicial ∨ n.flagNeighBySecond
  · have hloop := bloques_foldl_processMar2Envio env p (mar2Addr n.hcDim p.srcAddr p.adAddr.mask)
      (n.entrarMar2 p).neighTable (n.entrarMar2 p) false
    rw [if_pos hc, if_pos hc]
    generalize (n.entrarMar2 p).neighTable.foldl _ _ = s at hloop ⊢
    split_ifs
    · exact (bloques_send_of_none rfl).trans hloop
    · exact (hdirecto _ _).trans hloop
  · rw [if_neg hc, if_neg hc, hdirecto, entregasMar2, List.map_nil, List.append_nil]
    rfl

lemma bloques_dispatchMar1 {env : Env} {p : CtrlPkt} {n n' : Node}
    (h : n.dispatchMar1 env p = some n') :
    bloques false n'.out = bloques false n.out ++ (n.entregasMar1 p).map Entrega.mask := by
  unfold dispatchMar1 at h
  rw [← recuperarDir] at h
  unfold entregasMar1 mar1Primaria
  rw [← out_recuperarDir p n]
  generalize n.recuperarDir p = m at h ⊢
  dsimp only at h ⊢
  by_cases hpasa : (p.adAddr.redNumero ≠ m.redNumero ∨ m.secAddrFlag) ∧ p.adAddr.addr = m.primAddr
  · rw [if_pos hpasa] at h
    unfold processMar1 at h
    by_cases hsec : p.adAddr.addr = m.secAddr
    · have hman (u : Node) (src dst srcOrig : In6Addr) (maskOrig red : UChar) :
          bloques false (u.sendMan1 env src dst srcOrig maskOrig red).out = bloques false u.out :=
        bloques_send_of_none rfl
      rw [if_neg fun hc => hc.2 hsec, List.map_nil, List.append_nil]
      rw [if_pos hsec] at h
      obtain rfl := Option.some.inj h
      unfold processMar1Secundaria
      dsimp only
      split_ifs
      · rw [out_finMezcla]
        exact hman _ _ _ _ _ _
      · exact hman _ _ _ _ _ _
    · rw [if_pos ⟨hpasa, hsec⟩]
      rw [if_neg hsec] at h
      have hprim := bloques_processMar1Primaria h
      exact hprim
  · rw [if_neg hpasa] at h
    rw [if_neg fun hc => hpasa hc.1, ← Option.some.inj h, List.map_nil, List.append_nil]

lemma bloques_processMar2 (env : Env) (p : CtrlPkt) (n : Node) :
    bloques false (n.processMar2 env p).out = bloques false n.out
      ++ (if p.adAddr.addr ≠ n.secAddr then entregasMar2 p.adAddr.mask (n.mar2sDeMar2 p)
          else []).map Entrega.mask := by
  unfold processMar2
  dsimp only
  by_cases hsec : p.adAddr.addr = n.secAddr
  · have hman (u : Node) (src dst srcOrig : In6Addr) (maskOrig red : UChar) :
        bloques false (u.sendMan2 env src dst srcOrig maskOrig red).out = bloques false u.out :=
      bloques_send_of_none rfl
    rw [if_pos hsec, if_neg (not_not.mpr hsec), List.map_nil, List.append_nil]
    unfold processMar2Secundaria
    dsimp only
    split_ifs
    · rw [out_finMezcla]
      exact hman _ _ _ _ _ _
    · exact hman _ _ _ _ _ _
  · rw [if_neg hsec, if_pos hsec]
    exact bloques_processMar2Primaria env p { n with flagMezcla := true }

lemma bloques_processHb {env : Env} {hb : CtrlPkt} {n n' : Node} (h : n.processHb env hb = some n') :
    bloques true n'.out = bloques true n.out ++ (n.entregasHb env hb).map Entrega.mask := by
  have hnada {l : List Entrega} (hl : l = []) :
      bloques true n.out = bloques true n.out ++ l.map Entrega.mask := by simp [hl]
  unfold entregasHb
  by_cases hini : n.iniciaMezcla hb
  · rw [processHb_of_iniciaMezcla hini, Option.some.injEq] at h
    rw [if_pos hini, ← h]
    exact bloques_mezcla env hb.primAddr n
  rw [if_neg hini]
  unfold processHb at h
  by_cases hf : n.flagFragmentacion
  · rw [if_pos hf] at h
    rw [← Option.some.inj h]
    exact hnada (if_neg fun hc => hc.1.1 hf)
  by_cases hm : n.flagMezcla
  · rw [if_neg hf, if_pos hm] at h
    rw [← Option.some.inj h]
    exact hnada (if_neg fun hc => hc.1.2 hm)
  rw [if_neg hf, if_neg hm] at h
  rcases detectorDeMezcla_cases env hb n with ⟨hc, -⟩ | ⟨r, hdet⟩
  · exact absurd ⟨⟨hf, hm⟩, hc⟩ hini
  have hofrece : n.ofrece env hb ↔ (¬ n.flagFragmentacion ∧ ¬ n.flagMezcla) ∧ (r ≠ -1 ∧ r ≠ 1)
      ∧ (hb.primAddr ≠ n.primAddr ∧ hb.primAddr ≠ n.secAddr)
      ∧ ¬ n.enlazado hb ∧ ofrecerSecundaria n.addrDeEnlace hb := by
    unfold ofrece
    rw [hdet]
  rw [hdet] at h
  dsimp only at h
  by_cases hr : r = -1 ∨ r = 1
  · rw [if_pos hr] at h
    rw [← Option.some.inj h]
    exact hnada (if_neg fun hc => hr.elim (hofrece.mp hc).2.1.1 (hofrece.mp hc).2.1.2)
  by_cases hp : hb.primAddr = n.primAddr
  · rw [if_neg hr, if_pos hp] at h
    rw [← Option.some.inj h]
    exact hnada (if_neg fun hc => (hofrece.mp hc).2.2.1.1 hp)
  by_cases hs : hb.primAddr = n.secAddr
  · rw [if_neg hr, if_neg hp, if_pos hs] at h
    rw [← Option.some.inj h]
    exact hnada (if_neg fun hc => (hofrece.mp hc).2.2.1.2 hs)
  rw [if_neg hr, if_neg hp, if_neg hs, processHbVecino_eq] at h
  by_cases henl : n.enlazado hb
  · rw [if_pos henl] at h
    obtain ⟨m, hm, rfl⟩ := Option.map_eq_some_iff.mp h
    have hout : m.out = n.out := (congrArg Node.out (oirVecino_eq hm)).trans rfl
    rw [bloques_detectorDeFragmentacion, hout]
    exact hnada (if_neg fun hc => (hofrece.mp hc).2.2.2.1 henl)
  rw [if_neg henl] at h
  by_cases hof : ofrecerSecundaria n.addrDeEnlace hb
  · rw [if_pos hof] at h
    rw [if_pos (hofrece.mpr ⟨⟨hf, hm⟩, not_or.mp hr, ⟨hp, hs⟩, henl, hof⟩), ← Option.some.inj h]
    exact bloques_chkSecAddr1 true env hb.primAddr n
  · rw [if_neg hof] at h
    rw [← Option.some.inj h]
    exact hnada (if_neg fun hc => hof (hofrece.mp hc).2.2.2.2)

/-- The event is a heartbeat. -/
def esHb : Event → Bool
  | .recv _ (.ctrl p) => p.pktTypeF = .hb
  | _ => false

/-- **The blocks a node hands out in a step.** -/
def entregas (n : Node) (e : Event) : List Entrega :=
  match e with
  | .recv env (.ctrl p) =>
      if n.timers.expiredTQ ≠ [] then []
      else
        match p.pktTypeF with
        | .par => n.entregasPap
        | .hb => n.entregasHb env p
        | .mar1 => n.entregasMar1 p
        | .mar2 => n.entregasDeMar2 p
        | _ => []
  | _ => []

/-- What has been sent before makes no difference. -/
lemma entregas_vaciar (n : Node) (e : Event) : n.vaciar.entregas e = n.entregas e := by
  have hmar1 (p : CtrlPkt) : n.vaciar.entregasMar1 p = n.entregasMar1 p := by
    have hrec : n.vaciar.recuperarDir p = (n.recuperarDir p).vaciar := by
      by_cases hini : p.adAddr.redNumero = n.redNumero ∧ n.primAddr = dirDefault
      · rw [recuperarDir, recuperarDir, if_pos hini]
        exact if_pos hini
      · rw [recuperarDir, recuperarDir, if_neg hini]
        exact if_neg hini
    unfold entregasMar1 mar1Primaria
    rw [hrec]
    generalize n.recuperarDir p = m
    dsimp only
    by_cases hpasa : ((p.adAddr.redNumero ≠ m.redNumero ∨ m.secAddrFlag) ∧ p.adAddr.addr = m.primAddr)
        ∧ p.adAddr.addr ≠ m.secAddr
    · have hpasa' : ((p.adAddr.redNumero ≠ m.vaciar.redNumero ∨ m.vaciar.secAddrFlag)
          ∧ p.adAddr.addr = m.vaciar.primAddr) ∧ p.adAddr.addr ≠ m.vaciar.secAddr := hpasa
      rw [if_pos hpasa, if_pos hpasa']
      rfl
    · have hpasa' : ¬ (((p.adAddr.redNumero ≠ m.vaciar.redNumero ∨ m.vaciar.secAddrFlag)
          ∧ p.adAddr.addr = m.vaciar.primAddr) ∧ p.adAddr.addr ≠ m.vaciar.secAddr) := hpasa
      rw [if_neg hpasa, if_neg hpasa']
  have hhb (env : Env) (hb : CtrlPkt) : n.vaciar.entregasHb env hb = n.entregasHb env hb := by
    have hdet : (n.vaciar.detectorDeMezcla env hb).2 = (n.detectorDeMezcla env hb).2 := by
      simp only [detectorDeMezcla, apply_ite Prod.snd]
      rfl
    have hof : n.vaciar.ofrece env hb ↔ n.ofrece env hb := by
      unfold ofrece
      rw [hdet]
      exact Iff.rfl
    exact if_congr Iff.rfl rfl (if_congr hof rfl rfl)
  cases e with
  | timeout now => rfl
  | fire env => rfl
  | recv env pkt =>
      cases pkt with
      | rv p => rfl
      | ctrl p =>
          unfold entregas
          dsimp only
          rw [hmar1, hhb]
          rfl

lemma bloques_sendPanc (env : Env) (dst primary chosenAddr : In6Addr) (n : Node) :
    bloques false (n.sendPanc env dst primary chosenAddr).out = bloques false n.out := by
  unfold sendPanc
  dsimp only
  split_ifs
  · exact bloques_send_of_none rfl
  · exact bloques_send_of_none rfl

/-- The confirmations of a merge are answered with nothing. -/
lemma out_processMan1 (env : Env) (p : CtrlPkt) (n : Node) : (n.processMan1 env p).out = n.out := by
  unfold processMan1
  dsimp only
  split_ifs
  · rfl
  · rfl
  · exact out_finMezcla env _
  · rfl
  · rfl

lemma out_processMan2 (env : Env) (p : CtrlPkt) (n : Node) : (n.processMan2 env p).out = n.out := by
  unfold processMan2
  dsimp only
  split_ifs
  · exact out_finMezcla env _
  · rfl
  · rfl

/-- The blocks in the answers to a packet. -/
lemma bloques_antopProcessPkt {env : Env} {p : CtrlPkt} {n n' : Node}
    (h : antopProcessPkt env (.ctrl p) n = some n') (hexp : n.timers.expiredTQ = []) :
    bloques (esHb (.recv env (.ctrl p))) n'.out = bloques (esHb (.recv env (.ctrl p))) n.out
      ++ (n.entregas (.recv env (.ctrl p))).map Entrega.mask := by
  have hesp : ¬ n.timers.expiredTQ ≠ [] := not_not.mpr hexp
  have hnada (hno : n.entregas (.recv env (.ctrl p)) = [])
      (hout : bloques false n'.out = bloques false n.out) (htipo : p.pktTypeF ≠ .hb) :
      bloques (esHb (.recv env (.ctrl p))) n'.out = bloques (esHb (.recv env (.ctrl p))) n.out
        ++ (n.entregas (.recv env (.ctrl p))).map Entrega.mask := by
    have hhb : esHb (.recv env (.ctrl p)) = false := decide_eq_false htipo
    rw [hno, hhb, hout, List.map_nil, List.append_nil]
  unfold antopProcessPkt at h
  dsimp only at h
  cases htipo : p.pktTypeF with
  | par =>
      have hent : n.entregas (.recv env (.ctrl p)) = n.entregasPap := by
        rw [entregas, if_neg hesp, htipo]
      have hhb : esHb (.recv env (.ctrl p)) = false := decide_eq_false (by rw [htipo]; decide)
      rw [htipo, Option.some.injEq] at h
      rw [hent, hhb, ← h]
      exact bloques_sendPap false env p.srcAddr n
  | pan =>
      refine hnada (by rw [entregas, if_neg hesp, htipo]) ?_ (by rw [htipo]; decide)
      rw [htipo] at h
      dsimp only at h
      split_ifs at h
      · rw [← Option.some.inj h]
      · rw [← Option.some.inj h, bloques_sendPanc]
      · rw [← Option.some.inj h]
  | hb =>
      have hent : n.entregas (.recv env (.ctrl p)) = n.entregasHb env p := by
        rw [entregas, if_neg hesp, htipo]
      have hhb : esHb (.recv env (.ctrl p)) = true := decide_eq_true htipo
      rw [htipo] at h
      dsimp only at h
      rw [hent, hhb]
      by_cases hf : n.flagFragmentacion ∨ n.flagMezcla
      · have hproc : n.processHb env p = some n := by
          unfold processHb
          by_cases hff : n.flagFragmentacion
          · rw [if_pos hff]
          · rw [if_neg hff, if_pos (hf.resolve_left hff)]
        rw [if_pos hf] at h
        rw [← Option.some.inj h]
        exact bloques_processHb hproc
      · rw [if_neg hf] at h
        exact bloques_processHb h
  | mar1 =>
      have hent : n.entregas (.recv env (.ctrl p)) = n.entregasMar1 p := by
        rw [entregas, if_neg hesp, htipo]
      have hhb : esHb (.recv env (.ctrl p)) = false := decide_eq_false (by rw [htipo]; decide)
      rw [htipo] at h
      rw [hent, hhb]
      exact bloques_dispatchMar1 h
  | mar2 =>
      have hent : n.entregas (.recv env (.ctrl p)) = n.entregasDeMar2 p := by
        rw [entregas, if_neg hesp, htipo]
      have hhb : esHb (.recv env (.ctrl p)) = false := decide_eq_false (by rw [htipo]; decide)
      rw [htipo] at h
      dsimp only at h
      rw [hent, hhb, entregasDeMar2]
      by_cases hpasa : p.adAddr.redNumero ≠ n.redNumero ∨ n.secAddrFlag
      · rw [if_pos hpasa] at h
        rw [← Option.some.inj h, bloques_processMar2]
        simp only [hpasa, true_and]
      · rw [if_neg hpasa] at h
        rw [if_neg fun hc => hpasa hc.1, ← Option.some.inj h, List.map_nil, List.append_nil]
  | sap =>
      refine hnada (by rw [entregas, if_neg hesp, htipo]) ?_ (by rw [htipo]; decide)
      rw [htipo] at h
      dsimp only at h
      split_ifs at h
      · rw [← Option.some.inj h]
      · rw [← Option.some.inj h]
      · rw [← Option.some.inj h]
        exact bloques_send_of_none rfl
  | san =>
      refine hnada (by rw [entregas, if_neg hesp, htipo]) ?_ (by rw [htipo]; decide)
      rw [htipo] at h
      obtain ⟨t, rfl⟩ := processSan1_eq h
      rfl
  | far =>
      refine hnada (by rw [entregas, if_neg hesp, htipo]) ?_ (by rw [htipo]; decide)
      rw [htipo] at h
      exact bloques_processFar h
  | fan =>
      refine hnada (by rw [entregas, if_neg hesp, htipo]) ?_ (by rw [htipo]; decide)
      rw [htipo] at h
      rw [← Option.some.inj h]
      unfold processFan
      split_ifs
      · rw [out_finFragmentacion]
      · rfl
  | man1 =>
      refine hnada (by rw [entregas, if_neg hesp, htipo]) ?_ (by rw [htipo]; decide)
      rw [htipo] at h
      dsimp only at h
      split_ifs at h
      · rw [← Option.some.inj h, out_processMan1]
      · rw [← Option.some.inj h]
  | man2 =>
      refine hnada (by rw [entregas, if_neg hesp, htipo]) ?_ (by rw [htipo]; decide)
      rw [htipo] at h
      dsimp only at h
      split_ifs at h
      · rw [← Option.some.inj h, out_processMan2]
      · rw [← Option.some.inj h]
  | pap | panc | rvReg | rvAddrLookup | rvAddrSolve =>
      refine hnada (by rw [entregas, if_neg hesp, htipo]) ?_ (by rw [htipo]; decide)
      rw [htipo] at h
      rw [← Option.some.inj h]

/-- **They are those in the messages it sends.** -/
lemma bloques_step {n n' : Node} {e : Event} (h : n.step e = some n') :
    bloques (esHb e) n'.out = (n.entregas e).map Entrega.mask := by
  rcases step_cases h with ⟨env, pkt, rfl, hexp, h⟩ | ⟨now, rfl, hexp, rfl⟩ | ⟨env, t, rest, rfl, hexp, h⟩
    | ⟨hesp, rfl⟩
  · cases pkt with
    | rv p =>
        unfold antopProcessPkt at h
        dsimp only at h
        split at h
        · rw [← Option.some.inj h]
          rfl
        · rw [← Option.some.inj h]
          rfl
    | ctrl p =>
        have hrecv := bloques_antopProcessPkt h hexp
        rw [entregas_vaciar] at hrecv
        exact hrecv
  · rfl
  · have hout : (n.vaciar.tomarTimer t.id rest).out = [] := rfl
    have hnada : bloques false n'.out = bloques false (n.vaciar.tomarTimer t.id rest).out := by
      generalize n.vaciar.tomarTimer t.id rest = m at h ⊢
      match hid : t.id with
      | .hbT =>
          simp only [timerHandler, hid, Option.some.injEq] at h
          rw [← h, bloques_sendHb]
      | .chkNeighT =>
          simp only [timerHandler, hid] at h
          obtain ⟨u, hu, rfl⟩ := Option.map_eq_some_iff.mp h
          obtain ⟨t, rc, rv, rfl⟩ := checkNeighborsLoop_eq hu
          rfl
      | .rvT =>
          simp only [timerHandler, hid, Option.some.injEq] at h
          rw [← h, out_registerRv]
      | .sanT k =>
          simp only [timerHandler, hid, Option.some.injEq] at h
          rw [← h]
          rfl
    rw [hout] at hnada
    exact hnada
  · cases e with
    | fire env => rfl
    | timeout now => rfl
    | recv env pkt =>
        cases pkt with
        | rv p => rfl
        | ctrl p =>
            have hno : n.entregas (.recv env (.ctrl p)) = [] := if_pos hesp
            rw [hno]
            rfl

/-! ## Along a run -/

/-- There is room for `k` slots from the mask `m` on. -/
def hayLugar (hcDim : ℕ) (m : UChar) (k : ℕ) : Prop := k = 0 ∨ m.toNat + k ≤ min hcDim 255

/-- What a step needs for its blocks to fit. -/
def guardaEntregas (n : Node) (e : Event) : Prop :=
  match e with
  | .recv env (.ctrl p) =>
      n.timers.expiredTQ = [] →
        match p.pktTypeF with
        | .par => n.guardaPap
        | .hb => (n.iniciaMezcla p → n.guardaMezcla)
            ∧ (¬ n.iniciaMezcla p → n.ofrece env p → n.guardaSap p.primAddr)
        | .mar1 => ∀ m, n.mar1Primaria p = some m →
            hayLugar n.hcDim (m.mascaraMar1 p) (m.mar2sDeMar1 p)
        | .mar2 => (p.adAddr.redNumero ≠ n.redNumero ∨ n.secAddrFlag) ∧ p.adAddr.addr ≠ n.secAddr →
            hayLugar n.hcDim p.adAddr.mask (n.mar2sDeMar2 p)
        | _ => True
  | _ => True

/-- The blocks sent in a step have masks from 1 to `hc_dim`, and none is cut from an own block that is
used up. -/
def BloquesQueCaben (n : Node) (e : Event) (n' : Node) : Prop :=
  (∀ b ∈ bloques (esHb e) n'.out, 1 ≤ b ∧ b ≤ n.hcDim)
    ∧ ∀ x ∈ n.entregas e, ∀ m ∈ x.propia, m < n.hcDim

lemma entregasHb_caben_iff (env : Env) (hb : CtrlPkt) (n : Node) :
    (∀ x ∈ n.entregasHb env hb, x.Cabe n.hcDim)
      ↔ (n.iniciaMezcla hb → n.guardaMezcla)
        ∧ (¬ n.iniciaMezcla hb → n.ofrece env hb → n.guardaSap hb.primAddr) := by
  unfold entregasHb
  by_cases hini : n.iniciaMezcla hb
  · rw [if_pos hini, List.forall_mem_singleton, entregaMezcla_cabe_iff]
    exact ⟨fun h => ⟨fun _ => h, fun hno => absurd hini hno⟩, fun h => h.1 hini⟩
  · rw [if_neg hini]
    by_cases hof : n.ofrece env hb
    · rw [if_pos hof, entregasSap_caben_iff]
      exact ⟨fun h => ⟨fun hc => absurd hc hini, fun _ _ => h⟩, fun h => h.2 hini hof⟩
    · rw [if_neg hof]
      exact iff_of_true (by simp) ⟨fun hc => absurd hc hini, fun _ hc => absurd hc hof⟩

/-- **When the blocks of a step fit.** -/
lemma entregas_caben_iff (n : Node) (e : Event) :
    (∀ x ∈ n.entregas e, x.Cabe n.hcDim) ↔ n.guardaEntregas e := by
  match e with
  | .timeout now => exact iff_of_true (by simp [entregas]) trivial
  | .fire env => exact iff_of_true (by simp [entregas]) trivial
  | .recv env (.rv p) => exact iff_of_true (by simp [entregas]) trivial
  | .recv env (.ctrl p) =>
      unfold entregas guardaEntregas
      dsimp only
      by_cases hexp : n.timers.expiredTQ = []
      · rw [if_neg (not_not.mpr hexp), imp_iff_right hexp]
        cases htipo : p.pktTypeF with
        | par => exact entregasPap_caben_iff n
        | hb => exact entregasHb_caben_iff env p n
        | mar1 =>
            unfold entregasMar1
            cases hm : n.mar1Primaria p with
            | none => simp
            | some m =>
                simp only [Option.some.injEq, forall_eq']
                exact entregasMar2_caben_iff n.hcDim _ _
        | mar2 =>
            unfold entregasDeMar2
            dsimp only
            by_cases hpasa : (p.adAddr.redNumero ≠ n.redNumero ∨ n.secAddrFlag)
                ∧ p.adAddr.addr ≠ n.secAddr
            · rw [if_pos hpasa, imp_iff_right hpasa]
              exact entregasMar2_caben_iff n.hcDim _ _
            · rw [if_neg hpasa]
              exact iff_of_true (by simp) fun hc => absurd hc hpasa
        | _ => exact iff_of_true (by simp) trivial
      · rw [if_pos hexp]
        exact iff_of_true (by simp) fun hc => absurd hc hexp

/-- **One step.** -/
lemma bloquesQueCaben_iff {n n' : Node} {e : Event} (h : n.step e = some n') :
    n.BloquesQueCaben e n' ↔ n.guardaEntregas e := by
  rw [← entregas_caben_iff, BloquesQueCaben, bloques_step h, List.forall_mem_map]
  exact forall₂_and.symm

/-- **When the blocks handed out fit the hypercube.**  Along any run, every block that is handed out
has a mask from 1 to `hc_dim` and a node whose mask has reached `hc_dim` gives nothing of its own
block away, exactly when each step finds enough room. -/
theorem bloques_caben_iff (n : Node) (es : List Event) :
    (∀ t ∈ steps step n es, t.1.BloquesQueCaben t.2.1 t.2.2)
      ↔ ∀ t ∈ steps step n es, t.1.guardaEntregas t.2.1 :=
  forall_steps_iff (P := BloquesQueCaben) (G := guardaEntregas)
    fun _ _ _ hstep => bloquesQueCaben_iff hstep

/-- A `PAN` for the root. -/
def panAlRoot : CtrlPkt :=
  { CtrlPkt.zero with
    pktTypeF := .pan, primAddr := slotAddr root 0
    adAddr := { CtrlPkt.zero.adAddr with addr := root } }

/-- The root has given its last slot away when it hears of a network with a greater number. -/
theorem mezcla_offers_65 :
    ¬ ∀ es, ∀ t ∈ steps step ((primAddrInit 64 "r").arrancar ⟨0, 0⟩) es,
      t.1.BloquesQueCaben t.2.1 t.2.2 := by
  intro h
  have hrun : ∀ t ∈ steps step ((primAddrInit 64 "r").arrancar ⟨0, 0⟩)
      (List.replicate 64 (.recv .zero (.ctrl panAlRoot)) ++ [.recv .zero (.ctrl hbDeLaRed7)]),
      ∀ b ∈ bloques (esHb t.2.1) t.2.2.out, 1 ≤ b ∧ b ≤ t.1.hcDim := fun t ht => (h _ t ht).1
  revert hrun
  decide +kernel

end Node
end Antop
