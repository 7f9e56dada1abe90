import Antop.Secondary
import Antop.Fragmentacion
import Antop.Mezcla

/-!
# Heartbeats and neighbours

* `sendHb` — the handler of `hb_t`: three checks of the own state, then a heartbeat for the primary
  address and one for the secondary.
* `processHb` — a heartbeat received.  It may start a merge, propose a secondary address, add or
  refresh a neighbour and detect a fragmentation.
* `checkNeighbors` — the handler of `chk_neigh_t`: neighbours that were not heard are aged and
  deleted, and the address space of a successor is recovered.
-/

namespace Antop

/-- `N_INACT`. -/
def nInact : ℤ := 1

namespace Node

/-- The checks of `send_hb`, made when no merge and no fragmentation is going on. -/
def sendHbChecks (env : Env) (n : Node) : Node :=
  if !n.flagFragmentacion ∧ !n.flagMezcla then
    ((n.checkIfIAmOnly env).checkNeighOfSecondaryAddress).checkNSLTable
  else n

/-- The checks arm no timer. -/
lemma sendHbChecks_timers (env : Env) (n : Node) : (n.sendHbChecks env).timers = n.timers := by
  have honly : (n.checkIfIAmOnly env).timers = n.timers := by
    unfold checkIfIAmOnly
    split_ifs <;> rfl
  have hsec (m : Node) : m.checkNeighOfSecondaryAddress.timers = m.timers := by
    unfold checkNeighOfSecondaryAddress
    dsimp only
    split_ifs <;> rfl
  unfold sendHbChecks
  split_ifs
  · exact (hsec _).trans honly
  · rfl

/-- `send_hb`; `timer` says whether it is called by the timer. -/
def sendHb (env : Env) (timer : Bool) (n : Node) : Node :=
  let n := n.sendHbChecks env
  let n := if timer then n.timerAddMsec .hbT 5000 env.clock else n
  let hb := { env.heap with
    pktTypeF := .hb, primAddr := n.primAddr, srcAddr := n.primAddr
    adAddr := { tLenght := n.primMaskInicial, mask := n.primMask, redNumero := n.redNumero
                addr := n.secAddr } }
  let enviar := !n.flagFragmentacion && !n.flagMezcla
  let n := if enviar then n.send multicast hb else n
  if n.secAddrFlag ∧ enviar then
    n.send multicast { hb with primAddr := n.secAddr, adAddr := { hb.adAddr with mask := n.secMask } }
  else n

/-- The node after the timer is armed and heartbeats are sent. -/
def conTimersOut (n : Node) (timers : TimerQueue) (out : List (In6Addr × CtrlPkt)) : Node :=
  { n with timers := timers, out := out }

/-- **What `send_hb` changes** besides its checks. -/
lemma sendHb_eq (env : Env) (timer : Bool) (n : Node) :
    ∃ ts o, n.sendHb env timer = (n.sendHbChecks env).conTimersOut ts o
      ∧ KeepsTimers (n.sendHbChecks env).timers ts := by
  unfold sendHb
  generalize n.sendHbChecks env = m
  have ht : ∃ ts, (if timer then m.timerAddMsec .hbT 5000 env.clock else m) = m.conTimersOut ts m.out
      ∧ KeepsTimers m.timers ts := by
    split_ifs
    · exact ⟨_, rfl, keepsTimers_timerAddMsec _ _ _ _⟩
    · exact ⟨m.timers, rfl, .refl _⟩
  obtain ⟨ts, ht, hts⟩ := ht
  dsimp only
  rw [ht]
  split_ifs
  · exact ⟨ts, _, rfl, hts⟩
  · exact ⟨ts, _, rfl, hts⟩
  · exact ⟨ts, _, rfl, hts⟩
  · exact ⟨ts, _, rfl, hts⟩

/-- Whether `process_hb` proposes a secondary address to a node that is too far away: neither the
sender nor its secondary address is next to `addr`. -/
def ofrecerSecundaria (addr : In6Addr) (hb : CtrlPkt) : Prop :=
  dist addr hb.srcAddr ≠ 1 ∧ (dist addr hb.adAddr.addr ≠ 1 ∨ hb.adAddr.addr = .zero)

instance (addr : In6Addr) (hb : CtrlPkt) : Decidable (ofrecerSecundaria addr hb) := by
  unfold ofrecerSecundaria
  infer_instance

/-- A heartbeat from a neighbour: it is added to the table or refreshed there. -/
def oirVecino (hb : CtrlPkt) (secFlag : Bool) (n : Node) : Option Node :=
  let n := n.initNeighTable
  match findNeighbor hb.primAddr n.neighTable with
  | none => n.addNeighbor hb secFlag
  | some _ =>
      some { n with
        neighTable := n.neighTable.replaceF fun it =>
          if it.primAddr = hb.primAddr then some { it with count := 0, primMask := hb.adAddr.mask }
          else none }

/-- The address whose neighbours `process_hb` looks for when the primary one is not next to the
sender. -/
def addrDeEnlace (n : Node) : In6Addr := if n.secAddrFlag then n.secAddr else n.primAddr

/-- `process_hb` after the tests on flags, network number and own addresses. -/
def processHbVecino (env : Env) (hb : CtrlPkt) (n : Node) : Option Node :=
  if dist n.primAddr hb.primAddr ≠ 1 ∧ n.primAddrFlag then
    if n.secAddrFlag ∧ dist n.secAddr hb.primAddr = 1 then
      (n.oirVecino hb true).map fun n => n.detectorDeFragmentacion env
    else if ofrecerSecundaria n.addrDeEnlace hb then some (n.chkSecAddr1 env hb.primAddr)
    else some n
  else (n.oirVecino hb false).map fun n => n.detectorDeFragmentacion env

/-- `process_hb`. -/
def processHb (env : Env) (hb : CtrlPkt) (n : Node) : Option Node :=
  if n.flagFragmentacion then some n
  else if n.flagMezcla then some n
  else
    let (n, flagDetectorMezcla) := n.detectorDeMezcla env hb
    if flagDetectorMezcla = -1 ∨ flagDetectorMezcla = 1 then some n
    else if hb.primAddr = n.primAddr then some n
    else if hb.primAddr = n.secAddr then some n
    else n.processHbVecino env hb

/-- The heartbeats that come from a neighbour: `process_hb` enters or refreshes the sender. -/
def escucha (env : Env) (hb : CtrlPkt) (n : Node) : Prop :=
  (¬ n.flagFragmentacion ∧ ¬ n.flagMezcla)
    ∧ ((n.detectorDeMezcla env hb).2 ≠ -1 ∧ (n.detectorDeMezcla env hb).2 ≠ 1)
    ∧ (hb.primAddr ≠ n.primAddr ∧ hb.primAddr ≠ n.secAddr)
    ∧ (dist n.primAddr hb.primAddr = 1 ∨ ¬ n.primAddrFlag
      ∨ n.secAddrFlag ∧ dist n.secAddr hb.primAddr = 1)

instance (env : Env) (hb : CtrlPkt) (n : Node) : Decidable (n.escucha env hb) := by
  unfold escucha
  infer_instance

/-- The heartbeats that start a merge. -/
def iniciaMezcla (hb : CtrlPkt) (n : Node) : Prop :=
  (¬ n.flagFragmentacion ∧ ¬ n.flagMezcla)
    ∧ n.redNumero < hb.adAddr.redNumero ∧ ¬ n.flagConexion ∧ n.flagInit

lemma oirVecino_eq {hb : CtrlPkt} {secFlag : Bool} {n m : Node}
    (h : n.oirVecino hb secFlag = some m) : m = n.conTablas m.neighTable n.rvTable n.out := by
  unfold oirVecino at h
  dsimp only at h
  split at h
  · obtain ⟨t, -, rfl⟩ := addNeighbor_eq_some.mp h
    rfl
  · obtain rfl := Option.some.inj h
    rfl

/-- **What a heartbeat does to the table**: its sender is alone in it when it has no entry, or one with the
null address in front; otherwise it is added at the end, or refreshed. -/
lemma oirVecino_cases {hb : CtrlPkt} {secFlag : Bool} {n m : Node} (h : n.oirVecino hb secFlag = some m) :
    (∀ head ∈ n.neighTable.head?, head.primAddr = .zero) ∧ m.neighTable = [newNeighbor hb secFlag]
      ∨ (∃ head ∈ n.neighTable.head?, head.primAddr ≠ .zero)
        ∧ ((n.neighTable.find? fun it => it.primAddr = hb.primAddr) = none
            ∧ m.neighTable = n.neighTable ++ [newNeighbor hb secFlag]
          ∨ ∃ it, (n.neighTable.find? fun it => it.primAddr = hb.primAddr) = some it
            ∧ m.neighTable = n.neighTable.replaceF fun it =>
              if it.primAddr = hb.primAddr then some { it with count := 0, primMask := hb.adAddr.mask }
              else none) := by
  cases htab : n.neighTable with
  | nil =>
      have hnull : findNeighbor hb.primAddr n.initNeighTable.neighTable = none := by
        simp [initNeighTable, htab, findNeighbor]
      rw [oirVecino, hnull] at h
      obtain ⟨t, ht, rfl⟩ := addNeighbor_eq_some.mp h
      have hsolo : [newNeighbor hb secFlag] = t := by
        simpa [initNeighTable, htab, addNeighborTable] using ht
      exact Or.inl ⟨by simp, hsolo.symm⟩
  | cons head rest =>
      have hinit : n.initNeighTable = n := by rw [initNeighTable, if_neg (by simp [htab])]
      rw [oirVecino, hinit, htab, findNeighbor] at h
      by_cases hzero : head.primAddr = .zero
      · rw [if_pos hzero] at h
        obtain ⟨t, ht, rfl⟩ := addNeighbor_eq_some.mp h
        rw [htab, addNeighborTable, if_pos hzero] at ht
        exact Or.inl ⟨by simpa using hzero, (Option.some.inj ht).symm⟩
      · rw [if_neg hzero] at h
        refine Or.inr ⟨⟨head, rfl, hzero⟩, ?_⟩
        cases hfind : (head :: rest).find? fun it => it.primAddr = hb.primAddr with
        | none =>
            rw [hfind] at h
            obtain ⟨t, ht, rfl⟩ := addNeighbor_eq_some.mp h
            rw [htab, addNeighborTable, if_neg hzero] at ht
            exact Or.inl ⟨rfl, (Option.some.inj ht).symm⟩
        | some it =>
            rw [hfind] at h
            obtain rfl := Option.some.inj h
            exact Or.inr ⟨it, rfl, rfl⟩

lemma detectorDeMezcla_cases (env : Env) (hb : CtrlPkt) (n : Node) :
    (n.redNumero < hb.adAddr.redNumero ∧ ¬ n.flagConexion ∧ n.flagInit)
        ∧ n.detectorDeMezcla env hb = (n.mezcla env hb.primAddr, 1)
      ∨ ∃ r, n.detectorDeMezcla env hb = (n, r) := by
  unfold detectorDeMezcla
  split_ifs with h
  · exact Or.inl ⟨by simpa using h, rfl⟩
  · exact Or.inr ⟨_, rfl⟩
  · exact Or.inr ⟨_, rfl⟩
  · exact Or.inr ⟨_, rfl⟩

lemma processHbVecino_cases {env : Env} {hb : CtrlPkt} {n n' : Node}
    (h : n.processHbVecino env hb = some n') :
    n' = n ∨ n' = n.chkSecAddr1 env hb.primAddr
      ∨ (dist n.primAddr hb.primAddr = 1 ∨ ¬ n.primAddrFlag
          ∨ n.secAddrFlag ∧ dist n.secAddr hb.primAddr = 1)
        ∧ ∃ secFlag m, n.oirVecino hb secFlag = some m ∧ n' = m.detectorDeFragmentacion env := by
  unfold processHbVecino at h
  split_ifs at h with hfar hsec hofrecer
  · obtain ⟨m, hm, rfl⟩ := Option.map_eq_some_iff.mp h
    exact Or.inr (Or.inr ⟨Or.inr (Or.inr hsec), true, m, hm, rfl⟩)
  · exact Or.inr (Or.inl (Option.some.inj h).symm)
  · exact Or.inl (Option.some.inj h).symm
  · obtain ⟨m, hm, rfl⟩ := Option.map_eq_some_iff.mp h
    exact Or.inr (Or.inr ⟨by tauto, false, m, hm, rfl⟩)

/-- **What `process_hb` does**: nothing, a merge, a proposal, or a neighbour and the detector. -/
lemma processHb_cases {env : Env} {hb : CtrlPkt} {n n' : Node} (h : n.processHb env hb = some n') :
    n' = n ∨ (n.iniciaMezcla hb ∧ n' = n.mezcla env hb.primAddr)
      ∨ n' = n.chkSecAddr1 env hb.primAddr
      ∨ n.escucha env hb
        ∧ ∃ secFlag m, n.oirVecino hb secFlag = some m ∧ n' = m.detectorDeFragmentacion env := by
  unfold processHb at h
  by_cases hf : n.flagFragmentacion
  · rw [if_pos hf] at h
    exact Or.inl (Option.some.inj h).symm
  rw [if_neg hf] at h
  by_cases hm : n.flagMezcla
  · rw [if_pos hm] at h
    exact Or.inl (Option.some.inj h).symm
  rw [if_neg hm] at h
  rcases detectorDeMezcla_cases env hb n with ⟨hini, hdet⟩ | ⟨r, hdet⟩
  · rw [hdet] at h
    exact Or.inr (Or.inl ⟨⟨⟨hf, hm⟩, hini⟩, (Option.some.inj h).symm⟩)
  · rw [hdet] at h
    dsimp only at h
    split_ifs at h with hr hprim hsec
    · exact Or.inl (Option.some.inj h).symm
    · exact Or.inl (Option.some.inj h).symm
    · exact Or.inl (Option.some.inj h).symm
    · rcases processHbVecino_cases h with rfl | rfl | ⟨hd, hoir⟩
      · exact Or.inl rfl
      · exact Or.inr (Or.inr (Or.inl rfl))
      · refine Or.inr (Or.inr (Or.inr ⟨⟨⟨hf, hm⟩, ?_, ⟨hprim, hsec⟩, hd⟩, hoir⟩))
        rw [hdet]
        exact not_or.mp hr

/-- The sender of a heartbeat is a neighbour by the secondary address. -/
def porSecundaria (hb : CtrlPkt) (n : Node) : Bool :=
  decide (dist n.primAddr hb.primAddr ≠ 1) && n.primAddrFlag

/-- A heartbeat from a neighbour. -/
lemma processHb_of_escucha {env : Env} {hb : CtrlPkt} {n : Node} (h : n.escucha env hb) :
    n.processHb env hb
      = (n.oirVecino hb (n.porSecundaria hb)).map fun n => n.detectorDeFragmentacion env := by
  obtain ⟨⟨hf, hm⟩, hdet, hself, hd⟩ := h
  have hvecino : n.processHbVecino env hb
      = (n.oirVecino hb (n.porSecundaria hb)).map fun n => n.detectorDeFragmentacion env := by
    unfold processHbVecino porSecundaria
    by_cases hfar : dist n.primAddr hb.primAddr ≠ 1 ∧ n.primAddrFlag
    · have hsec : n.secAddrFlag ∧ dist n.secAddr hb.primAddr = 1 := by tauto
      rw [if_pos hfar, if_pos hsec, decide_eq_true hfar.1, hfar.2]
      rfl
    · have hno : (decide (dist n.primAddr hb.primAddr ≠ 1) && n.primAddrFlag) = false := by
        simpa using hfar
      rw [if_neg hfar, hno]
  unfold processHb
  rw [if_neg hf, if_neg hm]
  rcases detectorDeMezcla_cases env hb n with ⟨-, heq⟩ | ⟨r, heq⟩
  · exact absurd (congrArg Prod.snd heq) hdet.2
  · rw [heq] at hdet ⊢
    dsimp only at hdet ⊢
    rw [if_neg (not_or.mpr hdet), if_neg hself.1, if_neg hself.2, hvecino]

/-- A heartbeat that starts a merge. -/
lemma processHb_of_iniciaMezcla {env : Env} {hb : CtrlPkt} {n : Node} (h : n.iniciaMezcla hb) :
    n.processHb env hb = some (n.mezcla env hb.primAddr) := by
  obtain ⟨⟨hf, hm⟩, hini⟩ := h
  have hdet : n.detectorDeMezcla env hb = (n.mezcla env hb.primAddr, 1) := if_pos (by simpa using hini)
  unfold processHb
  rw [if_neg hf, if_neg hm, hdet]
  rfl

/-- Neither of the two. -/
lemma escucha_not_iniciaMezcla {env : Env} {hb : CtrlPkt} {n : Node} (h : n.escucha env hb) :
    ¬ n.iniciaMezcla hb := by
  intro hini
  have hdet : n.detectorDeMezcla env hb = (n.mezcla env hb.primAddr, 1) :=
    if_pos (by simpa using hini.2)
  exact h.2.1.2 (congrArg Prod.snd hdet)

/-- The loop of `check_neighbors` over the entries still to be visited, with those already
visited.  `none` is a call of `check_succesor` that does not end. -/
def checkNeighborsLoop : List Neighbor → List Neighbor → Node → Option Node
  | visited, [], n => some { n with neighTable := visited }
  | visited, it :: rest, n =>
      if it.count = 0 then checkNeighborsLoop (visited ++ [{ it with count := -1 }]) rest n
      else if it.count = -1 then checkNeighborsLoop (visited ++ [{ it with count := 1 }]) rest n
      else if 0 < it.count ∧ it.count < nInact then
        checkNeighborsLoop (visited ++ [{ it with count := it.count + 1 }]) rest n
      else if nInact ≤ it.count then
        match checkSuccesor n.primAddr it.primAddr with
        | none => none
        | some succesor =>
            let n := if succesor then n.recoverAddrSpace it.primAddr it.primMaskInicial else n
            -- the first entry with this address is among the visited ones or is this one
            let t := deleteEntry it.primAddr (visited ++ [it], n.rvTable)
            checkNeighborsLoop t.1 rest { n with rvTable := t.2 }
      else checkNeighborsLoop (visited ++ [it]) rest n

/-- What the loop of `check_neighbors` changes: the neighbours, the recovered addresses and the
registrations. -/
lemma checkNeighborsLoop_eq {visited its : List Neighbor} {n n' : Node}
    (h : checkNeighborsLoop visited its n = some n') :
    ∃ t rc rv, n' = { n with neighTable := t, rcvdAddr := rc, rvTable := rv } := by
  induction its generalizing visited n with
  | nil => exact ⟨visited, n.rcvdAddr, n.rvTable, (Option.some.inj h).symm⟩
  | cons it its ih =>
      rw [checkNeighborsLoop] at h
      split_ifs at h
      · exact ih h
      · exact ih h
      · exact ih h
      · split at h
        · exact absurd h (by simp)
        · obtain ⟨t, rc, rv, rfl⟩ := ih h
          exact ⟨t, rc, rv, by split <;> rfl⟩
      · exact ih h

/-- `check_neighbors`. -/
def checkNeighbors (env : Env) (n : Node) : Option Node :=
  (checkNeighborsLoop [] n.neighTable n).map fun n => n.timerAddMsec .chkNeighT 8000 env.clock

end Node

end Antop
