import Antop.Recuperadas

/-!
# The neighbour table

`add_neighbor` appends an entry without looking for one, and reads the head of the table without
asking whether there is a table.  `process_hb` calls `init_neigh_table` and `find_neighbor` before
it, `process_san1` and `process_far` neither.

* `Node.vecinos_nodup_iff` — along a run, no neighbour is in the table twice exactly when every step
  meets `Node.guardaUnica`: each `SAN`, and each `FAR` for the primary address, comes from a sender
  that is not in the table, or its second entry is deleted again.
* `Node.tabla_presente_iff` — along a run, no packet is handled on a missing table exactly when no
  `SAN`, and no `FAR` for the primary address, comes to a node without neighbours.
-/

namespace Antop

open Transition

/-- The sender of a message is entered into a table in which it is already. -/
def entraRepetido (a : In6Addr) : List Neighbor → Prop
  | [] => False
  | head :: rest => head.primAddr ≠ .zero ∧ a ∈ (head :: rest).map Neighbor.primAddr

instance (a : In6Addr) (t : List Neighbor) : Decidable (entraRepetido a t) :=
  match t with
  | [] => inferInstanceAs (Decidable False)
  | head :: rest =>
      inferInstanceAs (Decidable (head.primAddr ≠ .zero ∧ a ∈ (head :: rest).map Neighbor.primAddr))

/-- The addresses after `add_neighbor`. -/
lemma addNeighborTable_cases {hb : CtrlPkt} {secFlag : Bool} {t t' : List Neighbor}
    (h : addNeighborTable hb secFlag t = some t') :
    t'.map Neighbor.primAddr = [hb.primAddr] ∧ ¬ entraRepetido hb.primAddr t
      ∨ t'.map Neighbor.primAddr = t.map Neighbor.primAddr ++ [hb.primAddr]
        ∧ (entraRepetido hb.primAddr t ↔ hb.primAddr ∈ t.map Neighbor.primAddr) := by
  cases t with
  | nil => simp [addNeighborTable] at h
  | cons head rest =>
      rw [addNeighborTable] at h
      split_ifs at h with hzero
      · obtain rfl := Option.some.inj h
        exact Or.inl ⟨rfl, fun hc => hc.1 hzero⟩
      · obtain rfl := Option.some.inj h
        exact Or.inr ⟨by simp [newNeighbor], ⟨fun hc => hc.2, fun hc => ⟨hzero, hc⟩⟩⟩

/-- **`add_neighbor`** keeps the addresses apart exactly when the sender is not there yet. -/
lemma nodup_addNeighborTable {hb : CtrlPkt} {secFlag : Bool} {t t' : List Neighbor}
    (h : addNeighborTable hb secFlag t = some t') (ht : (t.map Neighbor.primAddr).Nodup) :
    (t'.map Neighbor.primAddr).Nodup ↔ ¬ entraRepetido hb.primAddr t := by
  rcases addNeighborTable_cases h with ⟨heq, hno⟩ | ⟨heq, hiff⟩
  · simp [heq, hno]
  · rw [heq, hiff, List.nodup_append]
    simp [ht]

namespace Node

lemma vecinos_deleteNeighbor (n : Node) (addr : In6Addr) :
    (n.deleteNeighbor addr).vecinos = n.vecinos.erase addr :=
  map_primAddr_deleteEntry _ _

/-! ## The loops that only delete -/

lemma vecinos_processMar1Envio (env : Env) (antopMsg : CtrlPkt) (origen : In6Addr) (monitoreo : Bool)
    (s : Mar1Loop) (it : Neighbor) :
    (processMar1Envio env antopMsg origen monitoreo s it).node.vecinos.Sublist s.node.vecinos := by
  unfold processMar1Envio
  dsimp only
  split_ifs
  · rw [vecinos_deleteNeighbor]
    exact List.erase_sublist
  · rw [vecinos_deleteNeighbor]
    exact List.erase_sublist
  · rw [vecinos_deleteNeighbor]
    exact List.erase_sublist
  · exact List.Sublist.refl _

lemma vecinos_processMar2Envio (env : Env) (antopMsg : CtrlPkt) (aux1 : In6Addr) (s : Node × Bool)
    (it : Neighbor) :
    (processMar2Envio env antopMsg aux1 s it).1.vecinos.Sublist s.1.vecinos := by
  unfold processMar2Envio
  dsimp only
  split_ifs
  · rw [vecinos_deleteNeighbor]
    exact List.erase_sublist
  · rw [vecinos_deleteNeighbor]
    exact List.erase_sublist
  · exact List.Sublist.refl _

/-- A loop whose body only deletes neighbours. -/
lemma vecinos_foldl {σ : Type} (nodo : σ → Node) (f : σ → Neighbor → σ)
    (hf : ∀ s it, (nodo (f s it)).vecinos.Sublist (nodo s).vecinos) (its : List Neighbor) (s : σ) :
    (nodo (its.foldl f s)).vecinos.Sublist (nodo s).vecinos := by
  induction its generalizing s with
  | nil => exact List.Sublist.refl _
  | cons it its ih => exact (ih _).trans (hf s it)


/-- `check_neighbors` gives up neighbours and finds none. -/
lemma vecinos_checkNeighborsLoop {visited its : List Neighbor} {n n' : Node}
    (h : checkNeighborsLoop visited its n = some n') :
    n'.vecinos.Sublist ((visited ++ its).map Neighbor.primAddr) := by
  induction its generalizing visited n with
  | nil =>
      obtain rfl := Option.some.inj h
      rw [List.append_nil]
      exact List.Sublist.refl _
  | cons it its ih =>
      have hsame : (visited ++ [it]) ++ its = visited ++ it :: its := by simp
      have hstay (c : ℤ) : ((visited ++ [{ it with count := c }]) ++ its).map Neighbor.primAddr
          = (visited ++ it :: its).map Neighbor.primAddr := by
        simp
      rw [checkNeighborsLoop] at h
      split_ifs at h
      · exact hstay _ ▸ ih h
      · exact hstay _ ▸ ih h
      · exact hstay _ ▸ ih h
      · split at h
        · exact absurd h (by simp)
        · refine (ih h).trans ?_
          rw [← hsame, List.map_append, List.map_append, map_primAddr_deleteEntry]
          exact List.erase_sublist.append_right _
      · exact hsame ▸ ih h

lemma vecinos_checkNeighbors {env : Env} {n n' : Node} (h : n.checkNeighbors env = some n') :
    n'.vecinos.Sublist n.vecinos := by
  obtain ⟨m, hm, rfl⟩ := Option.map_eq_some_iff.mp h
  exact vecinos_checkNeighborsLoop hm

/-! ## The handlers that keep the table -/

@[simp] lemma vecinos_registerRv (env : Env) (n : Node) : (n.registerRv env).vecinos = n.vecinos := by
  rw [registerRv_eq]
  rfl

@[simp] lemma vecinos_finMezcla (env : Env) (n : Node) : (n.finMezcla env).vecinos = n.vecinos :=
  vecinos_registerRv env _

@[simp] lemma vecinos_finFragmentacion (env : Env) (n : Node) :
    (n.finFragmentacion env).vecinos = n.vecinos :=
  vecinos_registerRv env _

@[simp] lemma vecinos_cerrarPrimaria (env : Env) (n : Node) :
    (n.cerrarPrimaria env).vecinos = n.vecinos := by
  unfold cerrarPrimaria
  split_ifs
  · exact vecinos_finMezcla env n
  · rfl

/-- `send_hb` leaves the neighbours. -/
lemma vecinos_sendHb (env : Env) (timer : Bool) (n : Node) :
    (n.sendHb env timer).vecinos = n.vecinos := by
  obtain ⟨ts, o, heq, -⟩ := sendHb_eq env timer n
  have honly (m : Node) : (m.checkIfIAmOnly env).neighTable = m.neighTable := by
    unfold checkIfIAmOnly
    split_ifs <;> rfl
  have hsec (m : Node) : m.checkNeighOfSecondaryAddress.neighTable = m.neighTable := by
    unfold checkNeighOfSecondaryAddress
    dsimp only
    split_ifs <;> rfl
  have hchecks : (n.sendHbChecks env).neighTable = n.neighTable := by
    unfold sendHbChecks
    split_ifs
    · exact (hsec _).trans (honly n)
    · rfl
  rw [heq]
  exact congrArg (List.map Neighbor.primAddr) hchecks

/-- The detector keeps the neighbours or loses them all. -/
lemma vecinos_detectorDeFragmentacion (env : Env) (n : Node) :
    (n.detectorDeFragmentacion env).vecinos = n.vecinos
      ∨ (n.detectorDeFragmentacion env).vecinos = [] := by
  rcases detectorDeFragmentacion_cases env n with heq | heq | ⟨-, heq⟩
  · exact Or.inl (by rw [heq])
  · exact Or.inl (by rw [heq]; rfl)
  · rw [heq, fragmentacion_eq]
    exact Or.inr rfl

/-- **`process_hb`** looks for the sender before it enters it. -/
lemma nodup_processHb {env : Env} {hb : CtrlPkt} {n n' : Node} (h : n.vecinos.Nodup)
    (hstep : n.processHb env hb = some n') : n'.vecinos.Nodup := by
  rcases processHb_cases hstep with rfl | ⟨-, rfl⟩ | rfl | ⟨-, secFlag, m, hm, rfl⟩
  · exact h
  · exact h
  · obtain ⟨ts, o, f, l, heq, -⟩ := chkSecAddr1_eq env hb.primAddr n
    rw [heq]
    exact h
  · rcases vecinos_detectorDeFragmentacion env m with heq | heq
    · rw [heq]
      exact (vecinos_oirVecino hm h).1
    · simp [heq]

/-! ## `SAN` and `FAR` -/

/-- **`process_san1`** enters the sender without looking for it. -/
lemma nodup_processSan1 {msg : CtrlPkt} {n n' : Node} (h : n.vecinos.Nodup)
    (hstep : n.processSan1 msg = some n') :
    n'.vecinos.Nodup ↔ ¬ entraRepetido msg.primAddr n.neighTable := by
  obtain ⟨m, hm, rfl⟩ := Option.map_eq_some_iff.mp hstep
  obtain ⟨t, ht, rfl⟩ := addNeighbor_eq_some.mp hm
  have ht : addNeighborTable { msg with adAddr := { msg.adAddr with mask := msg.adAddr.tLenght } }
      false n.neighTable = some t := ht
  have hiff := nodup_addNeighborTable ht h
  exact hiff

/-- The neighbours the loop of `process_far` deletes: all but the sender and a neighbour with the new
address, and these too when the message was sent from their address. -/
def borraFar (antopMsg : CtrlPkt) (n : Node) (a : In6Addr) : Bool :=
  decide (antopMsg.srcAddr = a ∨ n.neighborToRoot.addr ≠ a ∧ n.primAddr ≠ a)

/-- One round of the loop of `process_far`. -/
lemma vecinos_processFarEnvio (env : Env) (antopMsg : CtrlPkt) (aux1 aux3 : In6Addr) (n : Node)
    (flag : Bool) (it : Neighbor) :
    (processFarEnvio env antopMsg aux1 aux3 (n, flag) it).1.vecinos
      = if n.borraFar antopMsg it.primAddr then n.vecinos.erase it.primAddr else n.vecinos := by
  unfold processFarEnvio
  dsimp only
  by_cases hout : n.neighborToRoot.addr ≠ it.primAddr ∧ n.primAddr ≠ it.primAddr
      ∧ antopMsg.srcAddr ≠ it.primAddr
  · have hborra : n.borraFar antopMsg it.primAddr := by
      simp only [borraFar, decide_eq_true_eq]
      tauto
    rw [if_pos hout, if_pos hborra]
    by_cases hsec : n.secAddrFlag ∧ 1 < dist aux3 it.primAddr
    · rw [if_pos hsec]
      exact vecinos_deleteNeighbor n _
    · rw [if_neg hsec]
      exact vecinos_deleteNeighbor _ _
  · rw [if_neg hout]
    by_cases hsrc : antopMsg.srcAddr = it.primAddr
    · have hborra : n.borraFar antopMsg it.primAddr := by simp [borraFar, hsrc]
      rw [if_pos hsrc, if_pos hborra]
      exact vecinos_deleteNeighbor n _
    · have hborra : ¬ n.borraFar antopMsg it.primAddr := by
        simp only [borraFar, decide_eq_true_eq]
        tauto
      rw [if_neg hsrc, if_neg hborra]

/-- **The neighbours after the loop of `process_far`.** -/
lemma vecinos_foldl_processFarEnvio (env : Env) (antopMsg : CtrlPkt) (aux1 aux3 : In6Addr)
    (its : List Neighbor) (n : Node) (flag : Bool) :
    (its.foldl (processFarEnvio env antopMsg aux1 aux3) (n, flag)).1.vecinos
      = n.vecinos.diff ((its.map Neighbor.primAddr).filter (n.borraFar antopMsg)) := by
  induction its generalizing n flag with
  | nil => rfl
  | cons it its ih =>
      obtain ⟨t, rv, heq⟩ := processFarEnvio_eq env antopMsg aux1 aux3 n flag it
      have hround := vecinos_processFarEnvio env antopMsg aux1 aux3 n flag it
      rw [heq] at hround
      rw [List.foldl_cons, heq, ih, hround, List.map_cons, List.filter_cons]
      by_cases hb : n.borraFar antopMsg it.primAddr
      · rw [if_pos hb, if_pos hb, List.diff_cons]
        rfl
      · rw [if_neg hb, if_neg hb]
        rfl

/-- Whether `process_far` runs its loop. -/
def recorreFar (n : Node) : Prop := n.primMask ≠ n.primMaskInicial ∨ n.flagNeighBySecond

instance (n : Node) : Decidable n.recorreFar := by
  unfold recorreFar
  infer_instance

/-- Taking away all the elements with a property, each as often as it is there. -/
lemma nodup_diff_filter {α : Type*} [DecidableEq α] {l : List α} {p : α → Bool} :
    (l.diff (l.filter p)).Nodup ↔ ∀ a, p a = false → l.count a ≤ 1 := by
  rw [List.nodup_iff_count_le_one]
  refine forall_congr' fun a => ?_
  rw [List.count_diff]
  cases hp : p a with
  | true => simp [List.count_filter hp]
  | false =>
      have hno : (l.filter p).count a = 0 := List.count_eq_zero.mpr (by simp [hp])
      simp [hno]

/-- A list with one element more at its end, of which those with a property are taken away: it stays
without repetition when the element was not there or has the property. -/
lemma nodup_diff_concat {α : Type*} [DecidableEq α] {l : List α} {a : α} {p : α → Bool}
    (hl : l.Nodup) : ((l ++ [a]).diff ((l ++ [a]).filter p)).Nodup ↔ (a ∈ l → p a) := by
  rw [nodup_diff_filter]
  constructor
  · intro h hmem
    by_contra hp
    have hcount := h a (Bool.eq_false_of_not_eq_true hp)
    rw [List.count_append, List.count_eq_one_of_mem hl hmem, List.count_singleton_self] at hcount
    omega
  · intro h b hb
    have hb₁ := List.nodup_iff_count_le_one.mp hl b
    rw [List.count_append]
    by_cases hab : b = a
    · subst hab
      have hno : b ∉ l := fun hmem => by simp [h hmem] at hb
      rw [List.count_eq_zero.mpr hno, List.count_singleton_self]
    · have hne : b ∉ [a] := by simpa using hab
      rw [List.count_eq_zero.mpr hne]
      exact hb₁

/-- **`process_far`** enters the sender without looking for it.  When it was there already, its loop
has to delete both entries. -/
lemma nodup_processFarPrimaria {env : Env} {antopMsg : CtrlPkt} {n n' : Node} (h : n.vecinos.Nodup)
    (hstep : n.processFarPrimaria env antopMsg = some n') :
    n'.vecinos.Nodup ↔ (entraRepetido antopMsg.primAddr n.neighTable →
      n.recorreFar ∧ antopMsg.srcAddr = antopMsg.primAddr) := by
  simp only [processFarPrimaria, Option.bind_eq_bind, Option.bind_eq_some_iff] at hstep
  obtain ⟨n₁, h₁, hstep⟩ := hstep
  obtain ⟨t, o, ht, hn₁⟩ := processFarCambio_eq h₁
  have hv : n₁.vecinos = t.map Neighbor.primAddr := by rw [hn₁]; rfl
  have hroot : n₁.neighborToRoot.addr = antopMsg.primAddr := by rw [hn₁]
  have hrec : n₁.primMask ≠ n.primMaskInicial ∨ n₁.flagNeighBySecond ↔ n.recorreFar := by
    rw [hn₁]
    rfl
  have hfin : n'.vecinos
      = (n₁.processFarEnvios env antopMsg n.primAddr n.primMaskInicial).1.vecinos := by
    obtain ⟨fin, rfl⟩ := exists_bool_of_ite (Option.some.inj hstep)
    cases fin with
    | true => exact vecinos_finFragmentacion env _
    | false => rfl
  have htab : (n.neighTable.map Neighbor.primAddr).Nodup := h
  rw [hfin, processFarEnvios]
  by_cases hr : n.recorreFar
  · rw [if_pos (hrec.mpr hr), vecinos_foldl_processFarEnvio, ← vecinos, hv]
    rcases addNeighborTable_cases ht with ⟨heq, hno⟩ | ⟨heq, hiff⟩
    · have hone := @nodup_diff_concat _ _ [] antopMsg.primAddr (n₁.borraFar antopMsg) List.nodup_nil
      rw [List.nil_append] at hone
      rw [heq, hone]
      simp [hno]
    · rw [heq, nodup_diff_concat htab, hiff]
      refine imp_congr_right fun _ => ?_
      simp [borraFar, hroot, hr]
  · rw [if_neg (fun hc => hr (hrec.mp hc)), hv, nodup_addNeighborTable ht h]
    simp [hr]

/-! ## `MAR1` and `MAR2` -/

/-- The first receiver enters the initiator unless it is there. -/
lemma nodup_agregarEmisor {antopMsg : CtrlPkt} {n m : Node} (h : n.vecinos.Nodup)
    (hm : n.agregarEmisor antopMsg = some m) : m.vecinos.Nodup := by
  obtain ⟨t, ht, rfl⟩ := Option.map_eq_some_iff.mp hm
  unfold tablaConEmisor at ht
  split_ifs at ht with hc
  · refine (nodup_addNeighborTable ht h).mpr fun hrep => ?_
    have haux : (auxAntopMsg antopMsg).primAddr = antopMsg.srcAddr := by
      rw [auxAntopMsg, if_pos hc.1.1]
    have hmem : antopMsg.srcAddr ∈ n.vecinos := by
      rw [haux] at hrep
      cases htab : n.neighTable with
      | nil => exact absurd htab hc.1.2
      | cons head rest =>
          rw [htab] at hrep
          rw [vecinos, htab]
          exact hrep.2
    obtain ⟨it, hit, heq⟩ := List.mem_map.mp hmem
    have hmon : n.flagMonitoreo antopMsg = true := by
      simp only [flagMonitoreo, hc.1.1, decide_true, Bool.true_and, List.any_eq_true]
      exact ⟨it, hit, by simpa using heq⟩
    simp [hmon] at hc
  · obtain rfl := Option.some.inj ht
    exact h

/-- Taking an address at once leaves the neighbours, or the initiator alone. -/
lemma nodup_processMar1Directo {env : Env} {antopMsg : CtrlPkt} {n n' : Node} (h : n.vecinos.Nodup)
    (hstep : n.processMar1Directo env antopMsg = some n') : n'.vecinos.Nodup := by
  obtain ⟨m, hm, rfl⟩ := Option.map_eq_some_iff.mp hstep
  have hmv : m.vecinos.Nodup := by
    unfold antesDeTomar at hm
    split_ifs at hm with hsolo
    · obtain ⟨t, ht, rfl⟩ := addNeighbor_eq_some.mp hm
      rw [initNeighTable, if_pos hsolo.2] at ht
      have heq : t = [newNeighbor (auxAntopMsg antopMsg) false] := by
        simpa [addNeighborTable, eq_comm] using ht
      simp [vecinos, heq]
    · obtain rfl := Option.some.inj hm
      exact h
  dsimp only
  rw [vecinos_cerrarPrimaria]
  split_ifs
  · exact hmv
  · exact hmv

lemma vecinos_processMar1Secundaria (env : Env) (antopMsg : CtrlPkt) (n : Node) :
    (n.processMar1Secundaria env antopMsg).vecinos = n.vecinos := by
  obtain ⟨o, heq⟩ := processMar1Secundaria_eq env antopMsg n
  rw [heq]
  dsimp only
  split_ifs
  · exact vecinos_finMezcla env _
  · rfl

lemma nodup_processMar1Primaria {env : Env} {antopMsg : CtrlPkt} {n n' : Node} (h : n.vecinos.Nodup)
    (hstep : n.processMar1Primaria env antopMsg = some n') : n'.vecinos.Nodup := by
  obtain ⟨n₁, h₁, hstep⟩ := Option.bind_eq_some_iff.mp hstep
  have hn : n₁.vecinos.Nodup := nodup_agregarEmisor h h₁
  have hn₁ : (n₁.entrarMar1 antopMsg).vecinos.Nodup := hn
  have hloop : ((n₁.entrarMar1 antopMsg).processMar1Envios env antopMsg
      (n.flagMonitoreo antopMsg)).node.vecinos.Nodup :=
    hn₁.sublist (vecinos_foldl Mar1Loop.node _ (vecinos_processMar1Envio env antopMsg _ _) _ _)
  dsimp only at hstep
  split_ifs at hstep
  · obtain rfl := Option.some.inj hstep
    exact hloop
  · exact nodup_processMar1Directo hloop hstep
  · exact nodup_processMar1Directo hn₁ hstep

lemma nodup_processMar1 {env : Env} {antopMsg : CtrlPkt} {n n' : Node} (h : n.vecinos.Nodup)
    (hstep : n.processMar1 env antopMsg = some n') : n'.vecinos.Nodup := by
  unfold processMar1 at hstep
  dsimp only at hstep
  split_ifs at hstep
  · obtain rfl := Option.some.inj hstep
    rw [vecinos_processMar1Secundaria]
    exact h
  · exact nodup_processMar1Primaria (n := { n with flagMezcla := true }) h hstep

lemma vecinos_processMar2Directo (env : Env) (antopMsg : CtrlPkt) (aux1 : In6Addr) (n : Node) :
    (n.processMar2Directo env antopMsg aux1).vecinos = n.vecinos :=
  vecinos_cerrarPrimaria env _

lemma vecinos_processMar2Secundaria (env : Env) (antopMsg : CtrlPkt) (n : Node) :
    (n.processMar2Secundaria env antopMsg).vecinos = n.vecinos := by
  obtain ⟨o, heq⟩ := processMar2Secundaria_eq env antopMsg n
  rw [heq]
  dsimp only
  split_ifs
  · exact vecinos_finMezcla env _
  · rfl

lemma vecinos_processMar2Primaria (env : Env) (antopMsg : CtrlPkt) (n : Node) :
    (n.processMar2Primaria env antopMsg).vecinos.Sublist n.vecinos := by
  have hloop := vecinos_foldl Prod.fst _ (vecinos_processMar2Envio env antopMsg
    (mar2Addr n.hcDim antopMsg.srcAddr antopMsg.adAddr.mask)) (n.entrarMar2 antopMsg).neighTable
    (n.entrarMar2 antopMsg, false)
  unfold processMar2Primaria
  dsimp only
  split_ifs
  · exact hloop
  · rw [vecinos_processMar2Directo]
    exact hloop
  · rw [vecinos_processMar2Directo]
    exact List.Sublist.refl _

/-- `process_mar2` finds no neighbours. -/
lemma vecinos_processMar2 (env : Env) (antopMsg : CtrlPkt) (n : Node) :
    (n.processMar2 env antopMsg).vecinos.Sublist n.vecinos := by
  unfold processMar2
  dsimp only
  split_ifs
  · rw [vecinos_processMar2Secundaria]
    exact List.Sublist.refl _
  · exact vecinos_processMar2Primaria env antopMsg _

/-! ## Runs -/

/-- What a packet needs to leave every neighbour once in the table. -/
def guardaUnicaPkt (p : CtrlPkt) (n : Node) : Prop :=
  match p.pktTypeF with
  | .san => ¬ entraRepetido p.primAddr n.neighTable
  | .far =>
      p.adAddr.addr ≠ n.secAddr → entraRepetido p.primAddr n.neighTable →
        n.recorreFar ∧ p.srcAddr = p.primAddr
  | _ => True

/-- What a step needs to leave every neighbour once in the table. -/
def guardaUnica (n : Node) : Event → Prop
  | .recv _ (.ctrl p) => n.timers.expiredTQ = [] → n.guardaUnicaPkt p
  | _ => True

lemma nodup_dispatchMar1 {env : Env} {p : CtrlPkt} {n n' : Node} (h : n.vecinos.Nodup)
    (hstep : n.dispatchMar1 env p = some n') : n'.vecinos.Nodup := by
  rw [dispatchMar1_eq] at hstep
  split_ifs at hstep
  · exact nodup_processMar1 (n := n.volverDelDefault) h hstep
  · exact Option.some.inj hstep ▸ h
  · exact nodup_processMar1 h hstep
  · exact Option.some.inj hstep ▸ h

/-- The messages of the join, of the rendezvous and the confirmations. -/
def sinVecinos : PktType → Prop
  | .hb | .san | .far | .mar1 | .mar2 => False
  | _ => True

/-- The other packets leave the neighbours. -/
lemma vecinos_antopProcessPkt_resto {env : Env} {p : CtrlPkt} {n n' : Node}
    (hp : sinVecinos p.pktTypeF) (hstep : antopProcessPkt env (.ctrl p) n = some n') :
    n'.vecinos = n.vecinos := by
  cases ht : p.pktTypeF with
  | hb | san | far | mar1 | mar2 => simp [ht, sinVecinos] at hp
  | par | pap | panc | rvReg | rvAddrLookup | rvAddrSolve =>
      simp only [antopProcessPkt, ht] at hstep
      exact Option.some.inj hstep ▸ rfl
  | pan =>
      simp only [antopProcessPkt, ht, sendPanc] at hstep
      split_ifs at hstep
      · exact Option.some.inj hstep ▸ rfl
      · exact Option.some.inj hstep ▸ rfl
      · exact Option.some.inj hstep ▸ rfl
      · exact Option.some.inj hstep ▸ rfl
  | sap =>
      simp only [antopProcessPkt, ht] at hstep
      split_ifs at hstep
      · exact Option.some.inj hstep ▸ rfl
      · exact Option.some.inj hstep ▸ rfl
      · exact Option.some.inj hstep ▸ rfl
  | fan =>
      simp only [antopProcessPkt, ht, processFan] at hstep
      obtain rfl := Option.some.inj hstep
      split_ifs
      · exact vecinos_finFragmentacion env n
      · rfl
  | man1 =>
      simp only [antopProcessPkt, ht, processMan1] at hstep
      split_ifs at hstep
      · exact Option.some.inj hstep ▸ rfl
      · exact Option.some.inj hstep ▸ rfl
      · exact Option.some.inj hstep ▸ vecinos_finMezcla env _
      · exact Option.some.inj hstep ▸ rfl
      · exact Option.some.inj hstep ▸ rfl
      · exact Option.some.inj hstep ▸ rfl
  | man2 =>
      simp only [antopProcessPkt, ht, processMan2] at hstep
      split_ifs at hstep
      · exact Option.some.inj hstep ▸ vecinos_finMezcla env _
      · exact Option.some.inj hstep ▸ rfl
      · exact Option.some.inj hstep ▸ rfl
      · exact Option.some.inj hstep ▸ rfl

/-- **One packet.** -/
lemma nodup_antopProcessPkt {env : Env} {p : CtrlPkt} {n n' : Node} (h : n.vecinos.Nodup)
    (hstep : antopProcessPkt env (.ctrl p) n = some n') :
    n'.vecinos.Nodup ↔ n.guardaUnicaPkt p := by
  cases hp : p.pktTypeF with
  | san =>
      simp only [antopProcessPkt, hp] at hstep
      simp only [guardaUnicaPkt, hp]
      exact nodup_processSan1 h hstep
  | far =>
      simp only [antopProcessPkt, hp, processFar] at hstep
      simp only [guardaUnicaPkt, hp]
      split_ifs at hstep with hsec
      · obtain rfl := Option.some.inj hstep
        obtain ⟨o, heq⟩ := processFarSecundaria_eq env p { n with flagFragmentacion := true }
        have hv : (processFarSecundaria env p { n with flagFragmentacion := true }).vecinos
            = n.vecinos := by
          rw [heq]
          dsimp only
          split_ifs
          · exact vecinos_finFragmentacion env _
          · rfl
        rw [hv]
        exact ⟨fun _ hc => absurd hsec hc, fun _ => h⟩
      · rw [nodup_processFarPrimaria (n := { n with flagFragmentacion := true }) h hstep]
        exact ⟨fun hg _ => hg, fun hg => hg hsec⟩
  | hb =>
      simp only [antopProcessPkt, hp] at hstep
      simp only [guardaUnicaPkt, hp, iff_true]
      split_ifs at hstep
      · exact Option.some.inj hstep ▸ h
      · exact nodup_processHb h hstep
  | mar1 =>
      simp only [antopProcessPkt, hp] at hstep
      simp only [guardaUnicaPkt, hp, iff_true]
      exact nodup_dispatchMar1 h hstep
  | mar2 =>
      simp only [antopProcessPkt, hp] at hstep
      simp only [guardaUnicaPkt, hp, iff_true]
      split_ifs at hstep
      · exact Option.some.inj hstep ▸ h.sublist (vecinos_processMar2 env p n)
      · exact Option.some.inj hstep ▸ h
  | par | sap | fan | man1 | man2 | pan | pap | panc | rvReg | rvAddrLookup | rvAddrSolve =>
      have hv := vecinos_antopProcessPkt_resto (by simp [hp, sinVecinos]) hstep
      simp only [guardaUnicaPkt, hp, iff_true]
      rw [hv]
      exact h

lemma vecinos_timerHandler {env : Env} {id : TimerId} {n n' : Node}
    (h : timerHandler env id n = some n') : n'.vecinos.Sublist n.vecinos := by
  cases id with
  | hbT =>
      obtain rfl := Option.some.inj h
      rw [vecinos_sendHb]
  | chkNeighT => exact vecinos_checkNeighbors h
  | rvT =>
      obtain rfl := Option.some.inj h
      rw [vecinos_registerRv]
  | sanT k =>
      obtain rfl := Option.some.inj h
      exact List.Sublist.refl _

/-- **One step.** -/
lemma nodup_step {n n' : Node} {e : Event} (h : n.vecinos.Nodup) (hstep : n.step e = some n') :
    n'.vecinos.Nodup ↔ n.guardaUnica e := by
  rcases step_cases hstep with ⟨env, pkt, rfl, hexp, hrecv⟩ | ⟨now, rfl, -, rfl⟩
    | ⟨env, t, rest, rfl, -, hfire⟩ | ⟨hespera, rfl⟩
  · cases pkt with
    | rv p =>
        simp only [antopProcessPkt] at hrecv
        refine ⟨fun _ => trivial, fun _ => ?_⟩
        split at hrecv
        · exact Option.some.inj hrecv ▸ h
        · exact Option.some.inj hrecv ▸ h
    | ctrl p =>
        rw [nodup_antopProcessPkt (n := n.vaciar) h hrecv]
        exact ⟨fun hg _ => hg, fun hg => hg hexp⟩
  · exact ⟨fun _ => trivial, fun _ => h⟩
  · exact ⟨fun _ => trivial, fun _ => h.sublist (vecinos_timerHandler hfire)⟩
  · refine ⟨fun _ => ?_, fun _ => h⟩
    cases e with
    | recv env pkt =>
        cases pkt with
        | ctrl p => exact fun hexp => absurd hexp hespera
        | rv p => trivial
    | timeout now => trivial
    | fire env => trivial

/-- **When the neighbour table stays without repetition.**  Along any run, no two entries of
`neigh_table` have the same address exactly when no `SAN` comes from a sender that is in the table
already, and no `FAR` for the primary address does, unless the loop of `process_far` runs and the
message has been sent from the address of its sender, so that both entries are deleted. -/
theorem vecinos_nodup_iff {n : Node} (h : n.vecinos.Nodup) (es : List Event) :
    (∀ u ∈ states Node.step n es, u.vecinos.Nodup)
      ↔ ∀ t ∈ steps Node.step n es, t.1.guardaUnica t.2.1 :=
  invariant_iff_guard (fun _ _ _ hs hstep => nodup_step hs hstep) h

/-- The `SAN` of the second child of the root, which agrees to the secondary address that the first
child has proposed from its block. -/
def sanDelHermano : CtrlPkt :=
  { CtrlPkt.zero with
    pktTypeF := .san, srcAddr := slotAddr root 1, primAddr := slotAddr root 1
    adAddr := { tLenght := 2, addr := slotAddr (slotAddr root 0) 1, mask := 2, redNumero := 0 } }

/-- A run of the first child: the `SAN` arrives. -/
theorem vecinos_nodup_iff_hijo :
    (∀ u ∈ states Node.step hijo [.recv .zero (.ctrl sanDelHermano)], u.vecinos.Nodup)
      ↔ ∀ t ∈ steps Node.step hijo [.recv .zero (.ctrl sanDelHermano)], t.1.guardaUnica t.2.1 :=
  vecinos_nodup_iff (by decide) _

/-- The `SAN` arrives twice: its sender is in the table twice. -/
theorem duplicated_san_duplicates_neighbor :
    ¬ ∀ (n : Node) (es : List Event), n.vecinos.Nodup →
      ∀ u ∈ states Node.step n es, u.vecinos.Nodup := by
  intro h
  have hrun := h hijo (List.replicate 2 (.recv .zero (.ctrl sanDelHermano))) (by decide)
  revert hrun
  decide

/-! ## A missing table -/

lemma initNeighTable_ne_nil (n : Node) : n.initNeighTable.neighTable ≠ [] := by
  rw [initNeighTable]
  dsimp only
  split_ifs with h
  · simp
  · exact h

/-- `add_neighbor` needs a table, and nothing else. -/
lemma addNeighbor_eq_none {n : Node} {hb : CtrlPkt} {secFlag : Bool} :
    n.addNeighbor hb secFlag = none ↔ n.neighTable = [] := by
  rw [addNeighbor, Option.map_eq_none_iff]
  cases n.neighTable with
  | nil => simp [addNeighborTable]
  | cons head rest =>
      rw [addNeighborTable]
      split_ifs <;> simp

/-- `process_hb` makes the table before it needs it. -/
lemma oirVecino_ne_none (hb : CtrlPkt) (secFlag : Bool) (n : Node) : n.oirVecino hb secFlag ≠ none := by
  unfold oirVecino
  dsimp only
  split
  · exact fun hc => initNeighTable_ne_nil n (addNeighbor_eq_none.mp hc)
  · simp

lemma processHb_ne_none (env : Env) (hb : CtrlPkt) (n : Node) : n.processHb env hb ≠ none := by
  have hvecino (m : Node) : m.processHbVecino env hb ≠ none := by
    unfold processHbVecino
    split_ifs
    · exact fun hc => oirVecino_ne_none hb true m (Option.map_eq_none_iff.mp hc)
    · simp
    · simp
    · exact fun hc => oirVecino_ne_none hb false m (Option.map_eq_none_iff.mp hc)
  unfold processHb
  dsimp only
  split_ifs
  · simp
  · simp
  · simp
  · simp
  · simp
  · exact hvecino _

/-- `process_mar1` adds the initiator to a table, or makes one. -/
lemma processMar1_ne_none (env : Env) (antopMsg : CtrlPkt) (n : Node) :
    n.processMar1 env antopMsg ≠ none := by
  have hdirecto (m : Node) : m.processMar1Directo env antopMsg ≠ none := by
    rw [processMar1Directo, ne_eq, Option.map_eq_none_iff, antesDeTomar]
    split_ifs
    · exact fun hc => initNeighTable_ne_nil m (addNeighbor_eq_none.mp hc)
    · simp
  have hprimaria (m : Node) : m.processMar1Primaria env antopMsg ≠ none := by
    obtain ⟨k, hk⟩ : ∃ k, m.agregarEmisor antopMsg = some k := by
      rw [← Option.ne_none_iff_exists', agregarEmisor, ne_eq, Option.map_eq_none_iff, tablaConEmisor]
      split_ifs with hc
      · intro hnone
        have hadd : m.addNeighbor (auxAntopMsg antopMsg) false = none := by
          rw [addNeighbor, hnone]
          rfl
        exact hc.1.2 (addNeighbor_eq_none.mp hadd)
      · simp
    rw [processMar1Primaria, hk, Option.bind_eq_bind, Option.bind_some]
    dsimp only
    split_ifs
    · simp
    · exact hdirecto _
    · exact hdirecto _
  unfold processMar1
  dsimp only
  split_ifs
  · simp
  · exact hprimaria _

/-- The packets that a node without neighbours cannot handle. -/
def sinTabla (n : Node) : Pkt → Prop
  | .ctrl p =>
      n.neighTable = [] ∧ (p.pktTypeF = .san ∨ p.pktTypeF = .far ∧ p.adAddr.addr ≠ n.secAddr)
  | .rv _ => False

/-- `add_neighbor` and `find_neighbor` find a table: `add_neighbor` is `none` without one, and
`find_neighbor` is only called by `process_hb`, on the table that `init_neigh_table` leaves. -/
def conTabla (env : Env) (pkt : Pkt) (n : Node) : Prop :=
  antopProcessPkt env pkt n ≠ none ∧ n.initNeighTable.neighTable ≠ []

/-- **One packet.** -/
lemma conTabla_iff (env : Env) (pkt : Pkt) (n : Node) : n.conTabla env pkt ↔ ¬ n.sinTabla pkt := by
  rw [conTabla, and_iff_left (initNeighTable_ne_nil n), not_iff_not]
  match pkt with
  | .rv p =>
      simp only [antopProcessPkt, sinTabla]
      split <;> simp
  | .ctrl p =>
      cases hp : p.pktTypeF with
      | san =>
          simp only [antopProcessPkt, sinTabla, hp, processSan1, Option.map_eq_none_iff,
            addNeighbor_eq_none]
          simp [add]
      | far =>
          have hcambio (m : Node) : m.processFarPrimaria env p = none ↔ m.neighTable = [] := by
            cases hm : m.neighTable with
            | nil =>
                simp [processFarPrimaria, processFarCambio, addNeighbor, addNeighborTable, hm]
            | cons head rest =>
                simp only [processFarPrimaria, processFarCambio, addNeighbor, addNeighborTable, hm]
                split_ifs <;> simp
          simp only [antopProcessPkt, sinTabla, hp, processFar]
          split_ifs with hsec
          · simp [hsec]
          · rw [hcambio]
            simp [hsec]
      | hb =>
          simp only [antopProcessPkt, sinTabla, hp]
          split_ifs
          · simp
          · simp [processHb_ne_none]
      | mar1 =>
          simp only [antopProcessPkt, sinTabla, hp, dispatchMar1_eq]
          split_ifs <;> simp [processMar1_ne_none]
      | pan | sap | mar2 | man1 | man2 =>
          simp only [antopProcessPkt, sinTabla, hp]
          split_ifs <;> simp
      | par | pap | panc | rvReg | rvAddrLookup | rvAddrSolve | fan =>
          simp [antopProcessPkt, sinTabla, hp]

/-- A packet that is read is handled on a table that is there. -/
def tablaPresente (n : Node) : Event → Prop
  | .recv env pkt => n.timers.expiredTQ = [] → n.vaciar.conTabla env pkt
  | _ => True

/-- What an event needs for that. -/
def guardaTabla (n : Node) : Event → Prop
  | .recv _ pkt => n.timers.expiredTQ = [] → ¬ n.sinTabla pkt
  | _ => True

lemma tablaPresente_iff (n : Node) (e : Event) : n.tablaPresente e ↔ n.guardaTabla e := by
  cases e with
  | recv env pkt =>
      have hvac : n.vaciar.sinTabla pkt ↔ n.sinTabla pkt := by
        cases pkt <;> rfl
      exact imp_congr_right fun _ => (conTabla_iff env pkt n.vaciar).trans (not_congr hvac)
  | timeout now => exact Iff.rfl
  | fire env => exact Iff.rfl

/-- **When no handler runs on a missing table.**  Along any run, `add_neighbor` and `find_neighbor`
are reached only with a table exactly when a node without neighbours reads no `SAN` and no `FAR` for
its primary address. -/
theorem tabla_presente_iff (n : Node) (es : List Event) :
    (∀ a ∈ attempts Node.step n es, a.1.tablaPresente a.2)
      ↔ ∀ a ∈ attempts Node.step n es, a.1.guardaTabla a.2 :=
  forall₂_congr fun a _ => tablaPresente_iff a.1 a.2

/-- The root gives its only child up after 24 seconds, and reads a `SAN`. -/
theorem san_without_neighbors_crashes :
    ¬ ∀ (clock : Timeval) (n : Node) (es : List Event),
      ∀ u ∈ states Node.step (n.arrancar clock) es, ∀ (env : Env) (pkt : Pkt), u.conTabla env pkt := by
  intro h
  have hmem : ∃ u ∈ states Node.step (raizConHijo.arrancar ⟨0, 0⟩) ([8, 16, 24].flatMap ronda),
      antopProcessPkt .zero (.ctrl sanDelHermano) u = none := by
    decide +kernel
  obtain ⟨u, hu, hnone⟩ := hmem
  exact (h ⟨0, 0⟩ raizConHijo _ u hu .zero (.ctrl sanDelHermano)).1 hnone

end Node

end Antop
