import Antop.Dispatch

/-!
# The root neighbour

`detector_de_fragmentacion` keeps in `neighbor_to_root` the neighbour that is closest to the root.  The
record is kept from one call to the next, and a neighbour is only written into it when it is not farther
from the root than the record says.

* `Node.elegible`, `Node.RaizVigente` — the neighbours that may be recorded, and a record that names one
  closest to the root among them.
* `Node.foldl_masCercaDelRoot` — what the loop over the table leaves in the record.
* `Node.llamadaDetector` — the state in which a step of the daemon calls the detector.
* **`Node.raiz_vigente_iff`** — along a run, the record is right after each call exactly when each call
  finds a neighbour not farther from the root than the record says, or has to start a fragmentation.
-/

namespace Antop

open Transition

namespace Node

/-- A neighbour that may be the root neighbour: at distance one, and not by a secondary link. -/
def elegible (n : Node) (it : Neighbor) : Prop :=
  dist n.primAddr it.primAddr = 1 ∧ ¬ checkAddrInNSLTable it.primAddr n.nSLTable

instance (n : Node) (it : Neighbor) : Decidable (n.elegible it) := by
  unfold elegible
  infer_instance

/-- The record names a neighbour that may be in it and that none is closer to the root than, with its
distance. -/
def RaizVigente (n : Node) : Prop :=
  ∃ it ∈ n.neighTable, n.elegible it ∧ n.neighborToRoot = ⟨it.primAddr, dist root it.primAddr⟩
    ∧ ∀ it' ∈ n.neighTable, n.elegible it' → dist root it.primAddr ≤ dist root it'.primAddr

instance (n : Node) : Decidable n.RaizVigente := by
  unfold RaizVigente
  infer_instance

/-! ## The loop -/

/-- One round, for a neighbour that is written into the record. -/
lemma masCercaDelRoot_pos {n : Node} {toRoot : NeighborToRoot} {it : Neighbor} (h : n.elegible it)
    (hle : dist root it.primAddr ≤ toRoot.distance) :
    n.masCercaDelRoot toRoot it = ⟨it.primAddr, dist root it.primAddr⟩ :=
  if_pos ⟨hle, h⟩

/-- One round, for any other. -/
lemma masCercaDelRoot_neg {n : Node} {toRoot : NeighborToRoot} {it : Neighbor}
    (h : n.elegible it → toRoot.distance < dist root it.primAddr) : n.masCercaDelRoot toRoot it = toRoot :=
  if_neg fun hc => absurd hc.1 (not_le.mpr (h hc.2))

/-- **The loop over the table** leaves the record as it is when all that may be in it are farther from the
root than it says, and otherwise names one that is closest. -/
lemma foldl_masCercaDelRoot (n : Node) (its : List Neighbor) (toRoot : NeighborToRoot) :
    (∀ it ∈ its, n.elegible it → toRoot.distance < dist root it.primAddr)
        ∧ its.foldl n.masCercaDelRoot toRoot = toRoot
      ∨ ∃ it ∈ its, n.elegible it ∧ dist root it.primAddr ≤ toRoot.distance
        ∧ its.foldl n.masCercaDelRoot toRoot = ⟨it.primAddr, dist root it.primAddr⟩
        ∧ ∀ it' ∈ its, n.elegible it' → dist root it.primAddr ≤ dist root it'.primAddr := by
  induction its generalizing toRoot with
  | nil => exact Or.inl ⟨by simp, rfl⟩
  | cons it its ih =>
      rw [List.foldl_cons]
      by_cases h : n.elegible it ∧ dist root it.primAddr ≤ toRoot.distance
      · -- the first one is recorded, and from there a closer one or none
        rw [masCercaDelRoot_pos h.1 h.2]
        refine Or.inr ?_
        rcases ih ⟨it.primAddr, dist root it.primAddr⟩ with ⟨hfar, heq⟩ | ⟨it₁, hmem, hel, hle, heq, hmin⟩
        · refine ⟨it, List.mem_cons_self, h.1, h.2, heq, ?_⟩
          rw [List.forall_mem_cons]
          exact ⟨fun _ => le_rfl, fun it' hit' hel' => (hfar it' hit' hel').le⟩
        · refine ⟨it₁, List.mem_cons_of_mem it hmem, hel, hle.trans h.2, heq, ?_⟩
          rw [List.forall_mem_cons]
          exact ⟨fun _ => hle, hmin⟩
      · have hlejos : n.elegible it → toRoot.distance < dist root it.primAddr :=
          fun hel => not_le.mp fun hle => h ⟨hel, hle⟩
        rw [masCercaDelRoot_neg hlejos]
        rcases ih toRoot with ⟨hfar, heq⟩ | ⟨it₁, hmem, hel, hle, heq, hmin⟩
        · exact Or.inl ⟨List.forall_mem_cons.mpr ⟨hlejos, hfar⟩, heq⟩
        · refine Or.inr ⟨it₁, List.mem_cons_of_mem it hmem, hel, hle, heq, ?_⟩
          rw [List.forall_mem_cons]
          exact ⟨fun hel' => hle.trans (hlejos hel').le, hmin⟩

/-! ## The detector -/

/-- The detector finds a neighbour that is not farther from the root than the record says. -/
def alcanzaRegistro (n : Node) : Prop :=
  ∃ it ∈ n.neighTable, n.elegible it ∧ dist root it.primAddr ≤ n.neighborToRoot.distance

instance (n : Node) : Decidable n.alcanzaRegistro := by
  unfold alcanzaRegistro
  infer_instance

/-- **The record is right after the loop** exactly when such a neighbour is found. -/
lemma raizVigente_conVecinoRaiz_iff (n : Node) : n.conVecinoRaiz.RaizVigente ↔ n.alcanzaRegistro := by
  rcases foldl_masCercaDelRoot n n.neighTable n.neighborToRoot with
    ⟨hfar, heq⟩ | ⟨it, hmem, hel, hle, heq, hmin⟩
  · refine iff_of_false ?_ ?_
    · rintro ⟨it, hmem, hel, hreg, -⟩
      have hdist : n.neighborToRoot = ⟨it.primAddr, dist root it.primAddr⟩ := heq.symm.trans hreg
      have hlt := hfar it hmem hel
      rw [hdist] at hlt
      exact absurd hlt (lt_irrefl _)
    · rintro ⟨it, hmem, hel, hle⟩
      exact absurd (hfar it hmem hel) (not_lt.mpr hle)
  · exact iff_of_true ⟨it, hmem, hel, heq, hmin⟩ ⟨it, hmem, hel, hle⟩

/-- A call that starts no fragmentation, at a node that is not the root. -/
lemma detectorDeFragmentacion_of_not_seFragmenta {env : Env} {n : Node} (hroot : n.primAddr ≠ root)
    (h : ¬ n.seFragmenta env) : n.detectorDeFragmentacion env = n.conVecinoRaiz := by
  unfold detectorDeFragmentacion
  rw [if_neg hroot]
  by_cases hany : n.neighTable.any fun it => n.conVecinoRaiz.neighborToRoot.addr = it.primAddr
  · exact if_pos hany
  · have hping : env.ping6 = true := by
      by_contra hno
      exact h ⟨hroot, by simpa using hany, by simpa using hno⟩
    exact (if_neg hany).trans (if_pos hping)

/-- What is asked of a call of the detector: at a node that is not the root and has a neighbour that may be
recorded, the record is right after it, unless it starts a fragmentation. -/
def DetectaBien (env : Env) (n n' : Node) : Prop :=
  n.primAddr ≠ root → ¬ n.seFragmenta env → (∃ it ∈ n.neighTable, n.elegible it) → n'.RaizVigente

instance (env : Env) (n n' : Node) : Decidable (n.DetectaBien env n') := by
  unfold DetectaBien
  infer_instance

/-- The calls for which it holds: at the root, without a neighbour that may be recorded, with one that is
not farther from the root than the record says, or with a record that names no neighbour and no answer from
the root. -/
def guardaRaiz (env : Env) (n : Node) : Prop :=
  n.primAddr = root ∨ (∀ it ∈ n.neighTable, ¬ n.elegible it) ∨ n.alcanzaRegistro
    ∨ (∀ it ∈ n.neighTable, n.neighborToRoot.addr ≠ it.primAddr) ∧ env.ping6 = false

instance (env : Env) (n : Node) : Decidable (n.guardaRaiz env) := by
  unfold guardaRaiz
  infer_instance

/-- **One call of the detector.** -/
lemma detectaBien_iff (env : Env) (n : Node) :
    n.DetectaBien env (n.detectorDeFragmentacion env) ↔ n.guardaRaiz env := by
  by_cases hroot : n.primAddr = root
  · exact iff_of_true (fun h => absurd hroot h) (Or.inl hroot)
  by_cases hno : ∀ it ∈ n.neighTable, ¬ n.elegible it
  · exact iff_of_true (fun _ _ ⟨it, hmem, hel⟩ => absurd hel (hno it hmem)) (Or.inr (Or.inl hno))
  by_cases hfrag : n.seFragmenta env
  · refine iff_of_true (fun _ hf => absurd hfrag hf) ?_
    obtain ⟨-, hnadie, hping⟩ := hfrag
    -- a record that names no neighbour is the one from before the loop
    refine Or.inr (Or.inr (Or.inr ⟨?_, hping⟩))
    rcases foldl_masCercaDelRoot n n.neighTable n.neighborToRoot with ⟨-, heq⟩ | ⟨it, hmem, -, -, heq, -⟩
    · rw [conVecinoRaiz, heq] at hnadie
      exact hnadie
    · refine absurd ?_ (hnadie it hmem)
      rw [conVecinoRaiz, heq]
  · rw [DetectaBien, detectorDeFragmentacion_of_not_seFragmenta hroot hfrag, guardaRaiz,
      raizVigente_conVecinoRaiz_iff]
    have hsome : ∃ it ∈ n.neighTable, n.elegible it := by simpa using hno
    constructor
    · intro h
      exact Or.inr (Or.inr (Or.inl (h hroot hfrag hsome)))
    · rintro (h | h | h | ⟨hnadie, hping⟩) - - -
      · exact absurd h hroot
      · exact absurd h hno
      · exact h
      · -- the record is not changed when no neighbour is close enough, and then a fragmentation starts
        by_contra hlejos
        refine hfrag ⟨hroot, ?_, hping⟩
        rcases foldl_masCercaDelRoot n n.neighTable n.neighborToRoot with
          ⟨-, heq⟩ | ⟨it, hmem, hel, hle, -⟩
        · rw [conVecinoRaiz, heq]
          exact hnadie
        · exact absurd ⟨it, hmem, hel, hle⟩ hlejos

/-! ## Runs -/

/-- The state in which a step calls the detector, and with what from outside: after a heartbeat from a
neighbour. -/
def llamadaDetector (n : Node) : Event → Option (Env × Node)
  | .recv env (.ctrl hb) =>
      if n.timers.expiredTQ = [] ∧ hb.pktTypeF = .hb ∧ n.vaciar.escucha env hb then
        (n.vaciar.oirVecino hb (n.vaciar.porSecundaria hb)).map fun m => (env, m)
      else none
  | _ => none

/-- The step ends with the call. -/
lemma step_of_llamadaDetector {n m : Node} {e : Event} {env : Env} (h : n.llamadaDetector e = some (env, m)) :
    n.step e = some (m.detectorDeFragmentacion env) := by
  unfold llamadaDetector at h
  split at h
  · rename_i env' hb
    split_ifs at h with hcond
    obtain ⟨hexp, htype, hesc⟩ := hcond
    obtain ⟨m', hm', heq⟩ := Option.map_eq_some_iff.mp h
    obtain ⟨rfl, rfl⟩ := Prod.mk.inj heq
    have hlibre : ¬ (n.vaciar.flagFragmentacion ∨ n.vaciar.flagMezcla) := not_or.mpr hesc.1
    unfold step
    rw [hexp]
    dsimp only
    unfold antopProcessPkt
    dsimp only
    rw [htype]
    dsimp only
    rw [if_neg hlibre, processHb_of_escucha hesc, hm', Option.map_some]
  · exact absurd h (by simp)

/-- After the step the record is right, when the step calls the detector. -/
def RaizTras (n : Node) (e : Event) (n' : Node) : Prop :=
  ∀ c ∈ n.llamadaDetector e, c.2.DetectaBien c.1 n'

instance (n : Node) (e : Event) (n' : Node) : Decidable (n.RaizTras e n') := by
  unfold RaizTras
  infer_instance

/-- The calls of a step meet the guard. -/
def guardaLlamada (n : Node) (e : Event) : Prop := ∀ c ∈ n.llamadaDetector e, c.2.guardaRaiz c.1

/-- **The root neighbour is current** after each call of a run exactly when each call finds a neighbour that
is not farther from the root than the record says, or has nothing to find. -/
theorem raiz_vigente_iff (n : Node) (es : List Event) :
    (∀ t ∈ steps step n es, t.1.RaizTras t.2.1 t.2.2) ↔ ∀ t ∈ steps step n es, t.1.guardaLlamada t.2.1 := by
  refine forall_steps_iff fun n e n' hstep => forall₂_congr fun c hc => ?_
  obtain ⟨env, m⟩ := c
  obtain rfl : m.detectorDeFragmentacion env = n' :=
    Option.some.inj ((step_of_llamadaDetector hc).symm.trans hstep)
  exact detectaBien_iff env m

/-- The heartbeat of a child of the first child of the root. -/
def hbNieto : CtrlPkt :=
  { CtrlPkt.zero with
    pktTypeF := .hb, srcAddr := slotAddr (slotAddr root 0) 1, primAddr := slotAddr (slotAddr root 0) 1
    adAddr := { CtrlPkt.zero.adAddr with mask := 2, tLenght := 2 } }

/-- The root has gone, and answers from afar: the record still names it. -/
theorem root_neighbor_goes_stale :
    ¬ ∀ (n : Node) (es : List Event), ∀ t ∈ steps step n es, t.1.RaizTras t.2.1 t.2.2 := by
  intro h
  have hbad := h (hijo.arrancar ⟨0, 0⟩)
    (ronda 10 ++ ronda 20 ++ ronda 30 ++ [.recv { Env.zero with ping6 := true } (.ctrl hbNieto)])
  revert hbad
  decide +kernel

end Node

end Antop
