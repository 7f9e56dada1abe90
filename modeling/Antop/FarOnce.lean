import Antop.Dispatch

/-!
# How often a `FAR` is applied

`process_far` looks neither at the network number nor at its own flags, so each `FAR` that is not
for the secondary address is applied.

* `Node.cambiaPorFar` — the steps in which a `FAR` of one fragmentation changes the address or the
  masks.
* `Node.farEfectivo` — the `FAR`s that have something to change.
* `far_once_iff` — a run applies the `FAR`s of a fragmentation at most once exactly when at most
  one of them has something to change.
-/

namespace Antop

open Transition

/-- The event is a `FAR` of the fragmentation with the number `red`. -/
def esFar (red : UChar) : Event → Option CtrlPkt
  | .recv _ (.ctrl p) => if p.pktTypeF = .far ∧ p.adAddr.redNumero = red then some p else none
  | _ => none

namespace Node

/-- The step takes a `FAR` of the fragmentation and changes the position of the node. -/
def cambiaPorFar (red : UChar) (n : Node) (e : Event) (n' : Node) : Bool :=
  (esFar red e).isSome && n'.posicion ≠ n.posicion

/-- A `FAR` that is read, is not for the secondary address, and has a prefix to drop.  A `FAR` with
the mask 0 drops none, but puts the address into the form of `shift`. -/
def farEfectivo (red : UChar) (n : Node) (e : Event) : Bool :=
  match esFar red e with
  | none => false
  | some p => n.timers.expiredTQ = [] ∧ p.adAddr.addr ≠ n.secAddr
      ∧ (p.adAddr.mask ≠ 0 ∨ shift n.hcDim 1 0 root n.primAddr ≠ n.primAddr)

/-! ## One step -/

lemma posicion_finFragmentacion (env : Env) (n : Node) :
    (n.finFragmentacion env).posicion = n.posicion := by
  rw [finFragmentacion, registerRv_eq]
  rfl

/-- **What a `FAR` does to the position.** -/
lemma posicion_processFar {env : Env} {p : CtrlPkt} {n n' : Node} (h : n.processFar env p = some n') :
    n'.posicion =
      if p.adAddr.addr = n.secAddr then n.posicion
      else (shift n.hcDim 1 p.adAddr.mask.toNat root n.primAddr, n.primMask - p.adAddr.mask,
        n.primMaskInicial - p.adAddr.mask) := by
  unfold processFar at h
  dsimp only at h
  split_ifs at h ⊢ with hsec
  · obtain rfl := Option.some.inj h
    obtain ⟨o, h⟩ := processFarSecundaria_eq env p { n with flagFragmentacion := true }
    rw [h]
    dsimp only
    split_ifs
    · exact posicion_finFragmentacion env _
    · rfl
  · obtain ⟨t, rv, o, fin, rfl⟩ := processFarPrimaria_eq h
    have hmask := ofInt_toNat_sub n.primMask p.adAddr.mask
    cases fin
    · exact congrArg (fun m => (_, m, _)) hmask
    · exact (posicion_finFragmentacion env _).trans (congrArg (fun m => (_, m, _)) hmask)

/-- The new position is the old one only when there is nothing to drop. -/
lemma posicion_shift_eq_iff (n : Node) (mask : UChar) :
    (shift n.hcDim 1 mask.toNat root n.primAddr, n.primMask - mask, n.primMaskInicial - mask)
        = n.posicion
      ↔ mask = 0 ∧ shift n.hcDim 1 0 root n.primAddr = n.primAddr := by
  constructor
  · intro h
    simp only [posicion, Prod.mk.injEq] at h
    obtain ⟨hshift, hmask, -⟩ := h
    have hzero : mask = 0 := by bv_omega
    subst hzero
    exact ⟨rfl, hshift⟩
  · rintro ⟨rfl, hshift⟩
    simpa [posicion] using hshift

/-- **One step**: the `FAR`s that change the position are those that have something to change. -/
lemma cambiaPorFar_eq {red : UChar} {n n' : Node} {e : Event} (h : n.step e = some n') :
    n.cambiaPorFar red e n' = n.farEfectivo red e := by
  rcases step_cases h with ⟨env, pkt, rfl, hexp, hrecv⟩ | ⟨now, rfl, -, -⟩
    | ⟨env, t, rest, rfl, -, -⟩ | ⟨hespera, rfl⟩
  · cases pkt with
    | rv p => rfl
    | ctrl p =>
        by_cases hfar : p.pktTypeF = .far ∧ p.adAddr.redNumero = red
        · have hes : esFar red (.recv env (.ctrl p)) = some p := if_pos hfar
          have hpos : n'.posicion = if p.adAddr.addr = n.secAddr then n.posicion
              else (shift n.hcDim 1 p.adAddr.mask.toNat root n.primAddr, n.primMask - p.adAddr.mask,
                n.primMaskInicial - p.adAddr.mask) :=
            posicion_processFar (n := n.vaciar) (by simpa [antopProcessPkt, hfar.1] using hrecv)
          have hiff : n'.posicion = n.posicion ↔ p.adAddr.addr = n.secAddr
              ∨ p.adAddr.mask = 0 ∧ shift n.hcDim 1 0 root n.primAddr = n.primAddr := by
            rw [hpos]
            split_ifs with hsec
            · simp [hsec]
            · simp [posicion_shift_eq_iff, hsec]
          rw [cambiaPorFar, farEfectivo, hes, Bool.eq_iff_iff]
          simp only [Option.isSome_some, Bool.true_and, decide_eq_true_eq, ne_eq, hiff, hexp, true_and]
          tauto
        · have hes : esFar red (.recv env (.ctrl p)) = none := if_neg hfar
          rw [cambiaPorFar, farEfectivo, hes]
          rfl
  · rfl
  · rfl
  · -- an event that waits changes nothing
    have hpos : n.vaciar.posicion = n.posicion := rfl
    cases hes : esFar red e with
    | none => rw [cambiaPorFar, farEfectivo, hes]; rfl
    | some p =>
        have hexp : n.timers.expiredTQ ≠ [] := by
          cases e with
          | fire env => exact absurd hes (by simp [esFar])
          | _ => exact hespera
        simp [cambiaPorFar, farEfectivo, hes, hpos, hexp]

/-! ## Runs -/

/-- **When a node applies the `FAR`s of a fragmentation at most once.**  Whatever else happens in
between, the address and the masks are changed by at most one `FAR` of the fragmentation exactly
when at most one of its `FAR`s finds something to change. -/
theorem far_once_iff (red : UChar) (n : Node) (es : List Event) :
    countSteps Node.step (cambiaPorFar red) n es ≤ 1
      ↔ countSteps Node.step (fun s e _ => s.farEfectivo red e) n es ≤ 1 := by
  have hcount : countSteps Node.step (cambiaPorFar red) n es
      = countSteps Node.step (fun s e _ => s.farEfectivo red e) n es := by
    refine countSteps_congr (fun s e s' h => ?_) n es
    exact cambiaPorFar_eq h
  rw [hcount]

/-- A grandchild of the root, `2001:db8::c000:0:0:1`, under the neighbour `2001:db8::8000:0:0:1`. -/
def nieto : Node :=
  { primAddrInit 64 "y" with
    primAddr := slotAddr (slotAddr root 0) 1, primMask := 2, primMaskInicial := 2
    iface := {slotAddr (slotAddr root 0) 1}
    neighTable := [{ primAddr := slotAddr root 0, secAddrConn := false, count := 0, primMask := 2
                     primMaskInicial := 1, available := true }]
    neighborToRoot := { addr := slotAddr root 0, distance := 1 } }

/-- The `FAR` that the neighbour of `nieto` sends when it becomes a root. -/
def farDelVecino : CtrlPkt :=
  { CtrlPkt.zero with
    pktTypeF := .far, srcAddr := slotAddr root 0, primAddr := root
    adAddr := { tLenght := 0, addr := slotAddr (slotAddr root 0) 1, mask := 1, redNumero := 7 } }

/-- A `FAR` that is delivered twice moves the node twice: it ends with the address of the root that
sent it. -/
theorem far_twice :
    ¬ ∀ (red : UChar) (n : Node) (es : List Event),
      countSteps Node.step (cambiaPorFar red) n es ≤ 1 := by
  intro h
  have hrun := h 7 nieto
    [.recv .zero (.ctrl farDelVecino), .recv .zero (.ctrl farDelVecino)]
  revert hrun
  decide +kernel

end Node

end Antop
