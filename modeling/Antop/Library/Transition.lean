import Mathlib.Tactic

/-!
# Runs of a partial step function

A machine is a partial step function `step : σ → ε → Option σ`: it takes a state and an event
to the next state, or to `none` when the machine stops there (it crashes or never returns).
A run feeds a list of events to the machine.  Two lists describe it: `steps`, the steps that
were taken, each with the state before and the state after, and `states`, the states that were
visited.  `attempts` has the event at which the machine stops as well.

* `invariant_of_guard` — a property that every *guarded* step preserves holds in every state of
  a run whose steps all meet the guard.
* `property_iff_guard_on`, `property_iff_guard`, `invariant_iff_guard` — when the guard is exactly
  what a step needs to preserve the property, it is exactly what a run needs; `steps_iff_guard` is the
  same for a property of the steps, `attempts_iff_guard` for one that asks for the step too.
* `countSteps` — how many steps of a run have a property; `Once` — a kind of step that a run takes
  at most once; `countSteps_le_of_balance` — one that is taken no more often than it is paid for.
* `run_rel` — two machines that are in related states after each pair of events, and stop together, do so
  along a run.
-/

namespace Transition

variable {σ ε : Type*} (step : σ → ε → Option σ)

/-- The steps a run takes: the state before, the event and the state after. -/
def steps : σ → List ε → List (σ × ε × σ)
  | _, [] => []
  | s, e :: es =>
      match step s e with
      | none => []
      | some s' => (s, e, s') :: steps s' es

/-- The states a run visits, the first one included. -/
def states (s : σ) (es : List ε) : List σ :=
  s :: (steps step s es).map fun t => t.2.2

/-- The events a run gives to the machine, each with the state it finds.  The last one may be that at
which the machine stops. -/
def attempts : σ → List ε → List (σ × ε)
  | _, [] => []
  | s, e :: es =>
      match step s e with
      | none => [(s, e)]
      | some s' => (s, e) :: attempts s' es

/-- The state a run ends in, when it does not stop on the way. -/
def run : σ → List ε → Option σ
  | s, [] => some s
  | s, e :: es => (step s e).bind fun s' => run s' es

/-- How many steps of a run have the property `p`. -/
def countSteps (p : σ → ε → σ → Bool) (s : σ) (es : List ε) : ℕ :=
  (steps step s es).countP fun t => p t.1 t.2.1 t.2.2

variable {step}

/-! ## Unfolding a run -/

@[simp] lemma steps_nil (s : σ) : steps step s [] = [] := rfl

lemma steps_cons_none {s : σ} {e : ε} (es : List ε) (h : step s e = none) :
    steps step s (e :: es) = [] := by
  simp [steps, h]

lemma steps_cons_some {s s' : σ} {e : ε} (es : List ε) (h : step s e = some s') :
    steps step s (e :: es) = (s, e, s') :: steps step s' es := by
  simp [steps, h]

@[simp] lemma states_nil (s : σ) : states step s [] = [s] := rfl

lemma mem_states_self (s : σ) (es : List ε) : s ∈ states step s es := by
  simp [states]

lemma states_cons_none {s : σ} {e : ε} (es : List ε) (h : step s e = none) :
    states step s (e :: es) = [s] := by
  simp [states, steps_cons_none es h]

lemma states_cons_some {s s' : σ} {e : ε} (es : List ε) (h : step s e = some s') :
    states step s (e :: es) = s :: states step s' es := by
  simp [states, steps_cons_some es h]

@[simp] lemma countSteps_nil (p : σ → ε → σ → Bool) (s : σ) : countSteps step p s [] = 0 := rfl

lemma countSteps_cons_none {s : σ} {e : ε} (p : σ → ε → σ → Bool) (es : List ε)
    (h : step s e = none) : countSteps step p s (e :: es) = 0 := by
  simp [countSteps, steps_cons_none es h]

lemma countSteps_cons_some {s s' : σ} {e : ε} (p : σ → ε → σ → Bool) (es : List ε)
    (h : step s e = some s') :
    countSteps step p s (e :: es) = countSteps step p s' es + if p s e s' then 1 else 0 := by
  simp [countSteps, steps_cons_some es h, List.countP_cons]

lemma attempts_singleton (s : σ) (e : ε) : attempts step s [e] = [(s, e)] := by
  cases he : step s e <;> simp [attempts, he]

/-- Two properties that agree on the steps a machine can take are counted alike. -/
lemma countSteps_congr {p q : σ → ε → σ → Bool}
    (h : ∀ s e s', step s e = some s' → p s e s' = q s e s') (s : σ) (es : List ε) :
    countSteps step p s es = countSteps step q s es := by
  induction es generalizing s with
  | nil => rfl
  | cons e es ih =>
      cases hs : step s e with
      | none => rw [countSteps_cons_none p es hs, countSteps_cons_none q es hs]
      | some s' => rw [countSteps_cons_some p es hs, countSteps_cons_some q es hs, h s e s' hs, ih s']

/-- A run and one more event. -/
lemma run_concat (s : σ) (es : List ε) (e : ε) :
    run step s (es ++ [e]) = (run step s es).bind fun u => step u e := by
  induction es generalizing s with
  | nil => cases he : step s e <;> simp [run, he]
  | cons a es ih =>
      cases ha : step s a with
      | none => simp [run, ha]
      | some s' => simpa [run, ha] using ih s'

/-- A state in which a run ends is one it visits. -/
lemma run_mem_states {s s' : σ} {es : List ε} (h : run step s es = some s') :
    s' ∈ states step s es := by
  induction es generalizing s with
  | nil =>
      simp only [run, Option.some.injEq] at h
      simp [h]
  | cons e es ih =>
      cases hs : step s e with
      | none => simp [run, hs] at h
      | some u =>
          rw [states_cons_some es hs]
          simp only [run, hs, Option.bind_some] at h
          exact List.mem_cons_of_mem _ (ih h)

/-- A step is taken as the step function says. -/
lemma step_of_mem_steps {s : σ} {es : List ε} {t : σ × ε × σ} (h : t ∈ steps step s es) :
    step t.1 t.2.1 = some t.2.2 := by
  induction es generalizing s with
  | nil => simp at h
  | cons e es ih =>
      cases hs : step s e with
      | none => simp [steps_cons_none es hs] at h
      | some u =>
          rw [steps_cons_some es hs, List.mem_cons] at h
          rcases h with rfl | h
          · exact hs
          · exact ih h

/-- Every step of a run leaves from a state the run visits. -/
lemma source_mem_states {s : σ} {es : List ε} {t : σ × ε × σ} (h : t ∈ steps step s es) :
    t.1 ∈ states step s es := by
  induction es generalizing s with
  | nil => simp at h
  | cons e es ih =>
      cases hs : step s e with
      | none => simp [steps_cons_none es hs] at h
      | some u =>
          rw [states_cons_some es hs]
          rw [steps_cons_some es hs, List.mem_cons] at h
          rcases h with rfl | h
          · exact List.mem_cons_self
          · exact List.mem_cons_of_mem _ (ih h)

/-- The events of a run's steps are among those fed to it. -/
lemma event_mem_of_mem_steps {s : σ} {es : List ε} {t : σ × ε × σ} (h : t ∈ steps step s es) :
    t.2.1 ∈ es := by
  induction es generalizing s with
  | nil => simp at h
  | cons e es ih =>
      cases hs : step s e with
      | none => simp [steps_cons_none es hs] at h
      | some u =>
          rw [steps_cons_some es hs, List.mem_cons] at h
          rcases h with rfl | h
          · exact List.mem_cons_self
          · exact List.mem_cons_of_mem _ (ih h)

/-- A run goes on from where its first part ends. -/
lemma steps_append {s u : σ} {es₁ : List ε} (es₂ : List ε) (h : run step s es₁ = some u) :
    steps step s (es₁ ++ es₂) = steps step s es₁ ++ steps step u es₂ := by
  induction es₁ generalizing s with
  | nil =>
      simp only [run, Option.some.injEq] at h
      simp [h]
  | cons e es ih =>
      cases hs : step s e with
      | none => simp [run, hs] at h
      | some s' =>
          simp only [run, hs, Option.bind_some] at h
          rw [List.cons_append, steps_cons_some _ hs, steps_cons_some _ hs, ih h, List.cons_append]

/-- **A property of steps** that a guard decides on each step is decided by it along a run. -/
lemma forall_steps_iff {P : σ → ε → σ → Prop} {G : σ → ε → Prop}
    (h : ∀ s e s', step s e = some s' → (P s e s' ↔ G s e)) {s : σ} {es : List ε} :
    (∀ t ∈ steps step s es, P t.1 t.2.1 t.2.2) ↔ ∀ t ∈ steps step s es, G t.1 t.2.1 :=
  forall₂_congr fun _ ht => h _ _ _ (step_of_mem_steps ht)

/-- A step that is taken under a condition, and otherwise leaves the state `t`: what it needs to reach a state
with `Inv` it needs only under the condition. -/
lemma iff_of_ite {Inv : σ → Prop} {c G : Prop} [Decidable c] {o : Option σ} {s' t : σ}
    (hstep : (if c then o else some t) = some s') (ht : Inv t) (ho : o = some s' → (Inv s' ↔ G)) :
    Inv s' ↔ (c → G) := by
  split_ifs at hstep with hc
  · exact (ho hstep).trans ⟨fun hg _ => hg, fun hg => hg hc⟩
  · obtain rfl := Option.some.inj hstep
    exact iff_of_true ht fun h => absurd h hc

/-! ## Invariants under a guard -/

section Guard

variable {Inv P : σ → Prop} {G : σ → ε → Prop}

/-- **The guarded-run rule.**  A property preserved by each step that meets the guard holds in
every state of a run whose steps all meet it. -/
theorem invariant_of_guard
    (hstep : ∀ s e s', Inv s → G s e → step s e = some s' → Inv s')
    {s : σ} {es : List ε} (hs : Inv s) (hg : ∀ t ∈ steps step s es, G t.1 t.2.1) :
    ∀ u ∈ states step s es, Inv u := by
  induction es generalizing s with
  | nil => simpa using hs
  | cons e es ih =>
      cases he : step s e with
      | none => simpa [states_cons_none es he] using hs
      | some s' =>
          rw [steps_cons_some es he, List.forall_mem_cons] at hg
          rw [states_cons_some es he, List.forall_mem_cons]
          exact ⟨hs, ih (hstep s e s' hs hg.1 he) hg.2⟩

/-- An unguarded invariant holds in every state of every run. -/
theorem invariant (hstep : ∀ s e s', Inv s → step s e = some s' → Inv s')
    {s : σ} {es : List ε} (hs : Inv s) : ∀ u ∈ states step s es, Inv u :=
  invariant_of_guard (G := fun _ _ => True) (fun s e s' h _ he => hstep s e s' h he) hs
    (fun _ _ => trivial)

/-- **Exact guards.**  `Inv` is strong enough to carry a run of events of the kind `A` and gives the
property `P` of its states.  When, from a state with `Inv`, each step either meets the guard and
keeps `Inv`, or does not meet it and breaks `P`, then `P` holds all along a run exactly when all its
steps meet the guard. -/
theorem property_iff_guard_on {A : ε → Prop} (hP : ∀ s, Inv s → P s)
    (hstep : ∀ s e s', Inv s → A e → step s e = some s' → G s e ∧ Inv s' ∨ ¬ G s e ∧ ¬ P s')
    {s : σ} {es : List ε} (hs : Inv s) (hA : ∀ e ∈ es, A e) :
    (∀ u ∈ states step s es, P u) ↔ ∀ t ∈ steps step s es, G t.1 t.2.1 := by
  constructor
  · intro h
    induction es generalizing s with
    | nil => simp
    | cons e es ih =>
        rw [List.forall_mem_cons] at hA
        cases he : step s e with
        | none => simp [steps_cons_none es he]
        | some s' =>
            rw [states_cons_some es he, List.forall_mem_cons] at h
            rw [steps_cons_some es he, List.forall_mem_cons]
            rcases hstep s e s' hs hA.1 he with ⟨hG, hs'⟩ | ⟨-, hno⟩
            · exact ⟨hG, ih hs' hA.2 h.2⟩
            · exact absurd (h.2 s' (mem_states_self s' es)) hno
  · intro hg u hu
    refine hP u (invariant_of_guard (G := fun a e => A e ∧ G a e) (fun a e a' ha hG he => ?_) hs
      (fun t ht => ⟨hA _ (event_mem_of_mem_steps ht), hg t ht⟩) u hu)
    rcases hstep a e a' ha hG.1 he with ⟨-, ha'⟩ | ⟨hno, -⟩
    · exact ha'
    · exact absurd hG.2 hno

/-- **Exact guards**, for all events. -/
theorem property_iff_guard (hP : ∀ s, Inv s → P s)
    (hstep : ∀ s e s', Inv s → step s e = some s' → G s e ∧ Inv s' ∨ ¬ G s e ∧ ¬ P s')
    {s : σ} {es : List ε} (hs : Inv s) :
    (∀ u ∈ states step s es, P u) ↔ ∀ t ∈ steps step s es, G t.1 t.2.1 :=
  property_iff_guard_on (A := fun _ => True) hP (fun a e a' ha _ he => hstep a e a' ha he) hs
    fun _ _ => trivial

/-- **Exact guards**, for a property that carries the run itself. -/
theorem invariant_iff_guard
    (hstep : ∀ s e s', Inv s → step s e = some s' → (Inv s' ↔ G s e))
    {s : σ} {es : List ε} (hs : Inv s) :
    (∀ u ∈ states step s es, Inv u) ↔ ∀ t ∈ steps step s es, G t.1 t.2.1 := by
  refine property_iff_guard (fun _ h => h) (fun a e a' ha he => ?_) hs
  by_cases hG : G a e
  · exact Or.inl ⟨hG, (hstep a e a' ha he).mpr hG⟩
  · exact Or.inr ⟨hG, fun h => hG ((hstep a e a' ha he).mp h)⟩

/-- **Exact guards for steps.**  A property of steps that a guard decides in the states with `Inv`,
which it keeps, holds of all steps of a run exactly when the guard does. -/
theorem steps_iff_guard {Q : σ → ε → σ → Prop}
    (hiff : ∀ s e s', Inv s → step s e = some s' → (Q s e s' ↔ G s e))
    (hstep : ∀ s e s', Inv s → G s e → step s e = some s' → Inv s') {s : σ} {es : List ε} (hs : Inv s) :
    (∀ t ∈ steps step s es, Q t.1 t.2.1 t.2.2) ↔ ∀ t ∈ steps step s es, G t.1 t.2.1 := by
  induction es generalizing s with
  | nil => simp
  | cons e es ih =>
      cases he : step s e with
      | none => simp [steps_cons_none es he]
      | some s' =>
          rw [steps_cons_some es he, List.forall_mem_cons, List.forall_mem_cons, hiff s e s' hs he]
          exact and_congr_right fun hg => ih (hstep s e s' hs hg he)

/-- **Exact guards for steps that may fail.**  All events of a run make a step with the property exactly
when all of them meet the guard. -/
theorem attempts_iff_guard {Q : σ → ε → σ → Prop}
    (hiff : ∀ s e, Inv s → ((∃ s', step s e = some s' ∧ Q s e s') ↔ G s e))
    (hstep : ∀ s e s', Inv s → G s e → step s e = some s' → Inv s') {s : σ} {es : List ε} (hs : Inv s) :
    (∀ a ∈ attempts step s es, ∃ s', step a.1 a.2 = some s' ∧ Q a.1 a.2 s')
      ↔ ∀ a ∈ attempts step s es, G a.1 a.2 := by
  induction es generalizing s with
  | nil => simp [attempts]
  | cons e es ih =>
      cases he : step s e with
      | none => simpa [attempts, he] using hiff s e hs
      | some s' =>
          rw [attempts, he, List.forall_mem_cons, List.forall_mem_cons, hiff s e hs]
          exact and_congr_right fun hg => ih (hstep s e s' hs hg he)

end Guard

/-! ## At most once -/

section AtMostOnce

variable {Inv Done : σ → Prop} {G : σ → ε → Prop} {p : σ → ε → σ → Bool}

/-- A kind of step that leads into `Done`, where it is not taken any more. -/
structure Once (step : σ → ε → Option σ) (Inv Done : σ → Prop) (G : σ → ε → Prop)
    (p : σ → ε → σ → Bool) : Prop where
  inv : ∀ s e s', Inv s → G s e → step s e = some s' → Inv s'
  done : ∀ s e s', Inv s → G s e → step s e = some s' → Done s → Done s'
  never : ∀ s e s', Inv s → G s e → step s e = some s' → Done s → p s e s' = false
  reach : ∀ s e s', Inv s → G s e → step s e = some s' → p s e s' = true → Done s'

lemma Once.countSteps_eq_zero (h : Once step Inv Done G p) {s : σ} {es : List ε} (hs : Inv s)
    (hg : ∀ t ∈ steps step s es, G t.1 t.2.1) (hd : Done s) : countSteps step p s es = 0 := by
  induction es generalizing s with
  | nil => rfl
  | cons e es ih =>
      cases he : step s e with
      | none => exact countSteps_cons_none p es he
      | some s' =>
          rw [steps_cons_some es he, List.forall_mem_cons] at hg
          rw [countSteps_cons_some p es he, h.never s e s' hs hg.1 he hd,
            ih (h.inv s e s' hs hg.1 he) hg.2 (h.done s e s' hs hg.1 he hd)]
          rfl

/-- **The at-most-once rule.** -/
theorem Once.countSteps_le_one (h : Once step Inv Done G p) {s : σ} {es : List ε} (hs : Inv s)
    (hg : ∀ t ∈ steps step s es, G t.1 t.2.1) : countSteps step p s es ≤ 1 := by
  induction es generalizing s with
  | nil => simp
  | cons e es ih =>
      cases he : step s e with
      | none => simp [countSteps_cons_none p es he]
      | some s' =>
          rw [steps_cons_some es he, List.forall_mem_cons] at hg
          have hs' := h.inv s e s' hs hg.1 he
          rw [countSteps_cons_some p es he]
          cases hp : p s e s' with
          | false => simpa using ih hs' hg.2
          | true => simp [h.countSteps_eq_zero hs' hg.2 (h.reach s e s' hs hg.1 he hp)]

/-- Once it has been taken, the run is in `Done`. -/
theorem Once.done_of_countSteps_pos (h : Once step Inv Done G p) {s u : σ} {es : List ε} (hs : Inv s)
    (hg : ∀ t ∈ steps step s es, G t.1 t.2.1) (hrun : run step s es = some u)
    (hpos : Done s ∨ 0 < countSteps step p s es) : Done u := by
  induction es generalizing s with
  | nil =>
      simp only [run, Option.some.injEq] at hrun
      subst hrun
      exact hpos.resolve_right (by simp)
  | cons e es ih =>
      cases he : step s e with
      | none => simp [run, he] at hrun
      | some s' =>
          simp only [run, he, Option.bind_some] at hrun
          rw [steps_cons_some es he, List.forall_mem_cons] at hg
          refine ih (h.inv s e s' hs hg.1 he) hg.2 hrun ?_
          rcases hpos with hd | hpos
          · exact Or.inl (h.done s e s' hs hg.1 he hd)
          · cases hp : p s e s' with
            | true => exact Or.inl (h.reach s e s' hs hg.1 he hp)
            | false =>
                refine Or.inr ?_
                rw [countSteps_cons_some p es he, hp] at hpos
                simpa using hpos

end AtMostOnce

/-! ## Accounts -/

/-- **The account rule.**  A kind of step that uses up a unit of the balance is taken no more often than
steps of another kind have paid one in, or than there were units at the beginning. -/
theorem countSteps_le_of_balance {p q : σ → ε → σ → Bool} (balance : σ → ℕ)
    (h : ∀ s e s', step s e = some s' →
      (if p s e s' then 1 else 0) + balance s' ≤ balance s + if q s e s' then 1 else 0)
    (s : σ) (es : List ε) : countSteps step p s es ≤ balance s + countSteps step q s es := by
  induction es generalizing s with
  | nil => simp
  | cons e es ih =>
      cases he : step s e with
      | none => simp [countSteps_cons_none _ es he]
      | some s' =>
          have hone := h s e s' he
          have hrest := ih s'
          rw [countSteps_cons_some p es he, countSteps_cons_some q es he]
          omega

/-! ## Two machines -/

/-- **Lockstep.**  Two machines get corresponding events.  When one event takes related states to related states, or
stops both machines, so does a run. -/
theorem run_rel {τ δ : Type*} {step' : τ → δ → Option τ} {R : σ → τ → Prop} {E : ε → δ → Prop}
    (hstep : ∀ s t e d, R s t → E e d → Option.Rel R (step s e) (step' t d)) {s : σ} {t : τ} {es : List ε}
    {ds : List δ} (hes : List.Forall₂ E es ds) (hR : R s t) :
    Option.Rel R (run step s es) (run step' t ds) := by
  induction hes generalizing s t with
  | nil => exact .some hR
  | @cons e d es ds he _ ih =>
      have hone := hstep s t e d hR he
      rw [run, run]
      generalize step s e = o, step' t d = o' at hone
      cases hone with
      | none => exact .none
      | some hR' => exact ih hR'

end Transition
