import Mathlib.Tactic

/-!
# Loops that are left from inside

A loop whose body takes an input and either goes on in a new state or leaves the loop with a result.

* `Loop.run` — what a loop has come to after some inputs: it is still running, or it has been left.
* `Loop.run_rule` — an invariant of the rounds gives what holds when the loop is left.
* `Loop.testAfter`, `Loop.tryAfter` — bodies that change the state and then decide whether to leave; in the
  second one the change can fail, and the loop is then left without a result.
* **`Loop.returns_tryAfter_iff`** — on a stream of inputs such a loop is left with a result exactly when one of the
  states it goes through decides it and no change has failed until then.
-/

namespace Loop

variable {ι σ β : Type*}

/-- The loop after the inputs of a list. -/
def run (body : ι → σ → σ ⊕ β) : List ι → σ → σ ⊕ β
  | [], s => .inl s
  | i :: is, s =>
      match body i s with
      | .inl s' => run body is s'
      | .inr b => .inr b

/-- The first inputs of a stream. -/
def firsts (inputs : ℕ → ι) (k : ℕ) : List ι := (List.range k).map inputs

/-- On a stream of inputs the loop is left with a result, after finitely many of them. -/
def Returns (body : ι → σ → σ ⊕ Option β) (inputs : ℕ → ι) (s : σ) : Prop :=
  ∃ k b, run body (firsts inputs k) s = .inr (some b)

variable {body : ι → σ → σ ⊕ β} {inputs : ℕ → ι}

lemma firsts_succ (inputs : ℕ → ι) (k : ℕ) : firsts inputs (k + 1) = firsts inputs k ++ [inputs k] := by
  simp [firsts, List.range_succ]

lemma run_append (is₁ is₂ : List ι) (s : σ) :
    run body (is₁ ++ is₂) s = (run body is₁ s).elim (run body is₂) .inr := by
  induction is₁ generalizing s with
  | nil => rfl
  | cons i is₁ ih =>
      simp only [List.cons_append, run]
      cases body i s with
      | inl s' => exact ih s'
      | inr b => rfl

/-- A loop that is running after some inputs of a list was running after fewer of them. -/
lemma run_eq_inl_of_append {is₁ is₂ : List ι} {s s' : σ} (h : run body (is₁ ++ is₂) s = .inl s') :
    ∃ u, run body is₁ s = .inl u ∧ run body is₂ u = .inl s' := by
  rw [run_append] at h
  cases h₁ : run body is₁ s with
  | inl u =>
      rw [h₁] at h
      exact ⟨u, rfl, h⟩
  | inr b =>
      rw [h₁] at h
      exact absurd h (by simp)

/-- **The loop rule.**  What holds at the start and is kept by each round that goes on, gives what a round
that leaves needs. -/
theorem run_rule {I : σ → Prop} {Q : β → Prop}
    (hgo : ∀ i s s', I s → body i s = .inl s' → I s')
    (hleave : ∀ i s b, I s → body i s = .inr b → Q b) {s : σ} (hs : I s) (is : List ι) :
    (run body is s).elim I Q := by
  induction is generalizing s with
  | nil => exact hs
  | cons i is ih =>
      rw [run]
      cases hb : body i s with
      | inl s' => exact ih (hgo i s s' hs hb)
      | inr b => exact hleave i s b hs hb

/-! ## Leaving after a test -/

/-- The body that changes the state and then asks whether to leave. -/
def testAfter (f : ι → σ → σ) (out : ι → σ → Option β) (i : ι) (s : σ) : σ ⊕ β :=
  match out i (f i s) with
  | some b => .inr b
  | none => .inl (f i s)

section TryAfter

variable (f : ι → σ → Option σ) (out : ι → σ → Option β)

/-- The same with a change that can fail: then the loop is left without a result. -/
def tryAfter (i : ι) (s : σ) : σ ⊕ Option β :=
  match f i s with
  | none => .inr none
  | some s' =>
      match out i s' with
      | some b => .inr (some b)
      | none => .inl s'

/-- The changes of a list of inputs, whether the loop is left or not. -/
def changes (is : List ι) (s : σ) : Option σ := is.foldlM (fun s i => f i s) s

variable {f out}

@[simp] lemma changes_nil (s : σ) : changes f [] s = some s := rfl

lemma changes_cons (i : ι) (is : List ι) (s : σ) : changes f (i :: is) s = (f i s).bind (changes f is) :=
  List.foldlM_cons ..

lemma changes_concat (is : List ι) (i : ι) (s : σ) :
    changes f (is ++ [i]) s = (changes f is s).bind (f i) := by
  simp [changes, List.foldlM_append]

/-- What a round that goes on has done. -/
lemma tryAfter_eq_inl_iff {i : ι} {s s' : σ} :
    tryAfter f out i s = .inl s' ↔ f i s = some s' ∧ out i s' = none := by
  unfold tryAfter
  cases f i s with
  | none => simp
  | some u =>
      dsimp only
      cases hout : out i u with
      | none =>
          refine ⟨fun h => ?_, fun h => congrArg Sum.inl (Option.some.inj h.1)⟩
          obtain rfl := Sum.inl.inj h
          exact ⟨rfl, hout⟩
      | some b =>
          refine iff_of_false (by simp) fun h => ?_
          rw [Option.some.inj h.1, h.2] at hout
          exact absurd hout (by simp)

/-- What a round that leaves with a result has done. -/
lemma tryAfter_eq_some_iff {i : ι} {s : σ} {b : β} :
    tryAfter f out i s = .inr (some b) ↔ ∃ s', f i s = some s' ∧ out i s' = some b := by
  unfold tryAfter
  cases f i s with
  | none => simp
  | some u =>
      dsimp only
      cases hout : out i u with
      | none => simp [hout]
      | some b' => simp [hout]

/-- **The loop rule** for such a body. -/
theorem run_tryAfter_rule {I : σ → Prop} {Q : β → Prop} (hf : ∀ i s s', I s → f i s = some s' → I s')
    (hout : ∀ i s b, I s → out i s = some b → Q b) {s : σ} (hs : I s) (is : List ι) :
    (run (tryAfter f out) is s).elim I fun r => ∀ b, r = some b → Q b := by
  refine run_rule (fun i s s' hs hgo => ?_) (fun i s r hs hleave b hb => ?_) hs is
  · exact hf i s s' hs (tryAfter_eq_inl_iff.mp hgo).1
  · rw [hb] at hleave
    obtain ⟨s', hs', hb⟩ := tryAfter_eq_some_iff.mp hleave
    exact hout i s' b (hf i s s' hs hs') hb

/-- As long as the loop runs its state is the state after the inputs. -/
lemma changes_of_run {is : List ι} {s s' : σ} (h : run (tryAfter f out) is s = .inl s') :
    changes f is s = some s' := by
  induction is generalizing s with
  | nil => exact congrArg some (Sum.inl.inj h)
  | cons i is ih =>
      rw [run] at h
      split at h
      next u hu =>
        rw [changes_cons, (tryAfter_eq_inl_iff.mp hu).1]
        exact ih h
      · exact absurd h (by simp)

/-- A loop that has been left has a result, if the changes do not fail. -/
lemma run_of_changes {is : List ι} {s s' : σ} (h : changes f is s = some s') :
    run (tryAfter f out) is s = .inl s' ∨ ∃ b, run (tryAfter f out) is s = .inr (some b) := by
  induction is generalizing s with
  | nil => exact Or.inl (congrArg Sum.inl (Option.some.inj h))
  | cons i is ih =>
      rw [changes_cons] at h
      obtain ⟨u, hu, h⟩ := Option.bind_eq_some_iff.mp h
      rw [run]
      cases hout : out i u with
      | none =>
          rw [tryAfter_eq_inl_iff.mpr ⟨hu, hout⟩]
          exact ih h
      | some b =>
          rw [tryAfter_eq_some_iff.mpr ⟨u, hu, hout⟩]
          exact Or.inr ⟨b, rfl⟩

/-- **When the loop returns.** -/
theorem returns_tryAfter_iff {s : σ} :
    Returns (tryAfter f out) inputs s ↔
      ∃ k s', changes f (firsts inputs (k + 1)) s = some s' ∧ (out (inputs k) s').isSome := by
  constructor
  · rintro ⟨k, b, hb⟩
    induction k generalizing b with
    | zero => exact absurd hb (by simp [firsts, run])
    | succ k ih =>
        rw [firsts_succ, run_append] at hb
        cases hk : run (tryAfter f out) (firsts inputs k) s with
        | inr r =>
            rw [hk, Sum.elim_inr] at hb
            exact ih b (hk.trans hb)
        | inl u =>
            -- this round leaves the loop
            rw [hk, Sum.elim_inl, run] at hb
            split at hb
            · exact absurd hb (by simp [run])
            next r hr =>
              obtain rfl := Sum.inr.inj hb
              obtain ⟨s', hs', hout⟩ := tryAfter_eq_some_iff.mp hr
              refine ⟨k, s', ?_, by rw [hout]; rfl⟩
              rw [firsts_succ, changes_concat, changes_of_run hk]
              exact hs'
  · rintro ⟨k, s', hs', hout⟩
    have hs'' := hs'
    rw [firsts_succ, changes_concat] at hs''
    obtain ⟨u, hu, hlast⟩ := Option.bind_eq_some_iff.mp hs''
    have hdos : run (tryAfter f out) _ s = .inl s' ∨ ∃ b, run (tryAfter f out) _ s = .inr (some b) :=
      run_of_changes hs'
    rcases hdos with hrun | ⟨b, hb⟩
    · -- the last round has not gone on
      rw [firsts_succ] at hrun
      obtain ⟨u', hu', hround⟩ := run_eq_inl_of_append hrun
      obtain rfl := Option.some.inj (hu.symm.trans (changes_of_run hu'))
      rw [run] at hround
      split at hround
      next v hv =>
        obtain ⟨hv, hno⟩ := tryAfter_eq_inl_iff.mp hv
        obtain rfl := Option.some.inj (hlast.symm.trans hv)
        rw [hno] at hout
        exact absurd hout (by simp)
      · exact absurd hround (by simp)
    · exact ⟨k + 1, b, hb⟩

end TryAfter

end Loop
