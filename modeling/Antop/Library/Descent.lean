import Mathlib.Tactic

/-!
# Paths along which a rank falls

A path takes steps that may depend on the time, and on what has happened elsewhere until then.

* `Arrives` — every path comes to the goal, after the same number of steps.
* **`arrives`** — so it is where each step lowers a rank by one, and there is a step until the rank is zero.
-/

namespace Descent

variable {α : Type*} {step : ℕ → α → α → Prop} {goal : ℕ → α → Prop}

/-- There is a path from `x` at the time `t`, and each one comes to the goal with the `n`-th step. -/
inductive Arrives (step : ℕ → α → α → Prop) (goal : ℕ → α → Prop) : ℕ → ℕ → α → Prop
  | here {t : ℕ} {x : α} (h : goal t x) : Arrives step goal 0 t x
  | later {n t : ℕ} {x : α} (hnext : ∃ y, step t x y)
      (h : ∀ y, step t x y → Arrives step goal n (t + 1) y) : Arrives step goal (n + 1) t x

/-- **The rank says how far it is.** -/
theorem arrives (Inv : ℕ → α → Prop) (rank : α → ℕ) (hgoal : ∀ t x, Inv t x → rank x = 0 → goal t x)
    (hnext : ∀ t x, Inv t x → 0 < rank x → ∃ y, step t x y)
    (hstep : ∀ t x y, Inv t x → 0 < rank x → step t x y → Inv (t + 1) y ∧ rank y + 1 = rank x)
    {t : ℕ} {x : α} (h : Inv t x) : Arrives step goal (rank x) t x := by
  obtain ⟨n, hn⟩ : ∃ n, rank x = n := ⟨_, rfl⟩
  induction n generalizing t x with
  | zero =>
      rw [hn]
      exact .here (hgoal t x h hn)
  | succ n ih =>
      have hpos : 0 < rank x := hn ▸ Nat.succ_pos n
      rw [hn]
      refine .later (hnext t x h hpos) fun y hy => ?_
      obtain ⟨hinv, hrank⟩ := hstep t x y h hpos hy
      have hy' : rank y = n := by omega
      rw [← hy']
      exact ih hinv hy'

end Descent
