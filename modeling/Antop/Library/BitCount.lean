import Mathlib.Tactic

/-!
# Counting positions

The positions at which a property holds, counted over a range, in the orders in which loops over words
and bits visit them.

* `countP_add` — first one range, then what is behind it; `countP_add_one` — one position more.
* `sum_countP_words` — word by word, and each word from its last bit.
* `countP_window` — only a window of the range counts; `countP_windows` says that a window can be moved.
-/

namespace BitCount

variable {f g : ℕ → Bool}

lemma countP_congr {n : ℕ} (h : ∀ p < n, f p = g p) :
    (List.range n).countP f = (List.range n).countP g :=
  List.countP_congr fun p hp => by rw [h p (List.mem_range.mp hp)]

/-- First one range, then what is behind it. -/
lemma countP_add (f : ℕ → Bool) (k n : ℕ) :
    (List.range (k + n)).countP f
      = (List.range k).countP f + (List.range n).countP fun p => f (k + p) := by
  rw [List.range_add, List.countP_append, List.countP_map]
  rfl

lemma countP_eq_zero_iff {n : ℕ} : (List.range n).countP f = 0 ↔ ∀ p < n, f p = false := by
  simp

/-- One position more. -/
lemma countP_add_one {i n : ℕ} (hi : i < n) (hf : f i = true) (hg : g i = false) (h : ∀ p, p ≠ i → g p = f p) :
    (List.range n).countP g + 1 = (List.range n).countP f := by
  obtain ⟨r, rfl⟩ := Nat.exists_eq_add_of_lt hi
  have hantes : (List.range i).countP g = (List.range i).countP f := countP_congr fun p hp => h p (by omega)
  have hluego : ((List.range r).countP fun p => g (i + 1 + p)) = (List.range r).countP fun p => f (i + 1 + p) :=
    countP_congr fun p _ => h (i + 1 + p) (by omega)
  rw [Nat.add_right_comm i r 1, countP_add g, countP_add f, hluego, List.range_succ, List.countP_append,
    List.countP_append, hantes, List.countP_singleton, List.countP_singleton, if_pos hf,
    if_neg (hg ▸ Bool.false_ne_true)]
  omega

/-- The other way round. -/
lemma countP_reflect (f : ℕ → Bool) (n : ℕ) :
    ((List.range n).countP fun p => f (n - 1 - p)) = (List.range n).countP f := by
  have hrev : (List.range n).map (fun p => n - 1 - p) = (List.range n).reverse := by
    simp [List.range_eq_range', List.reverse_range']
  rw [← List.countP_reverse (p := f) (l := List.range n), ← hrev, List.countP_map]
  rfl

/-- **Word by word**, and each word from its last bit. -/
lemma sum_countP_words (f : ℕ → Bool) (w k : ℕ) :
    ((List.range k).map fun i => (List.range w).countP fun j => f (w * i + (w - 1 - j))).sum
      = (List.range (w * k)).countP f := by
  induction k with
  | zero => rfl
  | succ k ih =>
      rw [List.range_succ, List.map_append, List.sum_append, ih, Nat.mul_succ, countP_add]
      simp only [List.map_cons, List.map_nil, List.sum_cons, List.sum_nil, Nat.add_zero]
      rw [countP_reflect fun p => f (w * k + p)]

/-- **A window**: nothing counts in front of it or behind it. -/
lemma countP_window {lo n N : ℕ} (hN : lo + n ≤ N) (h : ∀ p < N, f p = true → lo ≤ p ∧ p < lo + n) :
    (List.range N).countP f = (List.range n).countP fun i => f (lo + i) := by
  obtain ⟨r, rfl⟩ := Nat.exists_eq_add_of_le hN
  have hdelante : (List.range lo).countP f = 0 := by
    refine countP_eq_zero_iff.mpr fun p hp => ?_
    by_contra hf
    have := h p (by omega) (by simpa using hf)
    omega
  have hdetras : ((List.range r).countP fun i => f (lo + n + i)) = 0 := by
    refine countP_eq_zero_iff.mpr fun p hp => ?_
    by_contra hf
    have := h (lo + n + p) (by omega) (by simpa using hf)
    omega
  rw [countP_add f (lo + n), countP_add f lo, hdelante, hdetras, Nat.zero_add, Nat.add_zero]

/-- Two windows with the same bits count the same. -/
lemma countP_windows {lo lo' n N : ℕ} (hN : lo + n ≤ N) (hN' : lo' + n ≤ N)
    (h : ∀ p < N, f p = true → lo ≤ p ∧ p < lo + n) (h' : ∀ p < N, g p = true → lo' ≤ p ∧ p < lo' + n)
    (heq : ∀ i < n, f (lo + i) = g (lo' + i)) :
    (List.range N).countP f = (List.range N).countP g := by
  rw [countP_window hN h, countP_window hN' h']
  exact countP_congr heq

end BitCount
