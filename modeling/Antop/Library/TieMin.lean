import Mathlib.Tactic

/-!
# The last of the best

A loop that keeps the best element it has seen: one with a smaller value replaces it, and so does one
with the same value that is *preferred*.

* `TieMin.paso` — one round, with the best element so far and its value.
* `TieMin.Mejor` — what the loop ends with: an element with the smallest value, preferred if one of those
  is.
-/

namespace TieMin

variable {α : Type*} (d : α → ℕ) (pref : α → Prop) [DecidablePred pref]

/-- One round of the loop. -/
def paso (p : Option α × ℕ) (c : α) : Option α × ℕ :=
  if d c < p.2 ∨ d c = p.2 ∧ pref c then (some c, d c) else p

/-- The element `c` of `l` has the smallest value, and is preferred when one with that value is. -/
structure Mejor (l : List α) (c : α) : Prop where
  mem : c ∈ l
  le : ∀ x ∈ l, d c ≤ d x
  empate : (∃ x ∈ l, d x = d c ∧ pref x) → pref c

variable {d pref}

/-- One more element. -/
lemma Mejor.paso {l : List α} {c : α} (h : Mejor d pref l c) (x : α) :
    ∃ c', TieMin.paso d pref (some c, d c) x = (some c', d c') ∧ Mejor d pref (l ++ [x]) c' := by
  unfold TieMin.paso
  by_cases hx : d x < d c ∨ d x = d c ∧ pref x
  · rw [if_pos hx]
    refine ⟨x, rfl, List.mem_append_right l List.mem_cons_self, ?_, ?_⟩
    · intro y hy
      rcases List.mem_append.mp hy with hy | hy
      · have := h.le y hy
        omega
      · rw [List.mem_singleton.mp hy]
    · rintro ⟨y, hy, hyx, hpref⟩
      rcases List.mem_append.mp hy with hy | hy
      · have := h.le y hy
        exact (hx.resolve_left (by omega)).2
      · rwa [← List.mem_singleton.mp hy]
  · rw [if_neg hx]
    push Not at hx
    refine ⟨c, rfl, List.mem_append_left _ h.mem, ?_, ?_⟩
    · intro y hy
      rcases List.mem_append.mp hy with hy | hy
      · exact h.le y hy
      · rw [List.mem_singleton.mp hy]
        exact hx.1
    · rintro ⟨y, hy, hyc, hpref⟩
      rcases List.mem_append.mp hy with hy | hy
      · exact h.empate ⟨y, hy, hyc, hpref⟩
      · rw [List.mem_singleton.mp hy] at hyc hpref
        exact absurd hpref (hx.2 hyc)

variable (d pref)

/-- **The loop.**  From a bound above all values, it ends with one of the best. -/
lemma foldl_paso {l : List α} (hl : l ≠ []) {cota : ℕ} (hcota : ∀ x ∈ l, d x < cota) :
    ∃ c, l.foldl (paso d pref) (none, cota) = (some c, d c) ∧ Mejor d pref l c := by
  induction l using List.reverseRecOn with
  | nil => exact absurd rfl hl
  | append_singleton l x ih =>
      rw [List.foldl_append, List.foldl_cons, List.foldl_nil]
      by_cases hnil : l = []
      · subst hnil
        have hx : d x < cota := hcota x (by simp)
        refine ⟨x, if_pos (Or.inl hx), by simp, ?_, ?_⟩
        · intro y hy
          rw [List.mem_singleton.mp hy]
        · rintro ⟨y, hy, -, hpref⟩
          rwa [← List.mem_singleton.mp hy]
      · obtain ⟨c, hc, hmejor⟩ := ih hnil fun y hy => hcota y (List.mem_append_left _ hy)
        rw [hc]
        exact hmejor.paso x

end TieMin
