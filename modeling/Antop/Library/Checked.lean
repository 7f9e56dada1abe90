import Mathlib.Data.List.Basic
import Mathlib.Tactic

/-!
# Checked accesses

A program that reads and writes memory is defined as long as each of its accesses is in range.  Written
with checks, it is a partial function; without them, a total one whose accesses out of range do anything.
The two agree where the checks succeed, and these lemmas collect them: what is left is one condition, on
which the total function is what the program computes.

* `only` — a result that is there on a condition.
* `only_bind_only`, `foldlM_only` — two checked steps, and a loop of them.
-/

namespace Checked

variable {α β : Type*} {p q : Prop} [Decidable p] [Decidable q]

/-- A result that is there on a condition. -/
def only (p : Prop) [Decidable p] (x : α) : Option α := if p then some x else none

@[simp] lemma isSome_only {x : α} : (only p x).isSome ↔ p := by
  unfold only
  split_ifs with h <;> simp [h]

@[simp] lemma map_only (f : α → β) (x : α) : (only p x).map f = only p (f x) := by
  unfold only
  split_ifs <;> rfl

lemma only_congr (h : p ↔ q) (x : α) : only p x = only q x := by
  simp only [only, h]

/-- One check after another. -/
@[simp] lemma only_bind_only (x : α) (q : α → Prop) [DecidablePred q] (f : α → β) :
    ((only p x).bind fun y => only (q y) (f y)) = only (p ∧ q x) (f x) := by
  by_cases hp : p <;> simp [only, hp]

/-- **A loop of checked steps**, whose checks do not look at the state. -/
lemma foldlM_only (P : β → Prop) [DecidablePred P] (f : α → β → α) (l : List β) (a : α) :
    l.foldlM (fun a b => only (P b) (f a b)) a = only (∀ b ∈ l, P b) (l.foldl f a) := by
  induction l generalizing a with
  | nil => simp [only]
  | cons b l ih =>
      rw [List.foldlM_cons, List.foldl_cons, only_congr List.forall_mem_cons]
      by_cases hb : P b
      · rw [only, if_pos hb, Option.bind_eq_bind, Option.bind_some, ih]
        exact only_congr (by simp [hb]) _
      · rw [only, if_neg hb, only, if_neg fun h => hb h.1]
        rfl

end Checked
