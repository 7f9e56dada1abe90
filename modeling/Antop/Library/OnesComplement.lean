import Mathlib.Data.Nat.ModEq
import Mathlib.Tactic

/-!
# Sums in ones' complement

Numbers below `B` are added with the carry going back to the last digit, which makes of them the numbers
modulo `B - 1`, where zero is written in two ways.

* `add`, `sum` — the sum, `sum_modEq`, `sum_lt` and `sum_pos` what it is.
* `fold` — the carries of a plain sum are added to it, `fold_fold_lt` and `fold_modEq` what comes of it.
* `sum_eq_iff` — two sums that are not zero are the same exactly when the plain ones are congruent.
* `words` — bytes in pairs, the last one with a zero behind it.
-/

namespace OnesComplement

variable {B : ℕ}

/-! ## The sum -/

/-- The sum with its carry. -/
def add (B a b : ℕ) : ℕ := if a + b < B then a + b else a + b - (B - 1)

/-- The sum of a list. -/
def sum (B : ℕ) (ws : List ℕ) : ℕ := ws.foldl (add B) 0

lemma add_modEq (hB : 0 < B) (a b : ℕ) : add B a b ≡ a + b [MOD B - 1] := by
  rw [add]
  split_ifs with h
  · rfl
  · refine (Nat.modEq_iff_dvd' (Nat.sub_le _ _)).mpr ?_
    rw [Nat.sub_sub_self (by omega)]

lemma add_lt {a b : ℕ} (ha : a < B) (hb : b < B) : add B a b < B := by
  rw [add]
  split_ifs <;> omega

lemma add_pos {a b : ℕ} (hB : 1 < B) (h : 0 < a + b) : 0 < add B a b := by
  rw [add]
  split_ifs <;> omega

lemma foldl_add_modEq (hB : 0 < B) (ws : List ℕ) (a : ℕ) : ws.foldl (add B) a ≡ a + ws.sum [MOD B - 1] := by
  induction ws generalizing a with
  | nil => rfl
  | cons w ws ih =>
      rw [List.foldl_cons, List.sum_cons, ← Nat.add_assoc]
      exact (ih _).trans ((add_modEq hB a w).add_right _)

/-- **What the sum is congruent to.** -/
lemma sum_modEq (hB : 0 < B) (ws : List ℕ) : sum B ws ≡ ws.sum [MOD B - 1] := by
  have h := foldl_add_modEq hB ws 0
  rwa [Nat.zero_add] at h

lemma sum_lt (hB : 0 < B) {ws : List ℕ} (h : ∀ w ∈ ws, w < B) : sum B ws < B := by
  have hgen (ws : List ℕ) (h : ∀ w ∈ ws, w < B) (a : ℕ) (ha : a < B) : ws.foldl (add B) a < B := by
    induction ws generalizing a with
    | nil => exact ha
    | cons w ws ih =>
        rw [List.forall_mem_cons] at h
        exact ih h.2 _ (add_lt ha h.1)
  exact hgen ws h 0 hB

lemma sum_pos (hB : 1 < B) {ws : List ℕ} (h : 0 < ws.sum) : 0 < sum B ws := by
  have hgen (ws : List ℕ) (a : ℕ) (h : 0 < a + ws.sum) : 0 < ws.foldl (add B) a := by
    induction ws generalizing a with
    | nil => simpa using h
    | cons w ws ih =>
        refine ih _ ?_
        by_cases hw : 0 < a + w
        · exact Nat.add_pos_left (add_pos hB hw) _
        · rw [List.sum_cons] at h
          omega
  exact hgen ws 0 (by omega)

/-! ## Folding a plain sum -/

/-- The carries go to the last digit. -/
def fold (B s : ℕ) : ℕ := s / B + s % B

lemma fold_modEq (hB : 0 < B) (s : ℕ) : fold B s ≡ s [MOD B - 1] := by
  have hs : s = fold B s + (B - 1) * (s / B) := by
    obtain ⟨c, rfl⟩ : ∃ c, B = c + 1 := ⟨B - 1, by omega⟩
    have h := Nat.div_add_mod s (c + 1)
    rw [fold, Nat.add_sub_cancel]
    calc s = (c + 1) * (s / (c + 1)) + s % (c + 1) := h.symm
      _ = s / (c + 1) + s % (c + 1) + c * (s / (c + 1)) := by ring
  have hadd : fold B s + (B - 1) * (s / B) ≡ fold B s [MOD B - 1] := by simp [Nat.ModEq]
  rw [← hs] at hadd
  exact hadd.symm

lemma fold_pos {s : ℕ} (h : 0 < s) : 0 < fold B s := by
  have hdm := Nat.div_add_mod s B
  rw [fold]
  by_contra hz
  have h0 := Nat.add_eq_zero_iff.mp (Nat.eq_zero_of_not_pos hz)
  rw [h0.1, h0.2] at hdm
  omega

lemma fold_le {s : ℕ} (h : s < B * B) : fold B s ≤ 2 * (B - 1) := by
  have hB : 0 < B := Nat.pos_of_ne_zero fun h0 => by simp [h0] at h
  have hdiv : s / B < B := Nat.div_lt_of_lt_mul h
  have hmod : s % B < B := Nat.mod_lt s hB
  rw [fold]
  omega

/-- **Twice is enough.** -/
lemma fold_fold_lt {s : ℕ} (hB : 1 < B) (h : s < B * B) : fold B (fold B s) < B := by
  have hle := fold_le h
  by_cases hlt : fold B s < B
  · rw [fold, Nat.div_eq_of_lt hlt, Nat.mod_eq_of_lt hlt]
    omega
  · have hdiv : fold B s / B = 1 := (Nat.div_eq_iff (by omega)).mpr ⟨by omega, by omega⟩
    have hmod : fold B s % B = fold B s - B := by
      rw [Nat.mod_eq_sub_mod (by omega), Nat.mod_eq_of_lt (by omega)]
    rw [fold, hdiv, hmod]
    omega

/-! ## Comparing sums -/

/-- Congruent numbers from 1 to `B - 1` are the same. -/
lemma eq_iff_modEq {a b : ℕ} (ha : 0 < a) (haB : a < B) (hb : 0 < b) (hbB : b < B) :
    a = b ↔ a ≡ b [MOD B - 1] := by
  refine ⟨fun h => by rw [h], fun h => ?_⟩
  have hsub : a - 1 ≡ b - 1 [MOD B - 1] := by
    refine Nat.ModEq.add_right_cancel' 1 ?_
    rwa [Nat.sub_add_cancel ha, Nat.sub_add_cancel hb]
  have heq := hsub.eq_of_lt_of_lt (by omega) (by omega)
  omega

/-- **Folded sums.**  The folded plain sum `s` is the sum of `ws` exactly when `s` is congruent to the
plain sum of `ws`. -/
theorem fold_fold_eq_sum_iff (hB : 1 < B) {s : ℕ} {ws : List ℕ} (hs : 0 < s) (hsB : s < B * B)
    (hws : ∀ w ∈ ws, w < B) (hpos : 0 < ws.sum) :
    fold B (fold B s) = sum B ws ↔ s ≡ ws.sum [MOD B - 1] := by
  have hB0 : 0 < B := by omega
  rw [eq_iff_modEq (fold_pos (fold_pos hs)) (fold_fold_lt hB hsB) (sum_pos hB hpos) (sum_lt hB0 hws)]
  have hfold : fold B (fold B s) ≡ s [MOD B - 1] := (fold_modEq hB0 _).trans (fold_modEq hB0 s)
  exact ⟨fun h => (hfold.symm.trans h).trans (sum_modEq hB0 ws),
    fun h => (hfold.trans h).trans (sum_modEq hB0 ws).symm⟩

/-- The sum is `B - 1` exactly when the plain sum is a multiple of it. -/
lemma sum_eq_pred_iff (hB : 1 < B) {ws : List ℕ} (hws : ∀ w ∈ ws, w < B) (hpos : 0 < ws.sum) :
    sum B ws = B - 1 ↔ B - 1 ∣ ws.sum := by
  have hB0 : 0 < B := by omega
  rw [eq_iff_modEq (sum_pos hB hpos) (sum_lt hB0 hws) (by omega) (by omega), ← Nat.modEq_zero_iff_dvd]
  have hself : B - 1 ≡ 0 [MOD B - 1] := Nat.modEq_zero_iff_dvd.mpr (dvd_refl _)
  exact ⟨fun h => ((sum_modEq hB0 ws).symm.trans h).trans hself,
    fun h => ((sum_modEq hB0 ws).trans h).trans hself.symm⟩

/-! ## Words from bytes -/

/-- Bytes in pairs, the more significant one first; to a last one a zero is added. -/
def words (c : ℕ) : List ℕ → List ℕ
  | [] => []
  | [a] => [c * a]
  | a :: b :: l => (c * a + b) :: words c l

lemma words_lt {c : ℕ} {l : List ℕ} (h : ∀ a ∈ l, a < c) : ∀ w ∈ words c l, w < c * c := by
  have hword (a b : ℕ) (ha : a < c) (hb : b < c) : c * a + b < c * c :=
    calc c * a + b < c * a + c := by omega
      _ = c * (a + 1) := (Nat.mul_succ c a).symm
      _ ≤ c * c := Nat.mul_le_mul_left c ha
  induction l using words.induct with
  | case1 => simp [words]
  | case2 a =>
      have ha := h a (by simp)
      simpa [words] using hword a 0 ha (by omega)
  | case3 a b l ih =>
      rw [words, List.forall_mem_cons]
      exact ⟨hword a b (h a (by simp)) (h b (by simp)), ih fun x hx => h x (by simp [hx])⟩

end OnesComplement
