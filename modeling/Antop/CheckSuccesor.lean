import Antop.HeartBeat

/-!
# When `check_succesor` ends

`check_succesor` sets its mask once, before the first word.  A word whose first difference is
followed by zeros only uses the mask up; the next word that differs is then compared under an empty
mask, where no two bits differ, and its loop runs for ever.

* `firstDifference_eq_none` — an empty mask stays empty, whatever the fuel.
* `Agota` — a pair of words that differ and use the mask up.
* **`checkSuccesor_termina_iff`** — the exact pairs of addresses for which the function returns.

The addresses of a link in the hypercube differ in one bit, so they never meet the case; those of a
link through a secondary address differ in two.
-/

namespace Antop

/-! ## The mask at a position -/

/-- `mask` after `k` shifts. -/
def maskAt (k : ℕ) : Word := 0x8000#16 >>> k

lemma maskAt_succ (k : ℕ) : maskAt k >>> 1 = maskAt (k + 1) := by
  unfold maskAt
  rw [← BitVec.shiftRight_add]

lemma maskAt_of_le {k : ℕ} (hk : 16 ≤ k) : maskAt k = 0#16 :=
  BitVec.ushiftRight_eq_zero hk

/-- Under the mask two words agree when they agree in its bit. -/
lemma and_maskAt_eq_iff (w v : Word) (k : ℕ) :
    w &&& maskAt k = v &&& maskAt k ↔ w.getMsbD k = v.getMsbD k := by
  rcases Nat.lt_or_ge k 16 with hk | hk
  · rw [maskAt, shiftRight_eq_pow2 hk, and_pow2_eq_iff w v (by omega), show 15 - (15 - k) = k by omega]
  · rw [maskAt_of_le hk, BitVec.getMsbD_of_ge _ _ hk, BitVec.getMsbD_of_ge _ _ hk]
    simp

lemma and_maskAt_eq_zero_iff (w : Word) (k : ℕ) : w &&& maskAt k = 0 ↔ w.getMsbD k = false := by
  simpa using and_maskAt_eq_iff w 0 k

/-! ## The two inner loops -/

/-- **An empty mask stays empty**: the loop does not end, however long it runs. -/
lemma firstDifference_eq_none (w v : Word) (fuel j : ℕ) : firstDifference w v fuel 0#16 j = none := by
  induction fuel generalizing j with
  | zero => rfl
  | succ fuel ih =>
      rw [firstDifference, if_pos (by simp), show 0#16 >>> 1 = 0#16 by decide]
      exact ih (j + 1)

/-- With a full mask the loop stops at the first bit that differs. -/
lemma firstDifference_eq_some {w v : Word} {p : ℕ} (hdiff : w.getMsbD p ≠ v.getMsbD p)
    {fuel j : ℕ} (hj : j ≤ p) (hbefore : ∀ r, j ≤ r → r < p → w.getMsbD r = v.getMsbD r)
    (hfuel : p < j + fuel) :
    firstDifference w v fuel (maskAt j) j = some (maskAt p, p) := by
  induction fuel generalizing j with
  | zero => omega
  | succ fuel ih =>
      rw [firstDifference, maskAt_succ]
      rcases Nat.lt_or_ge j p with hlt | hge
      · rw [if_pos ((and_maskAt_eq_iff w v j).mpr (hbefore j le_rfl hlt))]
        exact ih (by omega) (fun r hr => hbefore r (by omega)) (by omega)
      · obtain rfl : j = p := by omega
        rw [if_neg fun h => hdiff ((and_maskAt_eq_iff w v j).mp h)]

/-- The bits from position `k` on are zero in both words. -/
def CerosDesde (w v : Word) (k : ℕ) : Prop :=
  ∀ r < 16, k ≤ r → w.getMsbD r = false ∧ v.getMsbD r = false

instance (w v : Word) (k : ℕ) : Decidable (CerosDesde w v k) :=
  inferInstanceAs (Decidable (∀ r < 16, k ≤ r → w.getMsbD r = false ∧ v.getMsbD r = false))

lemma cerosDesde_step {w v : Word} {k : ℕ} (hk : w.getMsbD k = false ∧ v.getMsbD k = false) :
    CerosDesde w v k ↔ CerosDesde w v (k + 1) := by
  constructor
  · intro h r hr hkr
    exact h r hr (by omega)
  · intro h r hr hkr
    rcases Nat.eq_or_lt_of_le hkr with rfl | hlt
    · exact hk
    · exact h r hr hlt

/-- The second loop reaches the end of the word exactly when the rest of it is zero in both, and has
then used the mask up. -/
lemma skipZeros_spec (w v : Word) {fuel j : ℕ} (hj : j ≤ 16) (hfuel : 16 ≤ j + fuel) :
    (CerosDesde w v (j + 1) → skipZeros w v fuel (maskAt (j + 1)) j = (0#16, 16)) ∧
    (¬ CerosDesde w v (j + 1) → (skipZeros w v fuel (maskAt (j + 1)) j).2 ≠ 16) := by
  induction fuel generalizing j with
  | zero =>
      obtain rfl : j = 16 := by omega
      refine ⟨fun _ => ?_, fun h => absurd ?_ h⟩
      · rw [skipZeros, maskAt_of_le (by omega)]
      · intro r hr hle
        omega
  | succ fuel ih =>
      simp only [skipZeros, maskAt_succ, and_maskAt_eq_iff, and_maskAt_eq_zero_iff]
      rcases Nat.eq_or_lt_of_le hj with rfl | hlt
      · refine ⟨fun _ => by simp [maskAt_of_le], fun h => absurd (fun r hr hle => ?_) h⟩
        omega
      · by_cases hbit : w.getMsbD (j + 1) = false ∧ v.getMsbD (j + 1) = false
        · simp only [hbit.1, hbit.2, hlt, and_self, if_true, cerosDesde_step hbit]
          exact ih (by omega) (by omega)
        · rw [if_neg fun ⟨heq, hzero, _⟩ => hbit ⟨hzero, heq ▸ hzero⟩]
          refine ⟨fun h => absurd ?_ hbit, fun _ => Nat.ne_of_lt hlt⟩
          rcases Nat.lt_or_ge (j + 1) 16 with hlt' | hge
          · exact h (j + 1) hlt' le_rfl
          · exact ⟨BitVec.getMsbD_of_ge _ _ hge, BitVec.getMsbD_of_ge _ _ hge⟩

/-! ## A word that uses the mask up -/

/-- The words differ, and after the first bit that differs both have zeros only. -/
def Agota (w v : Word) : Prop :=
  ∃ p < 16, (∀ r < p, w.getMsbD r = v.getMsbD r) ∧ w.getMsbD p ≠ v.getMsbD p ∧ CerosDesde w v (p + 1)

instance (w v : Word) : Decidable (Agota w v) :=
  inferInstanceAs (Decidable (∃ p < 16, (∀ r < p, w.getMsbD r = v.getMsbD r)
    ∧ w.getMsbD p ≠ v.getMsbD p ∧ CerosDesde w v (p + 1)))

/-- Words that differ have a first bit that does. -/
lemma exists_first_difference {w v : Word} (h : w ≠ v) :
    ∃ p < 16, (∀ r < p, w.getMsbD r = v.getMsbD r) ∧ w.getMsbD p ≠ v.getMsbD p := by
  have hex : ∃ p, w.getMsbD p ≠ v.getMsbD p := by
    by_contra hall
    push Not at hall
    exact h (BitVec.eq_of_getMsbD_eq fun p _ => hall p)
  refine ⟨Nat.find hex, ?_, fun r hr => not_not.mp (Nat.find_min hex hr), Nat.find_spec hex⟩
  by_contra hge
  exact Nat.find_spec hex (by rw [BitVec.getMsbD_of_ge _ _ (by omega), BitVec.getMsbD_of_ge _ _ (by omega)])

lemma agota_iff_cerosDesde {w v : Word} {p : ℕ} (hp : p < 16)
    (hbefore : ∀ r < p, w.getMsbD r = v.getMsbD r) (hdiff : w.getMsbD p ≠ v.getMsbD p) :
    Agota w v ↔ CerosDesde w v (p + 1) := by
  constructor
  · rintro ⟨q, -, hq, hqdiff, hceros⟩
    rcases lt_trichotomy p q with hlt | rfl | hgt
    · exact absurd (hq p hlt) hdiff
    · exact hceros
    · exact absurd (hbefore q hgt) hqdiff
  · intro hceros
    exact ⟨p, hp, hbefore, hdiff, hceros⟩

lemma Agota.ne {w v : Word} (h : Agota w v) : w ≠ v := by
  obtain ⟨p, -, -, hdiff, -⟩ := h
  exact fun heq => hdiff (by rw [heq])

/-! ## The words in turn -/

variable {a b : In6Addr}

/-- Under an empty mask the first word that differs is never left. -/
lemma checkSuccesorWords_vacia (is : List ℕ) (d : ℕ) (s : Bool) :
    checkSuccesorWords a b is 0#16 d s = none ↔ ∃ i ∈ is, a.word i ≠ b.word i := by
  induction is generalizing d s with
  | nil => simp [checkSuccesorWords]
  | cons i is ih =>
      by_cases h : a.word i = b.word i
      · simp [checkSuccesorWords, h, ih]
      · simp [checkSuccesorWords, h, firstDifference_eq_none]

lemma checkSuccesorWords_nil (mask : Word) (d : ℕ) (s : Bool) :
    checkSuccesorWords a b [] mask d s ≠ none := by
  simp [checkSuccesorWords]

/-- With a full mask the function is stuck when the first word that differs uses it up and another
word differs. -/
lemma checkSuccesorWords_llena (i : ℕ) (is : List ℕ) (d : ℕ) (s : Bool) :
    checkSuccesorWords a b (i :: is) (maskAt 0) d s = none ↔
      if a.word i = b.word i then checkSuccesorWords a b is (maskAt 0) d s = none
      else Agota (htons (a.word i)) (htons (b.word i)) ∧ ∃ k ∈ is, a.word k ≠ b.word k := by
  by_cases h : a.word i = b.word i
  · simp only [checkSuccesorWords, h, if_true]
  · obtain ⟨p, hp, hbefore, hdiff⟩ := exists_first_difference fun heq => h (htons_injective heq)
    have hfirst := firstDifference_eq_some hdiff (Nat.zero_le p) (fun r _ => hbefore r)
      (show p < 0 + 17 by omega)
    obtain ⟨hskip, hstop⟩ := skipZeros_spec (htons (a.word i)) (htons (b.word i))
      (show p ≤ 16 by omega) (show 16 ≤ p + 16 by omega)
    rw [if_neg h, agota_iff_cerosDesde hp hbefore hdiff]
    simp only [checkSuccesorWords, h, if_false, hfirst, maskAt_succ]
    -- the rest of the word decides whether the loop over the words goes on
    by_cases hceros : CerosDesde (htons (a.word i)) (htons (b.word i)) (p + 1)
    · simp [hskip hceros, hceros, checkSuccesorWords_vacia]
    · simp [hstop hceros, hceros]

/-! ## The function -/

/-- Some host word is the first that differs and uses the mask up, and a later one differs too. -/
def MascaraAgotada (a b : In6Addr) : Prop :=
  ∃ i < 8, 4 ≤ i ∧ (∀ k < i, 4 ≤ k → a.word k = b.word k)
    ∧ Agota (htons (a.word i)) (htons (b.word i)) ∧ ∃ k < 8, i < k ∧ a.word k ≠ b.word k

instance (a b : In6Addr) : Decidable (MascaraAgotada a b) :=
  inferInstanceAs (Decidable (∃ i < 8, 4 ≤ i ∧ (∀ k < i, 4 ≤ k → a.word k = b.word k)
    ∧ Agota (htons (a.word i)) (htons (b.word i)) ∧ ∃ k < 8, i < k ∧ a.word k ≠ b.word k))

/-- **`check_succesor` returns exactly when no word but the last that differs uses the mask up.** -/
theorem checkSuccesor_termina_iff (a b : In6Addr) :
    (checkSuccesor a b).isSome ↔ ¬ MascaraAgotada a b := by
  rw [Option.isSome_iff_ne_none, checkSuccesor, show pow2 15 = maskAt 0 by decide]
  refine not_congr ?_
  simp only [checkSuccesorWords_llena, checkSuccesorWords_nil]
  constructor
  · intro h
    -- the first word that differs is the one that uses the mask up
    have hfirst : ∃ i < 8, 4 ≤ i ∧ (∀ k < i, 4 ≤ k → a.word k = b.word k)
        ∧ Agota (htons (a.word i)) (htons (b.word i)) ∧ ∃ k ∈ [5, 6, 7], i < k ∧ a.word k ≠ b.word k := by
      split_ifs at h with h4 h5 h6 h7
      · simp at h
      · refine ⟨6, by omega, by omega, fun k hk hle => ?_, h.1, by simpa using h.2⟩
        interval_cases k <;> assumption
      · refine ⟨5, by omega, by omega, fun k hk hle => ?_, h.1, by simpa using h.2⟩
        interval_cases k
        assumption
      · exact ⟨4, by omega, le_rfl, fun k hk hle => by omega, h.1, by simpa using h.2⟩
    obtain ⟨i, hi, hle, hbefore, hagota, k, hk, hik, hne⟩ := hfirst
    simp only [List.mem_cons, List.not_mem_nil, or_false] at hk
    exact ⟨i, hi, hle, hbefore, hagota, k, by omega, hik, hne⟩
  · rintro ⟨i, hi, hle, hbefore, hagota, k, hk, hik, hne⟩
    have hdiff : a.word i ≠ b.word i := fun heq => hagota.ne (by rw [heq])
    have hmem : ∀ is : List ℕ, k ∈ is → ∃ k ∈ is, a.word k ≠ b.word k := fun is h => ⟨k, h, hne⟩
    interval_cases i
    · rw [if_neg hdiff]
      exact ⟨hagota, hmem _ (by simp; omega)⟩
    · rw [if_pos (hbefore 4 (by omega) le_rfl), if_neg hdiff]
      exact ⟨hagota, hmem _ (by simp; omega)⟩
    · rw [if_pos (hbefore 4 (by omega) le_rfl), if_pos (hbefore 5 (by omega) (by omega)), if_neg hdiff]
      exact ⟨hagota, hmem _ (by simp; omega)⟩
    · omega

/-- A host word that differs does so in one of its sixteen host bits. -/
lemma exists_hostBit_ne {i : ℕ} (hi : i < 8) (hle : 4 ≤ i) (h : a.word i ≠ b.word i) :
    ∃ p < 64, p / 16 + 4 = i ∧ a.hostBit p ≠ b.hostBit p := by
  obtain ⟨r, hr, -, hdiff⟩ := exists_first_difference fun heq => h (htons_injective heq)
  refine ⟨16 * (i - 4) + r, by omega, by omega, ?_⟩
  rw [In6Addr.hostBit, In6Addr.hostBit, In6Addr.bit, In6Addr.bit,
    show (64 + (16 * (i - 4) + r)) / 16 = i by omega,
    show (64 + (16 * (i - 4) + r)) % 16 = r by omega]
  exact hdiff

/-- Between neighbours in the hypercube the function returns. -/
theorem checkSuccesor_termina_of_dist (h : dist a b = 1) : (checkSuccesor a b).isSome := by
  rw [checkSuccesor_termina_iff]
  rintro ⟨i, hi, hle, -, hagota, k, hk, hik, hne⟩
  obtain ⟨p, hp, hpi, hpne⟩ := exists_hostBit_ne hi hle fun heq => hagota.ne (by rw [heq])
  obtain ⟨q, hq, hqk, hqne⟩ := exists_hostBit_ne hk (by omega) hne
  rw [dist_eq_countP, List.countP_eq_length_filter, List.length_eq_one_iff] at h
  obtain ⟨c, hc⟩ := h
  have hmem : ∀ r < 64, a.hostBit r ≠ b.hostBit r → r = c := by
    intro r hr hrne
    have : r ∈ (List.range 64).filter fun p => a.hostBit p != b.hostBit p :=
      List.mem_filter.mpr ⟨List.mem_range.mpr hr, by simpa using hrne⟩
    simpa [hc] using this
  rw [hmem p hp hpne] at hpi
  rw [hmem q hq hqne] at hqk
  omega

/-- Two addresses on one link, through the secondary address: words 5 and 6 differ in their first
bit, and the loop over word 6 does not end. -/
theorem checkSuccesor_no_termina :
    checkSuccesor root (.ofWords 0x0120 0xb80d 0 0 0 0x0080 0x0080 0x0100) = none := by decide

end Antop
