import Antop.ServerAddress

/-!
# The arithmetic of the branches

`distribute_in_hc` takes the branch of each server from a remainder of the first and the last character of
the name, and moves it to the first `branch_bits` host bits.  The characters are signed and the remainder
goes into 16 unsigned bits; what is above 64 there is divided by 4.

* `NombrePasado` — the names that are passed to `distribute_in_hc`.
* `RamaExacta` — in a round the modulus is no division by zero, and the branch fits and is installed.
* `rama_cabe_iff` — when a remainder leads to a branch that fits.
* **`ramas_exactas_iff`** — when all rounds are so: the name is not empty, and none of the two remainders is
  negative or 64.
-/

namespace Antop

open CString

/-- The names that are passed to `distribute_in_hc`: by `register_rv` the command-line argument, and by
`solve_name` what `answer_dns_query` has taken out of a query. -/
inductive NombrePasado : List UChar → Prop
  | argv {uAddr : List UChar} (h : CStr uAddr) : NombrePasado uAddr
  | query {auxStr : Buffer UChar 150} {data uAddr : List UChar} (h : decodificar auxStr data = some uAddr) :
      NombrePasado uAddr

/-- `u_addr[0]`, the final zero of an empty name. -/
def uAddrPrimero (uAddr : List UChar) : UChar := uAddr.headD 0

/-- `u_addr[strlen(u_addr)-1]`; `antes` is the byte in front of the name. -/
def uAddrUltimo (antes : UChar) (uAddr : List UChar) : UChar := uAddr.getLastD antes

lemma head?_eq_uAddrPrimero {uAddr : List UChar} (h : uAddr ≠ []) :
    uAddr.head? = some (uAddrPrimero uAddr) := by
  rw [uAddrPrimero, List.headD_eq_head?_getD, List.head?_eq_some_head h]
  rfl

lemma getLast?_eq_uAddrUltimo (antes : UChar) {uAddr : List UChar} (h : uAddr ≠ []) :
    uAddr.getLast? = some (uAddrUltimo antes uAddr) := by
  rw [uAddrUltimo, List.getLastD_eq_getLast?, List.getLast?_eq_some_getLast h]
  rfl

/-- What the round `i` divides by. -/
def divisor (antes : UChar) (uAddr : List UChar) (i : ℕ) : UChar :=
  if i = 0 then uAddrUltimo antes uAddr else uAddrPrimero uAddr

/-- The branch number of the round `i`, before it is shifted. -/
def numeroDeRama (antes : UChar) (uAddr : List UChar) (i : ℕ) : Word :=
  branch i (uAddrPrimero uAddr) (uAddrUltimo antes uAddr)

/-- The first `branch_bits` host bits of an address, as a number. -/
def ramaPuesta (addr : In6Addr) : ℕ := (htons (addr.word 4)).toNat / 2 ^ (16 - branchBits)

/-- The arithmetic of the round `i` is defined and in range, and the branch is installed. -/
structure RamaExacta (antes : UChar) (hcDim : ℕ) (uAddr : List UChar) (i : ℕ) : Prop where
  definida : divisor antes uAddr i ≠ 0
  cabe : (numeroDeRama antes uAddr i).toNat < 2 ^ branchBits
  puesta : ∃ addr, rvServer hcDim uAddr i = some addr ∧ ramaPuesta addr = (numeroDeRama antes uAddr i).toNat

/-- The remainder of `k` times `x` by `y` is neither negative nor 64: it is zero, or `x` is positive and the
product is not 64 more than a multiple of a greater `y`. -/
def RestoUtil (k : ℤ) (x y : UChar) : Prop :=
  y.toInt ∣ k * x.toInt ∨ 0 < x.toInt ∧ ¬ (64 < |y.toInt| ∧ y.toInt ∣ k * x.toInt - 64)

/-- No name that is passed has a zero in it. -/
lemma NombrePasado.cstr {uAddr : List UChar} (h : NombrePasado uAddr) : CStr uAddr := by
  rcases h with h | h
  · exact h
  · simp only [decodificar, Option.bind_eq_bind, Option.bind_eq_some_iff] at h
    obtain ⟨_, -, _, -, -, -, h⟩ := h
    exact .of_cstr h

/-! ## The remainders -/

/-- A remainder that is not negative, and not 64. -/
lemma tmod_util_iff {m y : ℤ} (hy : y ≠ 0) :
    (0 ≤ Int.tmod m y ∧ Int.tmod m y ≠ 64) ↔ y ∣ m ∨ 0 < m ∧ ¬ (64 < |y| ∧ y ∣ m - 64) := by
  by_cases hdvd : y ∣ m
  · rw [Int.dvd_iff_tmod_eq_zero.mp hdvd]
    simp [hdvd]
  have hne : Int.tmod m y ≠ 0 := fun h => hdvd (Int.dvd_iff_tmod_eq_zero.mpr h)
  rw [or_iff_right hdvd]
  rcases le_or_gt m 0 with hm | hm
  · -- the remainder has the sign of the dividend
    have hneg : 0 ≤ Int.tmod (-m) y := Int.tmod_nonneg y (by omega)
    rw [Int.neg_tmod] at hneg
    exact iff_of_false (fun h => by omega) (fun h => by omega)
  · have hpos : 0 ≤ Int.tmod m y := Int.tmod_nonneg y hm.le
    have hlt : Int.tmod m y < |y| := by
      rw [Int.tmod_eq_emod_of_nonneg hm.le]
      exact Int.emod_lt_abs m hy
    have hresto : y ∣ m - Int.tmod m y := Int.dvd_self_sub_tmod
    have h64 : Int.tmod m y = 64 ↔ 64 < |y| ∧ y ∣ m - 64 := by
      constructor
      · intro h
        rw [h] at hlt hresto
        exact ⟨hlt, hresto⟩
      · rintro ⟨hbig, h⟩
        have hsub : y ∣ Int.tmod m y - 64 := by
          have := dvd_sub h hresto
          rwa [sub_sub_sub_cancel_left] at this
        have hzero := Int.eq_zero_of_abs_lt_dvd ((abs_dvd _ _).mpr hsub) (abs_lt.mpr ⟨by omega, by omega⟩)
        omega
    rw [← h64]
    exact ⟨fun h => ⟨hm, h.2⟩, fun h => ⟨hpos, h.2⟩⟩

/-- **When a branch fits** into six bits. -/
lemma rama_cabe_iff {r : ℤ} (hr : -1000 < r ∧ r < 256) (k : Word) :
    (if 64 < BitVec.ofInt 16 r then BitVec.ofInt 16 r / 4
        else if BitVec.ofInt 16 r < 1 then BitVec.ofInt 16 r * k else BitVec.ofInt 16 r).toNat < 64
      ↔ 0 ≤ r ∧ r ≠ 64 := by
  have hnumero := toNat_numero (r := r) (by omega) k
  split_ifs at hnumero ⊢ <;> omega

lemma tmod_lt_of_uchar {m : ℤ} (h : -1000 < m ∧ m < 1000) {y : UChar} (hy : y.toInt ≠ 0) :
    -1000 < Int.tmod m y.toInt ∧ Int.tmod m y.toInt < 256 := by
  refine ⟨(tmod_bounds h).1, ?_⟩
  have habs : (Int.tmod m y.toInt).natAbs < y.toInt.natAbs := by
    rw [Int.natAbs_tmod]
    exact Nat.mod_lt _ (Int.natAbs_pos.mpr hy)
  have := y.toInt_lt
  have := y.le_toInt
  omega

/-- The branch of a round fits when its remainder is of use. -/
lemma branch_cabe_iff {a z : UChar} (ha : a.toInt ≠ 0) (hz : z.toInt ≠ 0) :
    ((branch 0 a z).toNat < 64 ↔ RestoUtil 5 a z) ∧ ((branch 1 a z).toNat < 64 ↔ RestoUtil 7 z a) := by
  have ha₁ := a.toInt_lt
  have ha₂ := a.le_toInt
  have hz₁ := z.toInt_lt
  have hz₂ := z.le_toInt
  have hprod (k x : ℤ) (hk : 0 < k) : 0 < k * x ↔ 0 < x := mul_pos_iff_of_pos_left hk
  constructor
  · refine (rama_cabe_iff (tmod_lt_of_uchar (by omega) hz) 7).trans ((tmod_util_iff hz).trans ?_)
    rw [hprod 5 _ (by decide)]
    rfl
  · refine (rama_cabe_iff (tmod_lt_of_uchar (by omega) ha) 9).trans ((tmod_util_iff ha).trans ?_)
    rw [hprod 7 _ (by decide)]
    rfl

/-! ## The bits -/

/-- The branch that a server has is the last six bits of its number. -/
lemma ramaPuesta_rvServer {hcDim : ℕ} {uAddr : List UChar} {i : ℕ} {addr : In6Addr} {a z : UChar}
    (ha : uAddr.head? = some a) (hz : uAddr.getLast? = some z) (h : rvServer hcDim uAddr i = some addr) :
    ramaPuesta addr = (branch i a z).toNat % 64 := by
  have hbits : 16 - branchBits = 10 := by decide
  rw [ramaPuesta, hbits]
  refine Nat.eq_of_testBit_eq fun j => ?_
  rw [Nat.testBit_div_two_pow, show 64 = 2 ^ 6 from rfl, Nat.testBit_mod_two_pow]
  by_cases hj : j < 6
  · have hbit := hostBit_rvServer ha hz h (p := 5 - j) (by omega)
    rw [show 5 - (5 - j) = j by omega, In6Addr.hostBit, In6Addr.bit, show (64 + (5 - j)) / 16 = 4 by omega,
      show (64 + (5 - j)) % 16 = 5 - j by omega, BitVec.getMsbD, decide_eq_true (by omega), Bool.true_and,
      show 16 - 1 - (5 - j) = j + 10 by omega] at hbit
    rw [decide_eq_true hj, Bool.true_and]
    exact hbit
  · rw [decide_eq_false hj, Bool.false_and]
    exact Nat.testBit_lt_two_pow ((htons (addr.word 4)).isLt.trans_le (Nat.pow_le_pow_right (by decide) (by omega)))

/-! ## Every name -/

/-- **Defined and in range** in both rounds: for a name that is not empty, with two remainders of use. -/
theorem ramas_exactas_iff (antes : UChar) (hcDim : ℕ) {uAddr : List UChar} (h : NombrePasado uAddr) :
    (∀ i < nserverRv, RamaExacta antes hcDim uAddr i) ↔
      uAddr ≠ [] ∧ RestoUtil 5 (uAddrPrimero uAddr) (uAddrUltimo antes uAddr)
        ∧ RestoUtil 7 (uAddrUltimo antes uAddr) (uAddrPrimero uAddr) := by
  by_cases hnil : uAddr = []
  · -- the second round divides by the final zero
    subst hnil
    exact iff_of_false (fun hall => (hall 1 (by decide)).definida rfl) fun hc => hc.1 rfl
  have ha := head?_eq_uAddrPrimero hnil
  have hz := getLast?_eq_uAddrUltimo antes hnil
  have ha₀ : uAddrPrimero uAddr ≠ 0 := h.cstr _ (List.mem_of_head? ha)
  have hz₀ : uAddrUltimo antes uAddr ≠ 0 := h.cstr _ (List.mem_of_getLast? hz)
  have hint {c : UChar} (hc : c ≠ 0) : c.toInt ≠ 0 := fun hzero => hc (BitVec.eq_of_toInt_eq hzero)
  have hround (i : ℕ) (hdiv : divisor antes uAddr i ≠ 0) :
      RamaExacta antes hcDim uAddr i ↔ (numeroDeRama antes uAddr i).toNat < 64 := by
    refine ⟨fun hr => hr.cabe, fun hlt => ⟨hdiv, hlt, ?_⟩⟩
    obtain ⟨addr, haddr⟩ := exists_rvServer hcDim hnil i
    exact ⟨addr, haddr, (ramaPuesta_rvServer ha hz haddr).trans (Nat.mod_eq_of_lt hlt)⟩
  obtain ⟨h0, h1⟩ := branch_cabe_iff (hint ha₀) (hint hz₀)
  have hdos : (∀ i < nserverRv, RamaExacta antes hcDim uAddr i)
      ↔ RamaExacta antes hcDim uAddr 0 ∧ RamaExacta antes hcDim uAddr 1 := by
    refine ⟨fun hall => ⟨hall 0 (by decide), hall 1 (by decide)⟩, fun hboth i hi => ?_⟩
    rw [nserverRv] at hi
    interval_cases i
    · exact hboth.1
    · exact hboth.2
  rw [hdos, hround 0 hz₀, hround 1 ha₀, numeroDeRama, numeroDeRama, h0, h1]
  exact ⟨fun hc => ⟨hnil, hc⟩, fun hc => hc.2⟩

/-- The name `a`. -/
theorem ramas_exactas_a : NombrePasado [97] ∧ ((∀ i < nserverRv, RamaExacta 0 16 [97] i) ↔
    ([97] : List UChar) ≠ [] ∧ RestoUtil 5 (uAddrPrimero [97]) (uAddrUltimo 0 [97])
      ∧ RestoUtil 7 (uAddrUltimo 0 [97]) (uAddrPrimero [97])) := by
  have h : NombrePasado [97] := .argv (by simp [CStr])
  exact ⟨h, ramas_exactas_iff 0 16 h⟩

/-- The name `hr`: five times 104 leaves 64 by 114, one more than a branch has room for. -/
theorem branch_of_hr_does_not_fit : ¬ ∀ (antes : UChar) (hcDim : ℕ) (uAddr : List UChar), NombrePasado uAddr →
    ∀ i < nserverRv, RamaExacta antes hcDim uAddr i := by
  intro h
  have hcabe := (h 0 16 [104, 114] (.argv (by simp [CStr])) 0 (by decide)).cabe
  exact absurd hcabe (by decide)

end Antop
