import Antop.Hypercube
import Antop.Rendezvous

/-!
# The addresses of the servers

`hash_2_hc` takes the host bits of an address from the hash of a name, and `distribute_in_hc` puts the
branches of the two servers over the first of them.

* `hc_eq`, `hostBit_hash2Hc` — the hash as a number, and the bits of the address.
* **`hash_dentro_iff`** — when the address is inside the hypercube.
* `hostBit_rvServer` — the branch of a server.
* **`ramas_distintas_iff`** — when the servers are in different branches.
-/

namespace Antop

open CString

/-! ## The hash -/

/-- The characters of a name, which are signed, as digits to the base 31. -/
def valorNombre : List UChar → ℤ
  | [] => 0
  | c :: cs => c.toInt * 31 ^ cs.length + valorNombre cs

/-- The number of which `hc[n]` has the last 64 bits. -/
def valorHash (uAddr : List UChar) (n : ℕ) : ℤ :=
  31 ^ n * valorNombre uAddr + 17 * ∑ k ∈ Finset.range n, 31 ^ (k + 1)

lemma foldl_hc0 (uAddr : List UChar) (z : ℤ) :
    uAddr.foldl (fun h c => h * 31 + c.signExtend 64) (BitVec.ofInt 64 z)
      = BitVec.ofInt 64 (z * 31 ^ uAddr.length + valorNombre uAddr) := by
  induction uAddr generalizing z with
  | nil => simp [valorNombre]
  | cons c cs ih =>
      have hstep : BitVec.ofInt 64 z * 31 + c.signExtend 64 = BitVec.ofInt 64 (z * 31 + c.toInt) := by
        rw [BitVec.ofInt_add, BitVec.ofInt_mul]
        rfl
      rw [List.foldl_cons, hstep, ih, valorNombre, List.length_cons]
      congr 1
      ring

lemma hc_eq (uAddr : List UChar) (n : ℕ) : hc uAddr n = BitVec.ofInt 64 (valorHash uAddr n) := by
  induction n with
  | zero =>
      have h := foldl_hc0 uAddr 0
      rw [Int.zero_mul, Int.zero_add] at h
      rw [hc, hc0, valorHash]
      simpa using h
  | succ n ih =>
      have hstep : (BitVec.ofInt 64 (valorHash uAddr n) + 17) * 31
          = BitVec.ofInt 64 ((valorHash uAddr n + 17) * 31) := by
        rw [BitVec.ofInt_mul, BitVec.ofInt_add]
        rfl
      have hsum : ∑ k ∈ Finset.range (n + 1), (31 : ℤ) ^ (k + 1)
          = 31 * ∑ k ∈ Finset.range n, 31 ^ (k + 1) + 31 := by
        rw [Finset.sum_range_succ', Finset.mul_sum]
        exact congrArg₂ (· + ·) (Finset.sum_congr rfl fun k _ => pow_succ' (31 : ℤ) (k + 1)) (pow_one 31)
      rw [hc, ih, hstep]
      congr 1
      rw [valorHash, valorHash, hsum]
      ring

lemma toNat_hcWord (uAddr : List UChar) (i : ℕ) :
    ((hcWord uAddr i).toNat : ℤ) = valorHash uAddr (2 * i) % 65536 := by
  rw [hcWord, hc_eq, BitVec.toNat_setWidth, BitVec.toNat_ofInt]
  omega

/-! ## The words -/

/-- The first loop. -/
lemma word_foldl_setWord (f : ℕ → Word) (addr : In6Addr) {n i : ℕ} (hn : n ≤ 4) (hi : i < 4) :
    ((List.range n).foldl (fun addr i => addr.setWord (4 + i) (f i)) addr).word (4 + i)
      = if i < n then f i else addr.word (4 + i) := by
  induction n with
  | zero => simp
  | succ n ih =>
      rw [List.range_succ, List.foldl_append, List.foldl_cons, List.foldl_nil]
      by_cases hin : i = n
      · rw [hin, In6Addr.word_setWord_self _ (by omega), if_pos (Nat.lt_succ_self n)]
      · rw [In6Addr.word_setWord_ne _ (by omega), ih (by omega)]
        congr 1
        rw [eq_iff_iff]
        omega

/-- The second loop leaves the other words. -/
lemma word_foldl_add_ne (x : Word) (addr : In6Addr) (r : ℕ) {k i : ℕ} (hik : i ≠ k) :
    ((List.range r).foldl (fun addr j => addr.setWord k (addr.word k + (htons (pow2 j) &&& x))) addr).word i
      = addr.word i := by
  induction r with
  | zero => rfl
  | succ r ih =>
      rw [List.range_succ, List.foldl_append, List.foldl_cons, List.foldl_nil,
        In6Addr.word_setWord_ne _ hik, ih]

/-- The second loop takes the last `r` bits of a word that is zero before. -/
lemma word_foldl_add (x : Word) {addr : In6Addr} {k : ℕ} (hk : k < 8) (h0 : addr.word k = 0) {r : ℕ}
    (hr : r ≤ 16) (q : ℕ) :
    (htons (((List.range r).foldl (fun addr j =>
        addr.setWord k (addr.word k + (htons (pow2 j) &&& x))) addr).word k)).getMsbD q
      = (decide (15 < q + r) && (htons x).getMsbD q) := by
  induction r generalizing q with
  | zero =>
      have hzero : (htons (addr.word k)).getMsbD q = false := by rw [h0]; simp
      rw [List.range_zero, List.foldl_nil, hzero, eq_comm, Bool.and_eq_false_iff]
      by_cases hq : 15 < q
      · exact Or.inr (BitVec.getMsbD_of_ge _ _ hq)
      · exact Or.inl (decide_eq_false hq)
  | succ r ih =>
      rw [List.range_succ, List.foldl_append, List.foldl_cons, List.foldl_nil, In6Addr.word_setWord_self _ hk]
      generalize hw : ((List.range r).foldl (fun addr j =>
        addr.setWord k (addr.word k + (htons (pow2 j) &&& x))) addr).word k = w at ih
      -- the bit that is added is not among the ones before
      have hdisj : w &&& (htons (pow2 r) &&& x) = 0 := by
        refine htons_injective (BitVec.eq_of_getMsbD_eq fun p _ => ?_)
        rw [htons_and, htons_and, htons_htons, BitVec.getMsbD_and, BitVec.getMsbD_and, ih (by omega),
          getMsbD_pow2 (by omega)]
        by_cases hp : p + r = 15
        · simp [hp]
        · simp [hp]
      rw [BitVec.add_eq_or_of_and_eq_zero _ _ hdisj, htons_or, htons_and, htons_htons, BitVec.getMsbD_or,
        BitVec.getMsbD_and, ih (by omega), getMsbD_pow2 (by omega), ← Bool.and_or_distrib_right]
      congr 1
      rw [Bool.eq_iff_iff]
      simp only [Bool.or_eq_true, decide_eq_true_eq]
      omega

/-- The bits of the address: whole words, and the last bits of the word behind them. -/
lemma hostBit_hash2Hc {hcDim : ℕ} (hdim : hcDim ≤ 64) (uAddr : List UChar) {p : ℕ} (hp : p < 64) :
    (hash2Hc hcDim uAddr).hostBit p
      = (decide (p / 16 < hcDim / 16 ∨ p / 16 = hcDim / 16 ∧ 15 < p % 16 + hcDim % 16)
        && (htons (hcWord uAddr (p / 16))).getMsbD (p % 16)) := by
  have hword : (64 + p) / 16 = 4 + p / 16 := by omega
  have hbit : (64 + p) % 16 = p % 16 := by omega
  have hcero : ∀ i < 4, ((In6Addr.zero.setWord 0 0x0120).setWord 1 0xb80d).word (4 + i) = 0 := by decide
  rw [In6Addr.hostBit, In6Addr.bit, hword, hbit, hash2Hc]
  by_cases heq : p / 16 = hcDim / 16
  · have h0 : ((List.range (hcDim / 16)).foldl (fun addr i => addr.setWord (4 + i) (hcWord uAddr i))
        ((In6Addr.zero.setWord 0 0x0120).setWord 1 0xb80d)).word (4 + hcDim / 16) = 0 := by
      rw [word_foldl_setWord _ _ (by omega) (by omega), if_neg (Nat.lt_irrefl _)]
      exact hcero _ (by omega)
    rw [heq, word_foldl_add _ (by omega) h0 (by omega)]
    simp
  · rw [word_foldl_add_ne _ _ _ (by omega), word_foldl_setWord _ _ (by omega) (by omega)]
    split_ifs with hlt
    · simp [hlt]
    · rw [hcero _ (by omega)]
      simp [hlt, heq]

/-! ## Inside the hypercube -/

/-- The host bits of an address are among the first `hcDim`, which are those `send_pap` assigns. -/
def DentroDelHipercubo (hcDim : ℕ) (addr : In6Addr) : Prop := ∀ p, addr.hostBit p = true → p < hcDim

/-- The last bits of a word come from the upper byte of what stands in memory. -/
lemma getMsbD_htons_last (w : Word) {j : ℕ} (hj : j < 8) : (htons w).getMsbD (15 - j) = w.toNat.testBit (8 + j) := by
  rw [getMsbD_htons, if_neg (by omega), if_pos (by omega), BitVec.getMsbD, decide_eq_true (by omega),
    Bool.true_and, BitVec.testBit_toNat]
  congr 1
  omega

/-- Bits of a number that are zero. -/
lemma forall_testBit_iff (n k : ℕ) : (∀ j < k, n.testBit (8 + j) = false) ↔ 2 ^ k ∣ n / 256 := by
  have hbit (j : ℕ) : (n / 256).testBit j = n.testBit (8 + j) := by
    rw [Nat.add_comm]
    exact Nat.testBit_div_two_pow (n := 8) n j
  simp only [← hbit]
  rw [Nat.dvd_iff_mod_eq_zero]
  constructor
  · intro h
    refine Nat.eq_of_testBit_eq fun j => ?_
    rw [Nat.testBit_mod_two_pow, Nat.zero_testBit]
    by_cases hj : j < k
    · rw [h j hj, Bool.and_false]
    · rw [decide_eq_false hj, Bool.false_and]
  · intro h j hj
    have hmod := Nat.testBit_mod_two_pow (n / 256) k j
    rwa [h, Nat.zero_testBit, decide_eq_true hj, Bool.true_and, eq_comm] at hmod

/-- Of a number only the last 16 bits are looked at. -/
lemma dvd_div_iff {v : ℤ} {n k : ℕ} (hk : k ≤ 8) (h : (n : ℤ) = v % 65536) :
    (2 : ℤ) ^ k ∣ v / 256 ↔ 2 ^ k ∣ n / 256 := by
  have hdiv : v / 256 = 256 * (v / 65536) + ((n / 256 : ℕ) : ℤ) := by omega
  have h256 : (2 : ℤ) ^ k ∣ 256 * (v / 65536) := Dvd.dvd.mul_right (pow_dvd_pow 2 hk) _
  rw [hdiv, dvd_add_right h256]
  exact_mod_cast Iff.rfl

/-- **Inside the hypercube.**  With `r` bits in the last word, its last ones are taken instead of its first
ones: they are inside when those that are not among the first `r` are zero, in the upper byte of a number
that depends on the name. -/
theorem hash_dentro_iff {hcDim : ℕ} (hdim : hcDim ≤ 64) (uAddr : List UChar) :
    DentroDelHipercubo hcDim (hash2Hc hcDim uAddr)
      ↔ (2 : ℤ) ^ min (hcDim % 16) (16 - hcDim % 16) ∣ valorHash uAddr (2 * (hcDim / 16)) / 256 := by
  rw [dvd_div_iff (by omega) (toNat_hcWord uAddr (hcDim / 16)), ← forall_testBit_iff]
  constructor
  · intro h j hj
    have hdiv : (16 * (hcDim / 16) + (15 - j)) / 16 = hcDim / 16 := by omega
    have hmod : (16 * (hcDim / 16) + (15 - j)) % 16 = 15 - j := by omega
    have hbit := hostBit_hash2Hc hdim uAddr (p := 16 * (hcDim / 16) + (15 - j)) (by omega)
    rw [hdiv, hmod, decide_eq_true (Or.inr ⟨rfl, by omega⟩), Bool.true_and,
      getMsbD_htons_last _ (by omega)] at hbit
    rw [← hbit, Bool.eq_false_iff]
    intro htrue
    have hlt := h _ htrue
    omega
  · intro h p hp
    by_contra hge
    have hp64 : p < 64 := by
      by_contra hno
      rw [In6Addr.hostBit_of_ge _ (Nat.le_of_not_lt hno)] at hp
      exact Bool.false_ne_true hp
    rw [hostBit_hash2Hc hdim uAddr hp64, Bool.and_eq_true, decide_eq_true_eq] at hp
    obtain ⟨hwhere, hbit⟩ := hp
    obtain ⟨hw, hq⟩ : p / 16 = hcDim / 16 ∧ 15 < p % 16 + hcDim % 16 := hwhere.resolve_left (by omega)
    have hj : p % 16 = 15 - (15 - p % 16) := by omega
    rw [hw, hj, getMsbD_htons_last _ (by omega), h _ (by omega)] at hbit
    exact Bool.false_ne_true hbit

/-- The name `ab` in five dimensions. -/
theorem hash_outside_hypercube : ¬ ∀ (hcDim : ℕ) (uAddr : List UChar), CStr uAddr → 1 ≤ hcDim → hcDim ≤ 64 →
    DentroDelHipercubo hcDim (hash2Hc hcDim uAddr) := by
  intro h
  have hlt := h 5 [97, 98] (by simp [CStr]) (by decide) (by decide) 13 (by decide)
  exact absurd hlt (by decide)

/-- The name `a` is inside. -/
theorem hash_dentro_de_a : 5 ≤ 64 ∧ DentroDelHipercubo 5 (hash2Hc 5 [97]) :=
  ⟨by decide, (hash_dentro_iff (by decide) [97]).mpr (by decide)⟩

/-! ## The branches -/

/-- The branch of an address, its first `branch_bits` host bits, is another one. -/
def OtraRama (a b : In6Addr) : Prop := ∃ p < branchBits, a.hostBit p ≠ b.hostBit p

/-- The branch that comes from a remainder: what is negative or above 64 is divided by 4. -/
def ramaDe (r : ℤ) : ℤ := (if 0 ≤ r ∧ r ≤ 64 then r else r / 4) % 64

/-- The branch number of a remainder, in 16 unsigned bits. -/
lemma toNat_numero {r : ℤ} (hr : -1000 < r ∧ r < 1000) (k : Word) :
    ((if 64 < BitVec.ofInt 16 r then BitVec.ofInt 16 r / 4
        else if BitVec.ofInt 16 r < 1 then BitVec.ofInt 16 r * k else BitVec.ofInt 16 r).toNat : ℤ)
      = if 0 ≤ r ∧ r ≤ 64 then r else r % 65536 / 4 := by
  have hm : ((BitVec.ofInt 16 r).toNat : ℤ) = r % 65536 := by
    rw [BitVec.toNat_ofInt]
    omega
  generalize BitVec.ofInt 16 r = m at hm ⊢
  by_cases hbig : 64 < m
  · have hlt : 64 < m.toNat := hbig
    rw [if_pos hbig, BitVec.toNat_udiv, if_neg (by omega)]
    change ((m.toNat / 4 : ℕ) : ℤ) = r % 65536 / 4
    omega
  · have hle : ¬ 64 < m.toNat := hbig
    have hdentro : 0 ≤ r ∧ r ≤ 64 := by omega
    rw [if_neg hbig, if_pos hdentro]
    by_cases hzero : m < 1
    · have h0 : m.toNat = 0 := Nat.lt_one_iff.mp hzero
      rw [if_pos hzero, BitVec.toNat_mul, h0, Nat.zero_mul]
      omega
    · rw [if_neg hzero]
      omega

lemma toNat_rama {r : ℤ} (hr : -1000 < r ∧ r < 1000) (k : Word) :
    (((if 64 < BitVec.ofInt 16 r then BitVec.ofInt 16 r / 4
        else if BitVec.ofInt 16 r < 1 then BitVec.ofInt 16 r * k else BitVec.ofInt 16 r).toNat % 64 : ℕ) : ℤ)
      = ramaDe r := by
  rw [Int.natCast_mod, toNat_numero hr k, ramaDe]
  split_ifs
  · rfl
  · omega

/-- The first bits of a server are the last ones of its branch. -/
lemma hostBit_rvServer {hcDim : ℕ} {uAddr : List UChar} {i : ℕ} {addr : In6Addr} {a z : UChar}
    (ha : uAddr.head? = some a) (hz : uAddr.getLast? = some z) (h : rvServer hcDim uAddr i = some addr) {p : ℕ}
    (hp : p < 6) : addr.hostBit p = (branch i a z).getLsbD (5 - p) := by
  have hbits : 16 - branchBits = 10 := by decide
  have hmask : ~~~(((List.range branchBits).map fun j => pow2 j).sum <<< 10) = 0x03ff#16 := by decide
  have hword : (64 + p) / 16 = 4 := by omega
  have hbit : (64 + p) % 16 = p := by omega
  have hfuera : (0x03ff#16).getMsbD p = false := by
    interval_cases p <;> decide
  rw [rvServer, ha, hz] at h
  simp only [hbits, hmask, Option.some.injEq] at h
  rw [← h, In6Addr.hostBit, In6Addr.bit, hword, hbit, In6Addr.word_setWord_self _ (by omega),
    In6Addr.word_setWord_self _ (by omega)]
  simp only [htons_or, htons_htons, htons_and, BitVec.getMsbD_or, BitVec.getMsbD_and, hfuera, Bool.and_false,
    Bool.false_or]
  rw [BitVec.getMsbD_shiftLeft, BitVec.getMsbD, decide_eq_true (by omega), Bool.true_and]
  congr 1
  omega

/-- Branches differ when their last six bits do. -/
lemma otraRama_iff {a b : In6Addr} {x y : Word} (ha : ∀ p < 6, a.hostBit p = x.getLsbD (5 - p))
    (hb : ∀ p < 6, b.hostBit p = y.getLsbD (5 - p)) : OtraRama a b ↔ x.toNat % 64 ≠ y.toNat % 64 := by
  have hbits : branchBits = 6 := by decide
  have hbit (w : Word) (j : ℕ) : (w.toNat % 64).testBit j = (decide (j < 6) && w.getLsbD j) :=
    Nat.testBit_mod_two_pow w.toNat 6 j
  rw [OtraRama, hbits]
  constructor
  · rintro ⟨p, hp, hne⟩ heq
    have hj := congrArg (fun n => n.testBit (5 - p)) heq
    simp only [hbit, decide_eq_true (by omega : 5 - p < 6), Bool.true_and] at hj
    exact hne (by rw [ha p hp, hb p hp, hj])
  · intro hne
    by_contra hno
    push Not at hno
    refine hne (Nat.eq_of_testBit_eq fun j => ?_)
    rw [hbit, hbit]
    by_cases hj : j < 6
    · have hp := hno (5 - j) (by omega)
      rw [ha _ (by omega), hb _ (by omega), show 5 - (5 - j) = j by omega] at hp
      rw [hp]
    · rw [decide_eq_false hj, Bool.false_and, Bool.false_and]

/-- A name with its first character. -/
structure NombreRv where
  primero : UChar
  resto : List UChar
  cstr : CStr (primero :: resto)

namespace NombreRv

def bytes (nombre : NombreRv) : List UChar := nombre.primero :: nombre.resto

def ultimo (nombre : NombreRv) : UChar := nombre.bytes.getLast (List.cons_ne_nil _ _)

end NombreRv

lemma tmod_bounds {m n : ℤ} (h : -1000 < m ∧ m < 1000) : -1000 < Int.tmod m n ∧ Int.tmod m n < 1000 := by
  have habs : (Int.tmod m n).natAbs ≤ m.natAbs := by
    rw [Int.natAbs_tmod]
    exact Nat.mod_le _ _
  omega

lemma toNat_branch (a z : UChar) : ((branch 0 a z).toNat % 64 : ℕ) = ramaDe (Int.tmod (5 * a.toInt) z.toInt)
    ∧ ((branch 1 a z).toNat % 64 : ℕ) = ramaDe (Int.tmod (7 * z.toInt) a.toInt) := by
  have ha := a.toInt_lt
  have ha' := a.le_toInt
  have hz := z.toInt_lt
  have hz' := z.le_toInt
  exact ⟨toNat_rama (tmod_bounds (by omega)) 7, toNat_rama (tmod_bounds (by omega)) 9⟩

/-- The list is that of the two rounds. -/
lemma distributeInHc_dos {hcDim : ℕ} {uAddr : List UChar} {s0 s1 : In6Addr}
    (h0 : rvServer hcDim uAddr 0 = some s0) (h1 : rvServer hcDim uAddr 1 = some s1)
    (rvServers : List In6Addr) : distributeInHc hcDim nserverRv uAddr rvServers = some [s0, s1] := by
  rw [distributeInHc_eq, distributeInHc, if_pos rfl, nserverRv]
  simp only [distribuirDesde, h0, h1, Nat.zero_add]
  rfl

/-- The two servers, and when their branches are different. -/
lemma exists_servers (hcDim : ℕ) (nombre : NombreRv) (rvServers : List In6Addr) :
    ∃ s0 s1, distributeInHc hcDim nserverRv nombre.bytes rvServers = some [s0, s1]
      ∧ (OtraRama s0 s1 ↔ ramaDe (Int.tmod (5 * nombre.primero.toInt) nombre.ultimo.toInt)
        ≠ ramaDe (Int.tmod (7 * nombre.ultimo.toInt) nombre.primero.toInt)) := by
  have ha : nombre.bytes.head? = some nombre.primero := rfl
  have hz : nombre.bytes.getLast? = some nombre.ultimo := List.getLast?_eq_some_getLast _
  have hne : nombre.bytes ≠ [] := List.cons_ne_nil _ _
  obtain ⟨s0, h0⟩ := exists_rvServer hcDim hne 0
  obtain ⟨s1, h1⟩ := exists_rvServer hcDim hne 1
  obtain ⟨hr0, hr1⟩ := toNat_branch nombre.primero nombre.ultimo
  refine ⟨s0, s1, distributeInHc_dos h0 h1 rvServers, ?_⟩
  rw [← hr0, ← hr1, ne_eq, Nat.cast_inj]
  exact otraRama_iff (fun _ => hostBit_rvServer ha hz h0) fun _ => hostBit_rvServer ha hz h1

/-- **Different branches.**  Where the hash goes makes no difference: the branches come from the remainders of
the first and the last character, taken one by the other. -/
theorem ramas_distintas_iff (hcDim : ℕ) (nombre : NombreRv) (rvServers : List In6Addr) :
    (∃ l, distributeInHc hcDim nserverRv nombre.bytes rvServers = some l ∧ l.Pairwise OtraRama)
      ↔ ramaDe (Int.tmod (5 * nombre.primero.toInt) nombre.ultimo.toInt)
        ≠ ramaDe (Int.tmod (7 * nombre.ultimo.toInt) nombre.primero.toInt) := by
  obtain ⟨s0, s1, hlista, hiff⟩ := exists_servers hcDim nombre rvServers
  have hpar : [s0, s1].Pairwise OtraRama ↔ OtraRama s0 s1 := by simp
  rw [hlista, ← hiff]
  constructor
  · rintro ⟨l, hl, hrama⟩
    rw [← Option.some.inj hl] at hrama
    exact hpar.mp hrama
  · intro h
    exact ⟨[s0, s1], rfl, hpar.mpr h⟩

/-- A name that ends as it begins has both servers in one branch. -/
theorem one_branch_for_equal_ends : ¬ ∀ (hcDim : ℕ) (nombre : NombreRv) (rvServers : List In6Addr),
    ∃ l, distributeInHc hcDim nserverRv nombre.bytes rvServers = some l ∧ l.Pairwise OtraRama := by
  intro h
  obtain ⟨s0, s1, hlista, hiff⟩ := exists_servers 16 ⟨97, [], by simp [CStr]⟩ []
  obtain ⟨l, hl, hrama⟩ := h 16 ⟨97, [], by simp [CStr]⟩ []
  rw [hlista, Option.some.injEq] at hl
  rw [← hl] at hrama
  exact absurd (hiff.mp (by simpa using hrama)) (by decide)

end Antop
