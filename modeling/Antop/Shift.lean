import Antop.Hypercube

/-!
# Shifting addresses

`shift_unos` moves all the bits of an address; `shift` moves only the bits of the hypercube, those
where the root has a zero, and puts the root's own bits back; `shift_mezcla` puts a shifted address
under another node's.  All three swap the bytes of each word, shift by one position as often as
asked, with a carry from word to word, and swap back.

The bit lemmas are what later modules use: `bit_shiftUnos_right`, `bit_shift_left`,
`bit_shift_right` for every dimension, and `hostBit_shift`, `hostBit_shiftMezcla_zero`,
`hostBit_shiftMezcla_pos` for a hypercube of dimension 64.
-/

namespace Antop

/-! ## The loops -/

/-- The loop that exchanges the two bytes of each word. -/
def swapBytes (a : In6Addr) : In6Addr :=
  ⟨fun i => ((a.s6Addr16 i &&& 0xff00#16) >>> 8) + ((a.s6Addr16 i &&& 0x00ff#16) <<< 8)⟩

/-- One round to the left.  The words are visited from 7 to 0; `carry1` is the top bit that word
`i + 1` had before its own shift. -/
def shiftLeftOnce (r : In6Addr) : In6Addr :=
  ⟨fun i =>
    let carry1 := i.val + 1 < 8 ∧ r.word (i.val + 1) &&& 0x8000#16 ≠ 0
    if carry1 then (r.s6Addr16 i <<< 1) ||| 0x0001#16 else r.s6Addr16 i <<< 1⟩

/-- One round to the right.  The words are visited from 0 to 7; `carry1` is the low bit that word
`i - 1` had before its own shift. -/
def shiftRightOnce (r : In6Addr) : In6Addr :=
  ⟨fun i =>
    let carry1 := 0 < i.val ∧ r.word (i.val - 1) &&& 0x0001#16 ≠ 0
    if carry1 then (r.s6Addr16 i >>> 1) ||| 0x8000#16 else r.s6Addr16 i >>> 1⟩

/-- The two loops over `cantidad`: to the left when `izq_der` is 1, to the right when it is 0. -/
def shiftRounds (izqDer : ℕ) (cantidad : ℤ) (r : In6Addr) : In6Addr :=
  if izqDer = 1 then shiftLeftOnce^[cantidad.toNat] r
  else if izqDer = 0 then shiftRightOnce^[cantidad.toNat] r
  else r

/-- `shift_unos`. -/
def shiftUnos (izqDer : ℕ) (cantidad : ℤ) (addr : In6Addr) : In6Addr :=
  swapBytes (shiftRounds izqDer cantidad (swapBytes addr))

/-- `for(i=0;i<((128-hc_dim)/16);i++) result->s6_addr16[i]=0x0000`. -/
def clearPrefix (hcDim : ℕ) (r : In6Addr) : In6Addr :=
  ⟨fun i => if i.val < (128 - hcDim) / 16 then 0 else r.s6Addr16 i⟩

/-- `shift`: the bits of `addr` where the root has zeros are shifted, and the root's are put back.
`hc_dim` is the dimension of the node that shifts. -/
def shift (hcDim : ℕ) (izqDer : ℕ) (cantidad : ℤ) (rootAddr addr : In6Addr) : In6Addr :=
  let result : In6Addr := clearPrefix hcDim ⟨fun i => ~~~(rootAddr.s6Addr16 i ||| 0)⟩
  let result : In6Addr := ⟨fun i => result.s6Addr16 i &&& addr.s6Addr16 i⟩
  let result := swapBytes (shiftRounds izqDer cantidad (swapBytes result))
  (clearPrefix hcDim result).or rootAddr

/-- `shift_mezcla`: the address a node gets under `src`, whose mask is `srcMask`.  With `mf = 0` a
new bit is inserted at position `srcMask`; otherwise the `mf - 1` leading bits are dropped and the
bit at `mf - 1` takes that position. -/
def shiftMezcla (hcDim : ℕ) (src addr : In6Addr) (srcMask mf : ℤ) : In6Addr :=
  if 0 ≤ mf - 1 then
    let aux := shift hcDim 1 (mf - 1) root addr
    let aux := shift hcDim 0 srcMask root aux
    aux.or src
  else
    let uno := In6Addr.ofWords 0x0080 0 0 0 0 0 0 0
    let uno := shiftUnos 0 ((128 - hcDim) + srcMask) uno
    let aux := shift hcDim 0 (srcMask + 1) root addr
    (aux.or uno).or src

/-! ## Bits of the intermediate words

Between the two swaps the words are in the order of the bits, so the position of a bit is read
without `htons`.
-/

/-- Bit `p` of words whose bytes have been swapped. -/
def rawBit (r : In6Addr) (p : ℕ) : Bool := (r.word (p / 16)).getMsbD (p % 16)

lemma rawBit_of_ge (r : In6Addr) {p : ℕ} (h : 128 ≤ p) : rawBit r p = false := by
  have hw : ¬ p / 16 < 8 := by omega
  simp [rawBit, In6Addr.word, hw]

lemma swapBytes_word (w : Word) : ((w &&& 0xff00#16) >>> 8) + ((w &&& 0x00ff#16) <<< 8) = htons w := by
  rw [BitVec.add_eq_or_of_and_eq_zero]
  · refine BitVec.eq_of_getMsbD_eq fun j hj => ?_
    have hhigh : ∀ k : Fin 16, (0xff00#16).getMsbD k.val = decide (k.val < 8) := by decide
    have hlow : ∀ k : Fin 16, (0x00ff#16).getMsbD k.val = decide (8 ≤ k.val) := by decide
    rw [getMsbD_htons, BitVec.getMsbD_or, BitVec.getMsbD_ushiftRight, BitVec.getMsbD_shiftLeft,
      BitVec.getMsbD_and, BitVec.getMsbD_and]
    split_ifs with h8
    · have hmask : (0x00ff#16).getMsbD (j + 8) = true := by
        simpa using hlow ⟨j + 8, by omega⟩
      simp [h8, hmask]
    · have hmask : (0xff00#16).getMsbD (j - 8) = true := by
        have := hhigh ⟨j - 8, by omega⟩
        rwa [decide_eq_true (show j - 8 < 8 by omega)] at this
      simp [h8, hj, hmask, BitVec.getMsbD_of_ge w (j + 8) (by omega)]
  · refine BitVec.eq_of_getMsbD_eq fun j hj => ?_
    rw [BitVec.getMsbD_and, BitVec.getMsbD_ushiftRight, BitVec.getMsbD_shiftLeft,
      BitVec.getMsbD_and, BitVec.getMsbD_and]
    by_cases h8 : j < 8
    · simp [h8]
    · simp [BitVec.getMsbD_of_ge _ _ (show 16 ≤ j + 8 by omega)]

lemma swapBytes_s6Addr16 (a : In6Addr) (i : Fin 8) :
    (swapBytes a).s6Addr16 i = htons (a.s6Addr16 i) := swapBytes_word _

lemma rawBit_swapBytes (a : In6Addr) (p : ℕ) : rawBit (swapBytes a) p = a.bit p := by
  by_cases h : p / 16 < 8 <;> simp [rawBit, In6Addr.bit, In6Addr.word, h, swapBytes_s6Addr16]

lemma bit_swapBytes (r : In6Addr) (p : ℕ) : (swapBytes r).bit p = rawBit r p := by
  by_cases h : p / 16 < 8 <;> simp [rawBit, In6Addr.bit, In6Addr.word, h, swapBytes_s6Addr16]

/-! ## One round moves every bit by one position -/

lemma lowBit_eq (w : Word) : w &&& 0x0001#16 ≠ 0 ↔ w.getMsbD 15 = true := by
  have h := and_pow2_eq_zero_iff w (j := 0) (by omega)
  rw [show pow2 0 = 0x0001#16 from by decide] at h
  rw [ne_eq, h, Bool.not_eq_false]

lemma topBit_eq (w : Word) : w &&& 0x8000#16 ≠ 0 ↔ w.getMsbD 0 = true := by
  have h := and_pow2_eq_zero_iff w (j := 15) (by omega)
  rw [show pow2 15 = 0x8000#16 from by decide] at h
  rw [ne_eq, h, Bool.not_eq_false]

lemma getMsbD_top {k : ℕ} (hk : k < 16) : (0x8000#16).getMsbD k = decide (k = 0) := by
  have : ∀ k : Fin 16, (0x8000#16).getMsbD k.val = decide (k.val = 0) := by decide
  exact this ⟨k, hk⟩

lemma getMsbD_low {k : ℕ} (hk : k < 16) : (0x0001#16).getMsbD k = decide (k = 15) := by
  have : ∀ k : Fin 16, (0x0001#16).getMsbD k.val = decide (k.val = 15) := by decide
  exact this ⟨k, hk⟩

lemma rawBit_shiftRightOnce (r : In6Addr) {p : ℕ} (hp : p < 128) :
    rawBit (shiftRightOnce r) p = (decide (0 < p) && rawBit r (p - 1)) := by
  have hw : p / 16 < 8 := by omega
  have hk : p % 16 < 16 := by omega
  have hself : (shiftRightOnce r).word (p / 16)
      = if 0 < p / 16 ∧ r.word (p / 16 - 1) &&& 0x0001#16 ≠ 0 then
          (r.word (p / 16) >>> 1) ||| 0x8000#16 else r.word (p / 16) >>> 1 := by
    rw [In6Addr.word_of_lt _ hw, In6Addr.word_of_lt r hw]
    rfl
  have hprev : 0 < p % 16 → rawBit r (p - 1) = (r.word (p / 16)).getMsbD (p % 16 - 1) := by
    intro h
    rw [rawBit, show (p - 1) / 16 = p / 16 by omega, show (p - 1) % 16 = p % 16 - 1 by omega]
  have hborrow : p % 16 = 0 → 0 < p / 16 →
      rawBit r (p - 1) = (r.word (p / 16 - 1)).getMsbD 15 := by
    intro h0 h
    rw [rawBit, show (p - 1) / 16 = p / 16 - 1 by omega, show (p - 1) % 16 = 15 by omega]
  rw [rawBit, hself]
  split_ifs with hc
  · rw [BitVec.getMsbD_or, BitVec.getMsbD_ushiftRight, getMsbD_top hk]
    by_cases h0 : p % 16 = 0
    · rw [hborrow h0 hc.1, (lowBit_eq _).mp hc.2]
      simp [h0, show 0 < p by omega]
    · rw [hprev (by omega)]
      simp [h0, hk, show ¬ p % 16 < 1 by omega, show 0 < p by omega]
  · rw [BitVec.getMsbD_ushiftRight]
    by_cases h0 : p % 16 = 0
    · by_cases hword : 0 < p / 16
      · have hlow : (r.word (p / 16 - 1)).getMsbD 15 = false := by
          by_contra h
          exact hc ⟨hword, (lowBit_eq _).mpr (by simpa using h)⟩
        rw [hborrow h0 hword, hlow]
        simp [h0]
      · simp [h0, show ¬ 0 < p by omega]
    · rw [hprev (by omega)]
      simp [hk, show ¬ p % 16 < 1 by omega, show 0 < p by omega]

lemma rawBit_shiftLeftOnce (r : In6Addr) {p : ℕ} (hp : p < 128) :
    rawBit (shiftLeftOnce r) p = rawBit r (p + 1) := by
  have hw : p / 16 < 8 := by omega
  have hk : p % 16 < 16 := by omega
  have hself : (shiftLeftOnce r).word (p / 16)
      = if p / 16 + 1 < 8 ∧ r.word (p / 16 + 1) &&& 0x8000#16 ≠ 0 then
          (r.word (p / 16) <<< 1) ||| 0x0001#16 else r.word (p / 16) <<< 1 := by
    rw [In6Addr.word_of_lt _ hw, In6Addr.word_of_lt r hw]
    rfl
  have hnext : p % 16 < 15 → rawBit r (p + 1) = (r.word (p / 16)).getMsbD (p % 16 + 1) := by
    intro h
    rw [rawBit, show (p + 1) / 16 = p / 16 by omega, show (p + 1) % 16 = p % 16 + 1 by omega]
  have hcarry : p % 16 = 15 → rawBit r (p + 1) = (r.word (p / 16 + 1)).getMsbD 0 := by
    intro h
    rw [rawBit, show (p + 1) / 16 = p / 16 + 1 by omega, show (p + 1) % 16 = 0 by omega]
  rw [rawBit, hself]
  split_ifs with hc
  · rw [BitVec.getMsbD_or, BitVec.getMsbD_shiftLeft, getMsbD_low hk]
    by_cases h15 : p % 16 = 15
    · rw [hcarry h15, (topBit_eq _).mp hc.2]
      simp [h15]
    · rw [hnext (by omega)]
      simp [h15]
  · rw [BitVec.getMsbD_shiftLeft]
    by_cases h15 : p % 16 = 15
    · rw [hcarry h15, h15, BitVec.getMsbD_of_ge _ _ (by omega)]
      by_cases hword : p / 16 + 1 < 8
      · cases htop : (r.word (p / 16 + 1)).getMsbD 0 with
        | false => rfl
        | true => exact absurd ⟨hword, (topBit_eq _).mpr htop⟩ hc
      · simp [In6Addr.word, hword]
    · rw [hnext (by omega)]

lemma rawBit_iterate_right (n : ℕ) (r : In6Addr) {p : ℕ} (hp : p < 128) :
    rawBit (shiftRightOnce^[n] r) p = (decide (n ≤ p) && rawBit r (p - n)) := by
  induction n generalizing p with
  | zero => simp
  | succ n ih =>
      rw [Function.iterate_succ_apply', rawBit_shiftRightOnce _ hp, ih (by omega)]
      by_cases h : n + 1 ≤ p
      · simp [h, show 0 < p by omega, show n ≤ p - 1 by omega, show p - 1 - n = p - (n + 1) by omega]
      · by_cases h0 : 0 < p
        · simp [h, show ¬ n ≤ p - 1 by omega]
        · simp [h, h0]

lemma rawBit_iterate_left (n : ℕ) (r : In6Addr) {p : ℕ} (hp : p < 128) :
    rawBit (shiftLeftOnce^[n] r) p = rawBit r (p + n) := by
  induction n generalizing p with
  | zero => simp
  | succ n ih =>
      rw [Function.iterate_succ_apply', rawBit_shiftLeftOnce _ hp]
      by_cases h : p + 1 < 128
      · rw [ih h, show p + 1 + n = p + (n + 1) by omega]
      · rw [rawBit_of_ge _ (by omega), rawBit_of_ge _ (by omega)]

/-! ## What the shifts do -/

theorem bit_shiftUnos_right (n : ℕ) (a : In6Addr) {p : ℕ} (hp : p < 128) :
    (shiftUnos 0 n a).bit p = (decide (n ≤ p) && a.bit (p - n)) := by
  rw [shiftUnos, bit_swapBytes, shiftRounds, if_neg (by omega), if_pos rfl, Int.toNat_natCast,
    rawBit_iterate_right n _ hp, rawBit_swapBytes]

lemma bit_clearPrefix (hcDim : ℕ) (r : In6Addr) (p : ℕ) :
    (clearPrefix hcDim r).bit p = (decide (16 * ((128 - hcDim) / 16) ≤ p) && r.bit p) := by
  by_cases hw : p / 16 < 8
  · by_cases h : p / 16 < (128 - hcDim) / 16
    · have hlt : ¬ 16 * ((128 - hcDim) / 16) ≤ p := by omega
      simp [In6Addr.bit, In6Addr.word, clearPrefix, hw, h, hlt]
    · have hle : 16 * ((128 - hcDim) / 16) ≤ p := by omega
      simp [In6Addr.bit, In6Addr.word, clearPrefix, hw, h, hle]
  · rw [In6Addr.bit_of_ge _ (by omega), In6Addr.bit_of_ge _ (by omega), Bool.and_false]

/-- The bits `shift` moves: those of the hypercube where the root has a zero. -/
def movable (hcDim : ℕ) (rootAddr addr : In6Addr) (p : ℕ) : Bool :=
  decide (16 * ((128 - hcDim) / 16) ≤ p) && !rootAddr.bit p && addr.bit p

lemma bit_movable (hcDim : ℕ) (rootAddr addr : In6Addr) (p : ℕ) :
    (In6Addr.mk fun i => (clearPrefix hcDim ⟨fun i => ~~~(rootAddr.s6Addr16 i ||| 0)⟩).s6Addr16 i
        &&& addr.s6Addr16 i).bit p
      = movable hcDim rootAddr addr p := by
  by_cases hw : p / 16 < 8
  · have hk : p % 16 < 16 := by omega
    by_cases h : p / 16 < (128 - hcDim) / 16
    · have hlt : ¬ 16 * ((128 - hcDim) / 16) ≤ p := by omega
      simp [movable, In6Addr.bit, In6Addr.word, clearPrefix, hw, h, hlt]
    · have hle : 16 * ((128 - hcDim) / 16) ≤ p := by omega
      simp [movable, In6Addr.bit, In6Addr.word, clearPrefix, hw, h, hle, hk]
  · have hp : 128 ≤ p := by omega
    simp [movable, In6Addr.bit_of_ge _ hp]

theorem bit_shift_left (hcDim n : ℕ) (rootAddr addr : In6Addr) {p : ℕ} (hp : p < 128) :
    (shift hcDim 1 n rootAddr addr).bit p
      = ((decide (16 * ((128 - hcDim) / 16) ≤ p) && movable hcDim rootAddr addr (p + n))
          || rootAddr.bit p) := by
  unfold shift
  dsimp only
  rw [In6Addr.bit_or, bit_clearPrefix, bit_swapBytes, shiftRounds, if_pos rfl, Int.toNat_natCast,
    rawBit_iterate_left n _ hp, rawBit_swapBytes, bit_movable]

theorem bit_shift_right (hcDim n : ℕ) (rootAddr addr : In6Addr) {p : ℕ} (hp : p < 128) :
    (shift hcDim 0 n rootAddr addr).bit p
      = ((decide (16 * ((128 - hcDim) / 16) ≤ p)
            && (decide (n ≤ p) && movable hcDim rootAddr addr (p - n)))
          || rootAddr.bit p) := by
  unfold shift
  dsimp only
  rw [In6Addr.bit_or, bit_clearPrefix, bit_swapBytes, shiftRounds, if_neg (by omega), if_pos rfl,
    Int.toNat_natCast, rawBit_iterate_right n _ hp, rawBit_swapBytes, bit_movable]

/-! ## Dimension 64 -/

lemma movable_host (addr : In6Addr) (p : ℕ) :
    movable 64 root addr (64 + p) = (decide (p < 63) && addr.hostBit p) := by
  have hroot : root.bit (64 + p) = decide (p = 63) := hostBit_root p
  rw [movable, hroot]
  by_cases h : p < 63
  · simp [h, show ¬ p = 63 by omega, In6Addr.hostBit]
  · by_cases h63 : p = 63
    · simp [h63]
    · rw [In6Addr.bit_of_ge _ (by omega)]
      simp [h]

lemma movable_of_lt (addr : In6Addr) {p : ℕ} (hp : p < 64) : movable 64 root addr p = false := by
  simp [movable, hp]

/-- To the left: the first `n` host bits are dropped and zeros come in before the root's bit. -/
theorem hostBit_shift_left (n : ℕ) (addr : In6Addr) {p : ℕ} (hp : p < 64) :
    (shift 64 1 n root addr).hostBit p
      = ((decide (p + n < 63) && addr.hostBit (p + n)) || decide (p = 63)) := by
  rw [In6Addr.hostBit, bit_shift_left _ _ _ _ (by omega), Nat.add_assoc, movable_host]
  have hroot : root.bit (64 + p) = decide (p = 63) := hostBit_root p
  simp [hroot]

/-- To the right: `n` zeros come in and what passes position 62 is dropped. -/
theorem hostBit_shift_right (n : ℕ) (addr : In6Addr) {p : ℕ} (hp : p < 64) :
    (shift 64 0 n root addr).hostBit p
      = ((decide (n ≤ p) && (decide (p - n < 63) && addr.hostBit (p - n))) || decide (p = 63)) := by
  have hroot : root.bit (64 + p) = decide (p = 63) := hostBit_root p
  rw [In6Addr.hostBit, bit_shift_right _ _ _ _ (by omega), hroot]
  by_cases h : n ≤ p
  · rw [show 64 + p - n = 64 + (p - n) by omega, movable_host]
    simp [h, show n ≤ 64 + p by omega]
  · by_cases h' : n ≤ 64 + p
    · rw [movable_of_lt addr (show 64 + p - n < 64 by omega)]
      simp [h]
    · simp [h, h']

/-- `uno` shifted to the host position `n`. -/
lemma hostBit_uno (n : ℕ) {p : ℕ} (hp : p < 64) :
    (shiftUnos 0 (64 + n : ℕ) (.ofWords 0x0080 0 0 0 0 0 0 0)).hostBit p = decide (p = n) := by
  rw [In6Addr.hostBit, bit_shiftUnos_right _ _ (by omega)]
  have huno : ∀ q : Fin 128,
      (In6Addr.ofWords 0x0080 0 0 0 0 0 0 0).bit q.val = decide (q.val = 0) := by decide
  by_cases h : n ≤ p
  · rw [huno ⟨64 + p - (64 + n), by omega⟩]
    simp [h, show 64 + p - (64 + n) = 0 ↔ p = n by omega]
  · simp [h, show ¬ p = n by omega]

/-- **Under a node, from the root of a network** (`mf = 0`): the bits move past a new bit at
position `s`. -/
theorem hostBit_shiftMezcla_zero (src addr : In6Addr) (s : ℕ) {p : ℕ} (hp : p < 64) :
    (shiftMezcla 64 src addr s 0).hostBit p
      = (((decide (s + 1 ≤ p) && (decide (p - (s + 1) < 63) && addr.hostBit (p - (s + 1))))
          || decide (p = 63)) || decide (p = s) || src.hostBit p) := by
  unfold shiftMezcla
  rw [if_neg (by omega)]
  dsimp only
  rw [In6Addr.hostBit_or, In6Addr.hostBit_or,
    show (128 : ℤ) - (64 : ℕ) + (s : ℤ) = ((64 + s : ℕ) : ℤ) by omega, hostBit_uno s hp,
    show (s : ℤ) + 1 = ((s + 1 : ℕ) : ℤ) by omega, hostBit_shift_right _ _ hp]

/-- **Under a node, from inside a network** (`mf ≥ 1`): the first `mf - 1` bits are dropped and the
rest starts at position `s`. -/
theorem hostBit_shiftMezcla_pos (src addr : In6Addr) (s mf : ℕ) {p : ℕ} (hp : p < 64) :
    (shiftMezcla 64 src addr s (mf + 1 : ℕ)).hostBit p
      = (((decide (s ≤ p) && (decide (p - s + mf < 63) && addr.hostBit (p - s + mf)))
          || decide (p = 63)) || src.hostBit p) := by
  unfold shiftMezcla
  rw [if_pos (by omega)]
  dsimp only
  rw [In6Addr.hostBit_or, show ((mf + 1 : ℕ) : ℤ) - 1 = (mf : ℕ) by omega,
    hostBit_shift_right _ _ hp]
  by_cases h : s ≤ p
  · by_cases h63 : p - s < 63
    · rw [hostBit_shift_left _ _ (by omega)]
      simp [h, h63, show ¬ p - s = 63 by omega]
    · simp [h, h63, show ¬ p - s + mf < 63 by omega]
  · simp [h]

end Antop
