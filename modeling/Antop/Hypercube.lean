import Antop.Address
import Antop.Library.BitCount
import Antop.Library.PrefixBlock

/-!
# The hypercube: slots, distance, address spaces, successors

The four computations on host bits that the rest of the daemon is built from.

* `slotAddr a m` — the address `send_pap` proposes at a node with address `a` and mask `m`: bit
  `m` of the host part is flipped, by `+=` or `-=` on the word it falls in.
* `dist` — the Hamming distance of two host parts.
* `checkAddrSpace x a m` — `0` when `x` lies in the block of `a/m`, that is when the first `m`
  host bits agree (`checkAddrSpace_eq_zero_iff`).
* `checkSuccesor` — whether a neighbour is a successor of this node; `none` when its inner loop
  never ends.

`block a m` is the same block in the terms of `PrefixBlock`; `block_slotAddr` says that
`send_pap` hands out exactly one half of a block.
-/

namespace Antop

/-! ## Single bits of a word -/

/-- `pow(2, j)`, converted to `uint16_t`. -/
def pow2 (j : ℕ) : Word := 1#16 <<< j

lemma getMsbD_pow2 {j : ℕ} (hj : j < 16) (k : ℕ) : (pow2 j).getMsbD k = decide (k + j = 15) := by
  by_cases hk : k < 16
  · have : ∀ j k : Fin 16, (pow2 j.val).getMsbD k.val = decide (k.val + j.val = 15) := by decide
    exact this ⟨j, hj⟩ ⟨k, hk⟩
  · rw [BitVec.getMsbD_of_ge _ _ (by omega), eq_comm, decide_eq_false_iff_not]
    omega

lemma shiftRight_eq_pow2 {j : ℕ} (hj : j < 16) : 0x8000#16 >>> j = pow2 (15 - j) := by
  have : ∀ j : Fin 16, 0x8000#16 >>> j.val = pow2 (15 - j.val) := by decide
  exact this ⟨j, hj⟩

/-- Masking with a single bit compares that bit. -/
lemma and_pow2_eq_iff (x y : Word) {j : ℕ} (hj : j < 16) :
    x &&& pow2 j = y &&& pow2 j ↔ x.getMsbD (15 - j) = y.getMsbD (15 - j) := by
  constructor
  · intro h
    have hbit := congrArg (fun w : Word => w.getMsbD (15 - j)) h
    simpa [getMsbD_pow2 hj, show 15 - j + j = 15 by omega] using hbit
  · intro h
    refine BitVec.eq_of_getMsbD_eq fun k hk => ?_
    rw [BitVec.getMsbD_and, BitVec.getMsbD_and, getMsbD_pow2 hj]
    by_cases hkj : k + j = 15
    · rw [show k = 15 - j by omega, h]
    · simp [hkj]

lemma and_pow2_eq_zero_iff (x : Word) {j : ℕ} (hj : j < 16) :
    x &&& pow2 j = 0 ↔ x.getMsbD (15 - j) = false := by
  simpa using and_pow2_eq_iff x 0 hj

lemma and_pow2_eq_self_iff (x : Word) {j : ℕ} (hj : j < 16) :
    x &&& pow2 j = pow2 j ↔ x.getMsbD (15 - j) = true := by
  have h := and_pow2_eq_iff x (pow2 j) hj
  rw [BitVec.and_self, getMsbD_pow2 hj] at h
  simpa [show 15 - j + j = 15 by omega] using h

/-- Adding a bit that is clear flips it. -/
lemma add_eq_xor {x b : Word} (h : x &&& b = 0) : x + b = x ^^^ b := by
  rw [BitVec.add_eq_or_of_and_eq_zero _ _ h]
  refine BitVec.eq_of_getMsbD_eq fun k hk => ?_
  have hk' := congrArg (fun w : Word => w.getMsbD k) h
  simp only [BitVec.getMsbD_and] at hk'
  rw [BitVec.getMsbD_or, BitVec.getMsbD_xor]
  cases hx : x.getMsbD k <;> cases hb : b.getMsbD k <;> simp_all

/-- Subtracting a bit that is set flips it. -/
lemma sub_eq_xor {x b : Word} (h : x &&& b = b) : x - b = x ^^^ b := by
  have hclear : (x ^^^ b) &&& b = 0 := by
    refine BitVec.eq_of_getMsbD_eq fun k hk => ?_
    have hk' := congrArg (fun w : Word => w.getMsbD k) h
    simp only [BitVec.getMsbD_and] at hk'
    rw [BitVec.getMsbD_and, BitVec.getMsbD_xor]
    cases hx : x.getMsbD k <;> cases hb : b.getMsbD k <;> simp_all
  have hadd : (x ^^^ b) + b = x := by
    rw [add_eq_xor hclear, BitVec.xor_assoc, BitVec.xor_self, BitVec.xor_zero]
  exact BitVec.sub_eq_iff_eq_add.mpr hadd.symm

/-! ## The slot a node proposes -/

/-- The address `send_pap` computes from `prim_addr` and `prim_mask`: the bit at position
`prim_mask` of the host part is subtracted where it is set and added where it is clear. -/
def slotAddr (addr : In6Addr) (primMask : ℕ) : In6Addr :=
  let bitIndex := 15 - primMask % 16
  let wordIndex := 4 + primMask / 16
  let mask := htons (pow2 bitIndex)
  if addr.word wordIndex &&& mask ≠ 0 then
    addr.setWord wordIndex (addr.word wordIndex - mask)
  else
    addr.setWord wordIndex (addr.word wordIndex + mask)

lemma slotAddr_eq_setWord (addr : In6Addr) (m : ℕ) :
    slotAddr addr m = addr.setWord (4 + m / 16)
      (addr.word (4 + m / 16) ^^^ htons (pow2 (15 - m % 16))) := by
  have hj : 15 - m % 16 < 16 := by omega
  unfold slotAddr
  dsimp only
  generalize addr.word (4 + m / 16) = w
  -- the mask has a single bit, so the word either has it or not
  have hbit : w &&& htons (pow2 (15 - m % 16)) = 0
      ∨ w &&& htons (pow2 (15 - m % 16)) = htons (pow2 (15 - m % 16)) := by
    cases hb : (htons w).getMsbD (15 - (15 - m % 16)) with
    | false =>
        left
        exact htons_injective (by simpa using (and_pow2_eq_zero_iff (htons w) hj).mpr hb)
    | true =>
        right
        exact htons_injective (by simpa using (and_pow2_eq_self_iff (htons w) hj).mpr hb)
  split_ifs with h
  · rw [sub_eq_xor (hbit.resolve_left h)]
  · rw [add_eq_xor (not_not.mp h)]

lemma bit_slotAddr (addr : In6Addr) {m : ℕ} (hm : m < 64) (p : ℕ) :
    (slotAddr addr m).bit p = if p = 64 + m then !addr.bit p else addr.bit p := by
  have hw : 4 + m / 16 < 8 := by omega
  have hj : 15 - m % 16 < 16 := by omega
  rw [slotAddr_eq_setWord]
  unfold In6Addr.bit
  by_cases hword : p / 16 = 4 + m / 16
  · rw [hword, In6Addr.word_setWord_self _ hw, htons_xor, htons_htons, BitVec.getMsbD_xor,
      getMsbD_pow2 hj]
    by_cases hp : p = 64 + m
    · have : p % 16 + (15 - m % 16) = 15 := by omega
      simp [hp, show (64 + m) % 16 + (15 - m % 16) = 15 by omega]
    · have : ¬ p % 16 + (15 - m % 16) = 15 := by omega
      simp [hp, this]
  · have hp : ¬ p = 64 + m := by omega
    rw [In6Addr.word_setWord_ne _ hword, if_neg hp]

/-- **A proposal flips one host bit.** -/
theorem hostBit_slotAddr (addr : In6Addr) {m : ℕ} (hm : m < 64) (p : ℕ) :
    (slotAddr addr m).hostBit p = if p = m then !addr.hostBit p else addr.hostBit p := by
  unfold In6Addr.hostBit
  rw [bit_slotAddr addr hm]
  by_cases hp : p = m <;> simp [hp]

/-- Different slots of a node have different addresses. -/
lemma slotAddr_inj {a : In6Addr} {m k : ℕ} (hm : m < 64) (hk : k < 64)
    (h : slotAddr a m = slotAddr a k) : m = k := by
  by_contra hne
  have hbit := congrArg (fun b => b.hostBit m) h
  simp [hostBit_slotAddr a hm, hostBit_slotAddr a hk, hne] at hbit

/-! ## Distance -/

/-- `dist`: the number of host bits in which two addresses differ, word by word and bit by bit. -/
def dist (dst neigh : In6Addr) : ℕ :=
  ((List.range 4).map fun i => (List.range 16).countP fun j =>
    let mask := htons (pow2 j)
    (dst.word (i + 4) &&& mask) != (neigh.word (i + 4) &&& mask)).sum

lemma word_and_eq_iff (a b : In6Addr) {i j : ℕ} (hj : j < 16) :
    a.word (i + 4) &&& htons (pow2 j) = b.word (i + 4) &&& htons (pow2 j)
      ↔ a.hostBit (16 * i + (15 - j)) = b.hostBit (16 * i + (15 - j)) := by
  have hdiv : (64 + (16 * i + (15 - j))) / 16 = i + 4 := by omega
  have hmod : (64 + (16 * i + (15 - j))) % 16 = 15 - j := by omega
  rw [In6Addr.hostBit, In6Addr.hostBit, In6Addr.bit, In6Addr.bit, hdiv, hmod,
    ← and_pow2_eq_iff _ _ hj]
  constructor
  · intro h
    simpa using congrArg htons h
  · intro h
    exact htons_injective (by simpa using h)

/-- **The distance counts the differing host bits.** -/
theorem dist_eq_countP (a b : In6Addr) :
    dist a b = (List.range 64).countP fun p => a.hostBit p != b.hostBit p := by
  refine Eq.trans ?_ (BitCount.sum_countP_words (fun p => a.hostBit p != b.hostBit p) 16 4)
  unfold dist
  congr 1
  refine List.map_congr_left fun i _ => List.countP_congr fun j hj => ?_
  have h := word_and_eq_iff a b (i := i) (List.mem_range.mp hj)
  simp [bne_iff_ne, h]

/-- A node is at distance one from the address it proposes. -/
theorem dist_slotAddr (a : In6Addr) {m : ℕ} (hm : m < 64) : dist (slotAddr a m) a = 1 := by
  rw [dist_eq_countP]
  have hcongr : (List.range 64).countP (fun p => (slotAddr a m).hostBit p != a.hostBit p)
      = (List.range 64).count m := by
    refine List.countP_congr fun p _ => ?_
    by_cases hp : p = m <;> simp [hostBit_slotAddr a hm, hp]
  rw [hcongr]
  exact List.count_eq_one_of_mem List.nodup_range (List.mem_range.mpr hm)

lemma dist_comm (a b : In6Addr) : dist a b = dist b a := by
  rw [dist_eq_countP, dist_eq_countP]
  exact List.countP_congr fun p _ => by simp [ne_comm]

/-! ## Address spaces -/

/-- `check_addr_space`: `0` when `addr` agrees with `addr2` on the whole words and then the single
bits that the mask covers, `1` otherwise.  The two prints before its loops, which index the words with
an `i` that is not set yet, are left out. -/
def checkAddrSpace (addr addr2 : In6Addr) (maskAddr : BitVec 8) : ℤ :=
  let words := maskAddr.toNat / 16
  let bits := maskAddr.toNat % 16
  if (List.range words).any fun i => addr2.word (i + 4) != addr.word (i + 4) then 1
  else if (List.range bits).any fun j =>
      htons (htons (addr2.word (words + 4)) &&& (0x8000#16 >>> j))
        != htons (htons (addr.word (words + 4)) &&& (0x8000#16 >>> j)) then 1
  else 0

lemma word_eq_iff (a b : In6Addr) (i : ℕ) :
    a.word (i + 4) = b.word (i + 4)
      ↔ ∀ k < 16, a.hostBit (16 * i + k) = b.hostBit (16 * i + k) := by
  have hbit : ∀ (c : In6Addr) (k : ℕ), k < 16 →
      c.hostBit (16 * i + k) = (htons (c.word (i + 4))).getMsbD k := by
    intro c k hk
    rw [In6Addr.hostBit, In6Addr.bit, show (64 + (16 * i + k)) / 16 = i + 4 by omega,
      show (64 + (16 * i + k)) % 16 = k by omega]
  constructor
  · intro h k hk
    rw [hbit a k hk, hbit b k hk, h]
  · intro h
    refine htons_injective (BitVec.eq_of_getMsbD_eq fun k hk => ?_)
    rw [← hbit a k hk, ← hbit b k hk, h k hk]

lemma masked_bit_eq_iff (a b : In6Addr) {w j : ℕ} (hj : j < 16) :
    htons (htons (a.word (w + 4)) &&& (0x8000#16 >>> j))
        = htons (htons (b.word (w + 4)) &&& (0x8000#16 >>> j))
      ↔ a.hostBit (16 * w + j) = b.hostBit (16 * w + j) := by
  rw [htons_injective.eq_iff, shiftRight_eq_pow2 hj, and_pow2_eq_iff _ _ (by omega),
    In6Addr.hostBit, In6Addr.hostBit, In6Addr.bit, In6Addr.bit,
    show (64 + (16 * w + j)) / 16 = w + 4 by omega, show (64 + (16 * w + j)) % 16 = j by omega,
    show 15 - (15 - j) = j by omega]

/-- Two early returns of `1`, then `0`. -/
lemma ite_one_ite_one_eq_zero_iff (b c : Bool) :
    (if b then (1 : ℤ) else if c then 1 else 0) = 0 ↔ b = false ∧ c = false := by
  cases b <;> cases c <;> simp

/-- **What `check_addr_space` decides**: agreement on the first `mask` host bits. -/
theorem checkAddrSpace_eq_zero_iff (x a : In6Addr) (m : BitVec 8) :
    checkAddrSpace x a m = 0 ↔ ∀ p < m.toNat, x.hostBit p = a.hostBit p := by
  have hwords : (List.range (m.toNat / 16)).any (fun i => a.word (i + 4) != x.word (i + 4)) = false
      ↔ ∀ i < m.toNat / 16, ∀ k < 16, x.hostBit (16 * i + k) = a.hostBit (16 * i + k) := by
    simp only [List.any_eq_false, List.mem_range, bne_iff_ne, ne_eq, not_not, word_eq_iff]
    exact ⟨fun h i hi k hk => (h i hi k hk).symm, fun h i hi k hk => (h i hi k hk).symm⟩
  have hbits : (List.range (m.toNat % 16)).any (fun j =>
        htons (htons (a.word (m.toNat / 16 + 4)) &&& (0x8000#16 >>> j))
          != htons (htons (x.word (m.toNat / 16 + 4)) &&& (0x8000#16 >>> j))) = false
      ↔ ∀ j < m.toNat % 16,
          x.hostBit (16 * (m.toNat / 16) + j) = a.hostBit (16 * (m.toNat / 16) + j) := by
    simp only [List.any_eq_false, List.mem_range, bne_iff_ne, ne_eq, not_not]
    exact ⟨fun h j hj => ((masked_bit_eq_iff a x (by omega)).mp (h j hj)).symm,
      fun h j hj => (masked_bit_eq_iff a x (by omega)).mpr (h j hj).symm⟩
  unfold checkAddrSpace
  dsimp only
  rw [ite_one_ite_one_eq_zero_iff, hwords, hbits]
  constructor
  · rintro ⟨hw, hb⟩ p hp
    by_cases hlt : p / 16 < m.toNat / 16
    · have := hw (p / 16) hlt (p % 16) (by omega)
      rwa [show 16 * (p / 16) + p % 16 = p by omega] at this
    · have := hb (p % 16) (by omega)
      rwa [show 16 * (m.toNat / 16) + p % 16 = p by omega] at this
  · intro h
    exact ⟨fun i hi k hk => h _ (by omega), fun j hj => h _ (by omega)⟩

/-! ## Successors

`check_succesor` walks the host words with one mask that it initialises once, before the first
word.  Within a word it moves the mask down to the first bit that differs; when an earlier word
has used the mask up, no masked bit differs any more and this loop does not end.
-/

/-- `while(aux1 == aux2)`: move the mask down to the first bit that differs.  The fuel is more
than the mask has bits, so `none` is a loop that runs on with an empty mask. -/
def firstDifference (w v : Word) : ℕ → Word → ℕ → Option (Word × ℕ)
  | 0, _, _ => none
  | fuel + 1, mask, j =>
      if w &&& mask = v &&& mask then firstDifference w v fuel (mask >>> 1) (j + 1)
      else some (mask, j)

/-- `while(aux1 == aux2 && (prim_addr & mask) == 0 && j < 16)`: step over the equal bits that are
zero here.  `j` grows to 16 at most, so sixteen rounds are enough. -/
def skipZeros (w v : Word) : ℕ → Word → ℕ → Word × ℕ
  | 0, mask, j => (mask, j)
  | fuel + 1, mask, j =>
      if w &&& mask = v &&& mask ∧ w &&& mask = 0 ∧ j < 16 then
        skipZeros w v fuel (mask >>> 1) (j + 1)
      else (mask, j)

/-- The loop of `check_succesor` over the words still to be compared, with the mask, the number of
different words and the successor flag it has reached. -/
def checkSuccesorWords (primAddr neigh : In6Addr) : List ℕ → Word → ℕ → Bool → Option Bool
  | [], _, differentWords, succesorFlag => some (differentWords == 1 && succesorFlag)
  | i :: is, mask, differentWords, succesorFlag =>
      if primAddr.word i = neigh.word i then
        checkSuccesorWords primAddr neigh is mask differentWords succesorFlag
      else
        let w := htons (primAddr.word i)
        let v := htons (neigh.word i)
        match firstDifference w v 17 mask 0 with
        | none => none
        | some (mask, j) =>
            let succesorFlag := succesorFlag || (w &&& mask == 0)
            let (mask, j) := skipZeros w v 16 (mask >>> 1) j
            if j ≠ 16 then some false
            else checkSuccesorWords primAddr neigh is mask (differentWords + 1) succesorFlag

/-- `check_succesor`: whether `neigh` is a successor of `prim_addr`. -/
def checkSuccesor (primAddr neigh : In6Addr) : Option Bool :=
  checkSuccesorWords primAddr neigh [4, 5, 6, 7] (pow2 15) 0 false

/-- The first slot of the root is its successor, and not the other way round. -/
example : checkSuccesor root (slotAddr root 0) = some true
    ∧ checkSuccesor (slotAddr root 0) root = some false := by decide

/-! ## Blocks -/

/-- The host addresses under `a/m`, as a prefix block. -/
def block (a : In6Addr) (m : ℕ) : PrefixBlock.Block := ⟨a.hostBit, m⟩

lemma checkAddrSpace_eq_zero_iff_mem (x a : In6Addr) (m : BitVec 8) :
    checkAddrSpace x a m = 0 ↔ PrefixBlock.Block.Mem x.hostBit (block a m.toNat) :=
  checkAddrSpace_eq_zero_iff x a m

lemma block_keep (a : In6Addr) (m : ℕ) : (block a m).keep = block a (m + 1) := rfl

/-- **`send_pap` splits its block**: what it proposes is the half it does not keep. -/
theorem block_slotAddr (a : In6Addr) {m : ℕ} (hm : m < 64) :
    block (slotAddr a m) (m + 1) = (block a m).give := by
  unfold block PrefixBlock.Block.give
  congr 1
  funext p
  rw [hostBit_slotAddr a hm]
  by_cases hp : p = m
  · subst hp
    simp
  · simp [hp]

/-- Nodes with blocks that are apart have different addresses. -/
lemma ne_of_apart {a b : In6Addr} {m k : ℕ} (h : PrefixBlock.Apart (block a m) (block b k)) :
    a ≠ b := fun heq => h.base_ne (by rw [block, block, heq])

end Antop
