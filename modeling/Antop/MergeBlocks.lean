import Antop.AddressWindow
import Antop.Malla
import Antop.MezclaEnvios

/-!
# The blocks of a merge

The address a `MAR1` gives is the old one behind the bits of the initiator, without the bits in front of
the first receiver's block; the address a `MAR2` gives is a slot of the sender's new one.

* `shiftMezcla_apart`, `shiftMezcla_vacia` — blocks that lie in the first receiver's block move together.
* `bloqueOfrecido` — the block of a slot; `map_bloqueOfrecido` — the offers of a node are what it gives
  away of its block.
-/

namespace Antop

open PrefixBlock

/-! ## What a `MAR1` does to a block -/

section Mar1

variable {src a b : In6Addr} {s mf m k : ℕ}

/-- Behind the new prefix stand the bits from `mf` on. -/
lemma hostBit_shiftMezcla_of_lt (src a : In6Addr) (mf : ℕ) {p : ℕ} (hs : s < p) (hp : p < 64) :
    (shiftMezcla 64 src a s mf).hostBit p
      = (((decide (p - (s + 1) + mf < 63) && a.hostBit (p - (s + 1) + mf)) || decide (p = 63))
        || src.hostBit p) := by
  cases mf with
  | zero =>
      rw [Nat.cast_zero, hostBit_shiftMezcla_zero _ _ _ hp, decide_eq_true (show s + 1 ≤ p from hs),
        decide_eq_false (show ¬ p = s by omega), Bool.true_and, Bool.or_false]
      rfl
  | succ mf =>
      rw [hostBit_shiftMezcla_pos _ _ _ _ hp, decide_eq_true (show s ≤ p from hs.le), Bool.true_and,
        show p - (s + 1) + (mf + 1) = p - s + mf by omega]

/-- The bits behind the block are those of the root. -/
lemma shiftMezcla_vacia (ha : Vacia a m) (hmf : mf ≤ m) (hlen : m + s + 1 ≤ 63 + mf)
    (hsrc : ∀ p, s < p → p < 63 → src.hostBit p = false) :
    Vacia (shiftMezcla 64 src a s mf) (m + s + 1 - mf) where
  libre p hp h63 := by
    rw [hostBit_shiftMezcla_of_lt src a mf (by omega) (by omega), hsrc p (by omega) h63,
      decide_eq_false (show ¬ p = 63 by omega), Bool.or_false, Bool.or_false]
    by_cases hin : p - (s + 1) + mf < 63
    · rw [ha.libre _ (by omega) hin, Bool.and_false]
    · rw [decide_eq_false hin, Bool.false_and]
  ultimo := by
    rw [hostBit_shiftMezcla_of_lt src a mf (by omega) (by omega), decide_eq_true rfl, Bool.or_true,
      Bool.true_or]

/-- **Blocks move together**: those that agree in front of the position `mf` stay apart. -/
lemma shiftMezcla_apart (h : Apart (block a m) (block b k)) (hpre : ∀ p < mf, a.hostBit p = b.hostBit p)
    (hk : k + s + 1 ≤ 63 + mf) (hm : m ≤ 63)
    (hsrc : ∀ p, s < p → p < 63 → src.hostBit p = false) :
    Apart (block (shiftMezcla 64 src a s mf) (m + s + 1 - mf))
      (block (shiftMezcla 64 src b s mf) (k + s + 1 - mf)) := by
  obtain ⟨p, hpm, hpk, hne⟩ := h
  simp only [block] at hpm hpk hne
  have hmf : mf ≤ p := by
    by_contra hlt
    exact hne (hpre p (Nat.lt_of_not_le hlt))
  -- the position has moved by `s + 1 - mf`
  obtain ⟨q, rfl⟩ := Nat.exists_eq_add_of_le hmf
  have hbit (x : In6Addr) : (shiftMezcla 64 src x s mf).hostBit (q + s + 1) = x.hostBit (mf + q) := by
    rw [hostBit_shiftMezcla_of_lt src x mf (by omega) (by omega), hsrc _ (by omega) (by omega),
      show q + s + 1 - (s + 1) + mf = mf + q by omega, decide_eq_true (show mf + q < 63 by omega),
      decide_eq_false (show ¬ q + s + 1 = 63 by omega), Bool.true_and, Bool.or_false, Bool.or_false]
  refine ⟨q + s + 1, ?_, ?_, ?_⟩
  · simp only [block]
    omega
  · simp only [block]
    omega
  · simp only [block]
    rw [hbit, hbit]
    exact hne

end Mar1

/-! ## What a `MAR2` offers -/

/-- The block of the slot that a `MAR2` offers. -/
def bloqueOfrecido (o : In6Addr × UChar) : Block := block (mar2Addr 64 o.1 o.2) o.2.toNat

section Mar2

variable {src : In6Addr} {mask : UChar} {m : ℕ}

lemma hostBit_mar2Addr (src : In6Addr) (hmask : mask.toNat = m + 1) (hm : m < 64) (p : ℕ) :
    (mar2Addr 64 src mask).hostBit p = (decide (p = m) || src.hostBit p) := by
  rcases Nat.lt_or_ge p 64 with hp | hp
  · rw [In6Addr.hostBit, bit_mar2Addr 64 src le_rfl hmask (by omega), In6Addr.hostBit]
    congr 1
    simp
  · rw [In6Addr.hostBit_of_ge _ hp, In6Addr.hostBit_of_ge _ hp, decide_eq_false (show ¬ p = m by omega),
      Bool.false_or]

/-- The slot is what the block of the sender gives away. -/
lemma block_mar2Addr (h : Vacia src m) (hmask : mask.toNat = m + 1) (hm : m < 63) :
    bloqueOfrecido (src, mask) = (block src m).give := by
  have hfree : src.hostBit m = false := h.libre m le_rfl hm
  unfold bloqueOfrecido block Block.give
  dsimp only
  rw [hmask, hfree]
  congr 1
  funext p
  rw [hostBit_mar2Addr src hmask (by omega)]
  by_cases hp : p = m
  · rw [hp, Function.update_self, decide_eq_true rfl]
    rfl
  · rw [Function.update_of_ne hp, decide_eq_false hp, Bool.false_or]

lemma mar2Addr_vacia (h : Vacia src m) (hmask : mask.toNat = m + 1) (hm : m < 63) :
    Vacia (mar2Addr 64 src mask) (m + 1) where
  libre p hp h63 := by
    rw [hostBit_mar2Addr src hmask (by omega), decide_eq_false (show ¬ p = m by omega),
      h.libre p (by omega) h63, Bool.or_false]
  ultimo := by
    rw [hostBit_mar2Addr src hmask (by omega), h.ultimo, Bool.or_true]

/-- **The offers of a node** are the halves it gives away of its block. -/
lemma map_bloqueOfrecido (h : Vacia src m) (hmask : mask.toNat = m) {r : ℕ} (hr : m + r ≤ 63) :
    ((List.range r).map fun u => (src, mask + BitVec.ofNat 8 (u + 1))).map bloqueOfrecido
      = (block src m).gives r := by
  rw [Block.gives, List.map_map]
  refine List.map_congr_left fun u hu => ?_
  have hlt := List.mem_range.mp hu
  have hnext : (mask + BitVec.ofNat 8 (u + 1)).toNat = m + u + 1 := by
    rw [BitVec.toNat_add, BitVec.toNat_ofNat, hmask]
    omega
  have hgive : bloqueOfrecido (src, mask + BitVec.ofNat 8 (u + 1)) = (block src (m + u)).give :=
    block_mar2Addr (h.mono (Nat.le_add_right m u)) hnext (by omega)
  exact hgive

end Mar2

end Antop
