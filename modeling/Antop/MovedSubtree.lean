import Antop.Library.BitCount
import Antop.MergeBlocks

/-!
# A subtree that moves

`shift` takes a subtree to the root of a network of its own, and `shift_mezcla` puts it under a node of
another one.  Either way the positions in which two of its addresses can differ are a window of the host
part, and the window is moved as a whole.

* `Trasladadas` — two addresses and their images, with the two windows; distance and address spaces are
  those of the window.
* `shift_isometry` — a subtree that becomes a network.
* `shift_mezcla_embeds` — a subtree that is taken into another network.
-/

namespace Antop

open BitCount

/-! ## Windows -/

/-- The images `x'` and `y'` of two addresses: where they differ, and where the addresses do, are two
windows of `n` positions that hold the same bits. -/
structure Trasladadas (lo lo' n : ℕ) (x y x' y' : In6Addr) : Prop where
  cabe : lo + n ≤ 64
  cabe' : lo' + n ≤ 64
  ventana : ∀ p < 64, x.hostBit p ≠ y.hostBit p → lo ≤ p ∧ p < lo + n
  ventana' : ∀ p < 64, x'.hostBit p ≠ y'.hostBit p → lo' ≤ p ∧ p < lo' + n
  bitX : ∀ i < n, x'.hostBit (lo' + i) = x.hostBit (lo + i)
  bitY : ∀ i < n, y'.hostBit (lo' + i) = y.hostBit (lo + i)

namespace Trasladadas

variable {lo lo' n a : ℕ} {x y x' y' : In6Addr}

/-- **The distance** is that of the windows. -/
lemma dist_eq (h : Trasladadas lo lo' n x y x' y') : dist x' y' = dist x y := by
  rw [dist_eq_countP, dist_eq_countP]
  refine countP_windows h.cabe' h.cabe ?_ ?_ ?_
  · intro p hp hne
    exact h.ventana' p hp (bne_iff_ne.mp hne)
  · intro p hp hne
    exact h.ventana p hp (bne_iff_ne.mp hne)
  · intro i hi
    rw [h.bitX i hi, h.bitY i hi]

/-- Outside the windows nothing differs, so what a mask sees of them decides. -/
lemma iguales_iff {lo n a : ℕ} {x y : In6Addr} (hcabe : lo + n ≤ 64)
    (h : ∀ p < 64, x.hostBit p ≠ y.hostBit p → lo ≤ p ∧ p < lo + n) (hlo : lo ≤ a) (ha : a ≤ lo + n) :
    (∀ p < a, y.hostBit p = x.hostBit p) ↔ ∀ i < a - lo, y.hostBit (lo + i) = x.hostBit (lo + i) := by
  constructor
  · intro heq i hi
    exact heq (lo + i) (by omega)
  · intro heq p hp
    by_contra hne
    have hwin := h p (by omega) (Ne.symm hne)
    have hi := heq (p - lo) (by omega)
    rw [show lo + (p - lo) = p by omega] at hi
    exact hne hi

/-- **The address spaces** are those of the windows. -/
lemma checkAddrSpace_iff (h : Trasladadas lo lo' n x y x' y') (hlo : lo ≤ a) (ha : a ≤ lo + n)
    {m m' : UChar} (hm : m.toNat = a) (hm' : m'.toNat = a - lo + lo') :
    checkAddrSpace y' x' m' = 0 ↔ checkAddrSpace y x m = 0 := by
  rw [checkAddrSpace_eq_zero_iff, checkAddrSpace_eq_zero_iff, hm, hm',
    iguales_iff h.cabe h.ventana hlo ha, iguales_iff h.cabe' h.ventana' (by omega) (by omega),
    Nat.add_sub_cancel]
  refine forall₂_congr fun i hi => ?_
  rw [h.bitX i (by omega), h.bitY i (by omega)]

end Trasladadas

/-! ## A subtree becomes a network -/

/-- The window moves to the front. -/
lemma hostBit_shift_ventana {k : ℕ} (z : In6Addr) (i : ℕ) (hi : i < 63 - k) :
    (shift 64 1 k root z).hostBit (0 + i) = z.hostBit (k + i) := by
  rw [Nat.zero_add, hostBit_shift_left k z (by omega), Nat.add_comm i k,
    decide_eq_true (show k + i < 63 by omega), decide_eq_false (show ¬ i = 63 by omega), Bool.true_and,
    Bool.or_false]

/-- Addresses that agree in front of the position `k` and in the last one. -/
lemma trasladadas_shift {k : ℕ} {x y : In6Addr} (hk : k ≤ 63)
    (hxy : ∀ p < k, x.hostBit p = y.hostBit p) (hx : x.hostBit 63 = true) (hy : y.hostBit 63 = true) :
    Trasladadas k 0 (63 - k) x y (shift 64 1 k root x) (shift 64 1 k root y) where
  cabe := by omega
  cabe' := by omega
  ventana p hp hne := by
    refine ⟨Nat.le_of_not_lt fun hlt => hne (hxy p hlt), ?_⟩
    by_contra hlt
    rw [show p = 63 by omega, hx, hy] at hne
    exact hne rfl
  ventana' p hp hne := by
    refine ⟨Nat.zero_le p, ?_⟩
    by_contra hlt
    rw [hostBit_shift_left k x hp, hostBit_shift_left k y hp,
      decide_eq_false (show ¬ p + k < 63 by omega), Bool.false_and, Bool.false_and] at hne
    exact hne rfl
  bitX := hostBit_shift_ventana x
  bitY := hostBit_shift_ventana y

/-- **A subtree that becomes a network** keeps its distances and its address spaces, with masks that are
shorter by the bits that fall away. -/
theorem shift_isometry {k : ℕ} (hk : k ≤ 63) (x y : In6Addr)
    (hxy : ∀ p < k, x.hostBit p = y.hostBit p) (hx : x.hostBit 63 = true) (hy : y.hostBit 63 = true) :
    dist (shift 64 1 k root x) (shift 64 1 k root y) = dist x y
      ∧ ∀ a : ℕ, k ≤ a → a ≤ 63 →
        (checkAddrSpace (shift 64 1 k root y) (shift 64 1 k root x) (BitVec.ofNat 8 (a - k)) = 0
          ↔ checkAddrSpace y x (BitVec.ofNat 8 a) = 0) := by
  have h := trasladadas_shift hk hxy hx hy
  refine ⟨h.dist_eq, fun a hka ha => h.checkAddrSpace_iff hka (by omega) ?_ ?_⟩
  · rw [BitVec.toNat_ofNat, Nat.mod_eq_of_lt (by omega)]
  · rw [BitVec.toNat_ofNat, Nat.mod_eq_of_lt (by omega), Nat.add_zero]

/-- The first slot of the root and the second one under it, without their first bit. -/
theorem shift_isometry_one :
    let x := slotAddr root 0
    let y := slotAddr x 1
    dist (shift 64 1 (1 : ℕ) root x) (shift 64 1 (1 : ℕ) root y) = dist x y
      ∧ ∀ a : ℕ, 1 ≤ a → a ≤ 63 →
        (checkAddrSpace (shift 64 1 (1 : ℕ) root y) (shift 64 1 (1 : ℕ) root x) (BitVec.ofNat 8 (a - 1)) = 0
          ↔ checkAddrSpace y x (BitVec.ofNat 8 a) = 0) :=
  shift_isometry (by decide) _ _ (by decide) (by decide) (by decide)

/-! ## A subtree is taken into another network -/

section Mezcla

variable {src x y : In6Addr} {s mf m : ℕ}

/-- In front of the position `s` stand the bits of the initiator. -/
lemma hostBit_shiftMezcla_delante (src x : In6Addr) (mf : ℕ) {p : ℕ} (hp : p < s) (hs : s ≤ 63) :
    (shiftMezcla 64 src x s mf).hostBit p = src.hostBit p := by
  cases mf with
  | zero =>
      rw [Nat.cast_zero, hostBit_shiftMezcla_zero _ _ _ (by omega)]
      simp [show ¬ s + 1 ≤ p by omega, show ¬ p = 63 by omega, show ¬ p = s by omega]
  | succ mf =>
      rw [hostBit_shiftMezcla_pos _ _ _ _ (by omega)]
      simp [show ¬ s ≤ p by omega, show ¬ p = 63 by omega]

/-- At the position `s` stands a one: a new bit, or the last one of those that fall away. -/
lemma hostBit_shiftMezcla_uno (src x : In6Addr) (hmf : mf ≤ 63) (hs : s < 64)
    (huno : 1 ≤ mf → x.hostBit (mf - 1) = true) : (shiftMezcla 64 src x s mf).hostBit s = true := by
  cases mf with
  | zero =>
      rw [Nat.cast_zero, hostBit_shiftMezcla_zero _ _ _ hs]
      simp
  | succ mf =>
      have hx : x.hostBit mf = true := huno (Nat.succ_pos mf)
      rw [hostBit_shiftMezcla_pos _ _ _ _ hs]
      simp [show mf < 63 by omega, hx]

/-- Addresses that agree in front of the position `mf` and from `m` on. -/
lemma trasladadas_shiftMezcla (hsrc : ∀ p, s ≤ p → src.hostBit p = root.hostBit p)
    (hx : ∀ p, m ≤ p → x.hostBit p = root.hostBit p) (hy : ∀ p, m ≤ p → y.hostBit p = root.hostBit p)
    (hmf : mf ≤ m) (hroom : m + s + 1 ≤ 63 + mf)
    (hm : m ≤ 63) (hxy : ∀ p < mf, x.hostBit p = y.hostBit p)
    (huno : 1 ≤ mf → x.hostBit (mf - 1) = true) :
    Trasladadas mf (s + 1) (m - mf) x y (shiftMezcla 64 src x s mf) (shiftMezcla 64 src y s mf) := by
  have higuales (p : ℕ) (hp : p < mf ∨ m ≤ p) : x.hostBit p = y.hostBit p := by
    rcases hp with hp | hp
    · exact hxy p hp
    · rw [hx p hp, hy p hp]
  have huno' : 1 ≤ mf → y.hostBit (mf - 1) = true := fun h => by
    rw [← hxy (mf - 1) (by omega), huno h]
  have hbit (z : In6Addr) (i : ℕ) (hi : i < m - mf) :
      (shiftMezcla 64 src z s mf).hostBit (s + 1 + i) = z.hostBit (mf + i) := by
    rw [hostBit_shiftMezcla_of_lt _ _ _ (by omega) (by omega), hsrc _ (by omega), hostBit_root,
      Nat.add_sub_cancel_left, Nat.add_comm i mf, decide_eq_true (show mf + i < 63 by omega),
      decide_eq_false (show ¬ s + 1 + i = 63 by omega), Bool.true_and, Bool.or_false, Bool.or_false]
  refine ⟨by omega, by omega, ?_, ?_, hbit x, hbit y⟩
  · intro p hp hne
    by_contra hwin
    exact hne (higuales p (by omega))
  · intro p hp hne
    by_contra hwin
    refine hne ?_
    rcases Nat.lt_trichotomy p s with hlt | rfl | hlt
    · rw [hostBit_shiftMezcla_delante src x mf hlt (by omega),
        hostBit_shiftMezcla_delante src y mf hlt (by omega)]
    · rw [hostBit_shiftMezcla_uno src x (by omega) hp huno,
        hostBit_shiftMezcla_uno src y (by omega) hp huno']
    · rw [hostBit_shiftMezcla_of_lt _ _ _ hlt hp, hostBit_shiftMezcla_of_lt _ _ _ hlt hp,
        higuales (p - (s + 1) + mf) (by omega)]

/-- **A subtree that is taken into another network** lies behind the bits of the initiator and a one,
with its distances and its address spaces; the masks are those that `process_mar1` computes. -/
theorem shift_mezcla_embeds (hsrc : ∀ p, s ≤ p → src.hostBit p = root.hostBit p)
    (hx : ∀ p, m ≤ p → x.hostBit p = root.hostBit p) (hy : ∀ p, m ≤ p → y.hostBit p = root.hostBit p)
    (hmf : mf ≤ m) (hm : m ≤ 63) (hroom : (m : ℤ) - (mf - 1) + s ≤ 63)
    (hxy : ∀ p < mf, x.hostBit p = y.hostBit p) (huno : 1 ≤ mf → x.hostBit (mf - 1) = true) :
    (∀ z ∈ [x, y], (∀ p < s, (shiftMezcla 64 src z s mf).hostBit p = src.hostBit p)
        ∧ (shiftMezcla 64 src z s mf).hostBit s = true)
      ∧ dist (shiftMezcla 64 src x s mf) (shiftMezcla 64 src y s mf) = dist x y
      ∧ (∀ a : ℕ, mf ≤ a → a ≤ m →
        (checkAddrSpace (shiftMezcla 64 src y s mf) (shiftMezcla 64 src x s mf)
            (BitVec.ofInt 8 (a - (mf - 1) + s)) = 0
          ↔ checkAddrSpace y x (BitVec.ofNat 8 a) = 0))
      ∧ ∀ (n : Node) (antopMsg : CtrlPkt), n.primMask.toNat = m → antopMsg.adAddr.mask.toNat = s →
        (n.maskQueCae antopMsg).toNat = mf →
        ((n.entrarMar1 antopMsg).primMask.toNat : ℤ) = m - (mf - 1) + s := by
  have h := trasladadas_shiftMezcla hsrc hx hy hmf (by omega) hm hxy huno
  refine ⟨?_, h.dist_eq, ?_, ?_⟩
  · intro z hz
    have hzuno : 1 ≤ mf → z.hostBit (mf - 1) = true := by
      rcases List.mem_pair.mp hz with rfl | rfl
      · exact huno
      · intro h1
        rw [← hxy (mf - 1) (by omega), huno h1]
    exact ⟨fun p hp => hostBit_shiftMezcla_delante src z mf hp (by omega),
      hostBit_shiftMezcla_uno src z (by omega) (by omega) hzuno⟩
  · intro a hlo ha
    refine h.checkAddrSpace_iff hlo (by omega) ?_ ?_
    · rw [BitVec.toNat_ofNat, Nat.mod_eq_of_lt (by omega)]
    · rw [BitVec.toNat_ofInt]
      omega
  · intro n antopMsg hpm hmask hcae
    rw [Node.entrarMar1]
    dsimp only [Node.storePrimMask]
    rw [BitVec.toNat_ofInt, hpm, hmask, hcae]
    omega

/-- The subtree under the first slot of the root is taken under the same slot of another root. -/
theorem shift_mezcla_embeds_one :
    let x := slotAddr root 0
    let y := slotAddr x 1
    let x' := shiftMezcla 64 x x (1 : ℕ) (1 : ℕ)
    let y' := shiftMezcla 64 x y (1 : ℕ) (1 : ℕ)
    (∀ z ∈ [x, y], (∀ p < 1, (shiftMezcla 64 x z (1 : ℕ) (1 : ℕ)).hostBit p = x.hostBit p)
        ∧ (shiftMezcla 64 x z (1 : ℕ) (1 : ℕ)).hostBit 1 = true)
      ∧ dist x' y' = dist x y
      ∧ (∀ a : ℕ, 1 ≤ a → a ≤ 2 →
        (checkAddrSpace y' x' (BitVec.ofInt 8 (a - ((1 : ℕ) - 1) + (1 : ℕ))) = 0
          ↔ checkAddrSpace y x (BitVec.ofNat 8 a) = 0))
      ∧ ∀ (n : Node) (antopMsg : CtrlPkt), n.primMask.toNat = 2 → antopMsg.adAddr.mask.toNat = 1 →
        (n.maskQueCae antopMsg).toNat = 1 →
        ((n.entrarMar1 antopMsg).primMask.toNat : ℤ) = (2 : ℕ) - ((1 : ℕ) - 1) + (1 : ℕ) := by
  intro x y
  have hx (p : ℕ) (hp : 1 ≤ p) : x.hostBit p = root.hostBit p := by
    rw [hostBit_slotAddr root (by decide), if_neg (by omega)]
  have hy (p : ℕ) (hp : 2 ≤ p) : y.hostBit p = root.hostBit p := by
    rw [hostBit_slotAddr x (by decide), if_neg (by omega), hx p (by omega)]
  exact shift_mezcla_embeds hx (fun p hp => hx p (by omega)) hy (by decide) (by decide) (by decide)
    (by decide) (by decide)

end Mezcla

end Antop
