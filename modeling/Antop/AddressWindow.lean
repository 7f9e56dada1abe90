import Antop.Secondary
import Antop.Mezcla

/-!
# The window of the hypercube in an address

Four pieces of code compute where the next bit of a block lies in the 128 bits of an address, each
from the dimension and the mask by a formula of its own: `send_pap` takes bit `64 + m`,
`shift_mezcla` and `process_mar2` bit `128 - hc_dim + m`, `chk_sec_addr1` bit `hc_dim + m`.  `shift`
clears whole words in front of the window.

`ventana_iff` — they agree, and `shift` keeps what `send_pap` sets, exactly for dimension 64.
-/

namespace Antop

/-- `uno` moved to the right has a single bit. -/
lemma bit_uno (n : ℕ) {p : ℕ} (hp : p < 128) :
    (shiftUnos 0 n (.ofWords 0x0080 0 0 0 0 0 0 0)).bit p = decide (p = n) := by
  have huno : ∀ q : Fin 128,
      (In6Addr.ofWords 0x0080 0 0 0 0 0 0 0).bit q.val = decide (q.val = 0) := by decide
  rw [bit_shiftUnos_right _ _ hp, huno ⟨p - n, by omega⟩]
  by_cases h : n ≤ p
  · simp [h, show p - n = 0 ↔ p = n by omega]
  · simp [h, show ¬ p = n by omega]

/-- The first address the loop of `chk_sec_addr1` tries. -/
def primeraCandidata (hcDim : ℕ) (primAddr : In6Addr) (primMask : ℕ) : In6Addr :=
  primAddr.or (shiftUnos 0 1 (shiftUnos 0 (hcDim + primMask - 1) (.ofWords 0x0080 0 0 0 0 0 0 0)))

/-- It is the head of the list that the loop goes through. -/
lemma head_bitsAProbar (hcDim : ℕ) (primAddr : In6Addr) (primMask : UChar)
    (h : hcDim + primMask.toNat < 128) :
    (Node.bitsAProbar primAddr (128 - (hcDim + primMask.toNat))
        (shiftUnos 0 (hcDim + primMask.toNat - 1) (.ofWords 0x0080 0 0 0 0 0 0 0)) primMask).head?
      = some (primeraCandidata hcDim primAddr primMask.toNat, primMask + 1) := by
  obtain ⟨rounds, hr⟩ : ∃ rounds, 128 - (hcDim + primMask.toNat) = rounds + 1 :=
    ⟨127 - (hcDim + primMask.toNat), by omega⟩
  rw [hr]
  rfl

/-- The four pieces of code put the next bit of a block with mask `m` at position `p`. -/
structure BitDelBloque (hcDim m p : ℕ) : Prop where
  sendPap : ∀ (a : In6Addr) (q : ℕ), q < 128 →
    (slotAddr a m).bit q = if q = p then !a.bit q else a.bit q
  shiftMezcla : ∀ (src addr : In6Addr) (q : ℕ), q < 128 →
    (shiftMezcla hcDim src addr m 0).bit q
      = ((shift hcDim 0 (m + 1) root addr).bit q || decide (q = p) || src.bit q)
  processMar2 : ∀ (src : In6Addr) (mask : UChar), mask.toNat = m + 1 → ∀ q < 128,
    (mar2Addr hcDim src mask).bit q = (decide (q = p) || src.bit q)
  chkSecAddr1 : ∀ (primAddr : In6Addr) (primMask : UChar), primMask.toNat = m →
    ∃ c, (Node.bitsAProbar primAddr (128 - (hcDim + m))
        (shiftUnos 0 (hcDim + m - 1) (.ofWords 0x0080 0 0 0 0 0 0 0)) primMask).head? = some c
      ∧ ∀ q < 128, c.1.bit q = (primAddr.bit q || decide (q = p))

/-- `shift` keeps the host bit `m`: it moves it, however far, within the host part, and leaves it in
its place if it is the root's. -/
def Conserva (hcDim m : ℕ) : Prop :=
  ∀ a : In6Addr, a.bit (64 + m) = true →
    if root.bit (64 + m) then ∀ izqDer n, (shift hcDim izqDer n root a).bit (64 + m) = true
    else (∀ n ≤ m, (shift hcDim 1 n root a).bit (64 + m - n) = true)
      ∧ ∀ n, m + n < 64 → (shift hcDim 0 n root a).bit (64 + m + n) = true

/-- One window: all four agree on the bit, and `shift` keeps it. -/
def UnaVentana (hcDim m : ℕ) : Prop := (∃ p, BitDelBloque hcDim m p) ∧ Conserva hcDim m

/-! ## The four positions -/

lemma bit_mar2Addr (hcDim : ℕ) (src : In6Addr) {mask : UChar} {m : ℕ} (hdim : hcDim ≤ 64)
    (hm : mask.toNat = m + 1) {q : ℕ} (hq : q < 128) :
    (mar2Addr hcDim src mask).bit q = (decide (q = 128 - hcDim + m) || src.bit q) := by
  rw [mar2Addr, In6Addr.bit_or,
    show (128 - (hcDim : ℤ)) + mask.toNat - 1 = ((128 - hcDim + m : ℕ) : ℤ) by omega, bit_uno _ hq]

lemma bit_shiftMezcla_zero (hcDim : ℕ) (src addr : In6Addr) (m : ℕ) (hdim : hcDim ≤ 64) {q : ℕ}
    (hq : q < 128) :
    (shiftMezcla hcDim src addr m 0).bit q
      = ((shift hcDim 0 (m + 1) root addr).bit q || decide (q = 128 - hcDim + m) || src.bit q) := by
  unfold shiftMezcla
  rw [if_neg (by omega)]
  dsimp only
  rw [In6Addr.bit_or, In6Addr.bit_or,
    show (128 - (hcDim : ℤ)) + m = ((128 - hcDim + m : ℕ) : ℤ) by omega, bit_uno _ hq]

lemma bit_primeraCandidata (hcDim : ℕ) (primAddr : In6Addr) (m : ℕ) (hdim : 1 ≤ hcDim) {q : ℕ}
    (hq : q < 128) :
    (primeraCandidata hcDim primAddr m).bit q = (primAddr.bit q || decide (q = hcDim + m)) := by
  have hone : (1 : ℤ) = ((1 : ℕ) : ℤ) := rfl
  rw [primeraCandidata, In6Addr.bit_or, hone, bit_shiftUnos_right 1 _ hq,
    show (hcDim : ℤ) + m - (1 : ℕ) = ((hcDim + m - 1 : ℕ) : ℤ) by omega, bit_uno _ (by omega)]
  congr 1
  by_cases h : 1 ≤ q
  · simp [h, show q - 1 = hcDim + m - 1 ↔ q = hcDim + m by omega]
  · simp [h, show ¬ q = hcDim + m by omega]

/-- With dimension 64 they agree. -/
lemma bitDelBloque_64 {m : ℕ} (hm : m < 64) : BitDelBloque 64 m (64 + m) where
  sendPap := fun a q _ => bit_slotAddr a hm q
  shiftMezcla := fun src addr q hq => bit_shiftMezcla_zero 64 src addr m le_rfl hq
  processMar2 := fun src mask hmask q hq => bit_mar2Addr 64 src le_rfl hmask hq
  chkSecAddr1 := fun primAddr primMask hmask => by
    have hhead := head_bitsAProbar 64 primAddr primMask (by omega)
    rw [hmask] at hhead
    exact ⟨_, hhead, fun q hq => bit_primeraCandidata 64 primAddr m (by omega) hq⟩

/-- Two of them agree only with dimension 64. -/
lemma BitDelBloque.dim {hcDim m p : ℕ} (hdim : hcDim ≤ 64) (hm : m < hcDim)
    (h : BitDelBloque hcDim m p) : hcDim = 64 := by
  have hpap : 64 + m = p := by
    by_contra hne
    have hflip := h.sendPap .zero (64 + m) (by omega)
    rw [if_neg hne, bit_slotAddr _ (by omega), if_pos rfl] at hflip
    simp at hflip
  have hmar : 128 - hcDim + m = p := by
    have hmask : (BitVec.ofNat 8 (m + 1)).toNat = m + 1 := by
      rw [BitVec.toNat_ofNat]
      omega
    have hset := h.processMar2 .zero _ hmask (128 - hcDim + m) (by omega)
    rw [bit_mar2Addr hcDim _ hdim hmask (by omega)] at hset
    simpa using hset
  omega

/-! ## What `shift` keeps -/

lemma conserva_64 {m : ℕ} (hm : m < 64) : Conserva 64 m := by
  intro a ha
  split_ifs with hroot
  · intro izqDer n
    unfold shift
    dsimp only
    rw [In6Addr.bit_or, hroot, Bool.or_true]
  · have hmov : movable 64 root a (64 + m) = true := by simp [movable, hroot, ha]
    constructor
    · intro n hn
      rw [bit_shift_left _ _ _ _ (by omega), show 64 + m - n + n = 64 + m by omega, hmov]
      simp only [Bool.and_true, Bool.or_eq_true, decide_eq_true_eq]
      omega
    · intro n hn
      rw [bit_shift_right _ _ _ _ (by omega), show 64 + m + n - n = 64 + m by omega, hmov]
      simp only [Bool.and_true, Bool.or_eq_true, Bool.and_eq_true, decide_eq_true_eq]
      omega

/-- **When there is one window.**  For every dimension from 1 to 64 and every mask below it, the four
pieces of code agree on the bit and `shift` keeps it exactly when the dimension is 64. -/
theorem ventana_iff {hcDim m : ℕ} (hdim : hcDim ≤ 64) (hm : m < hcDim) :
    UnaVentana hcDim m ↔ hcDim = 64 := by
  constructor
  · rintro ⟨⟨p, hp⟩, -⟩
    exact hp.dim hdim hm
  · rintro rfl
    exact ⟨⟨64 + m, bitDelBloque_64 hm⟩, conserva_64 hm⟩

/-- The third bit of a hypercube of dimension 64. -/
theorem ventana_iff_64_3 : UnaVentana 64 3 ↔ 64 = 64 :=
  ventana_iff le_rfl (by decide)

/-- In a hypercube of dimension 32 the first child has one address by a join and another by a
merge. -/
theorem windows_differ : ¬ ∀ hcDim m : ℕ, 1 ≤ hcDim → hcDim ≤ 64 → m < hcDim → UnaVentana hcDim m := by
  intro h
  obtain ⟨p, hp⟩ := (h 32 0 (by decide) (by decide) (by decide)).1
  have hpap := hp.sendPap .zero 64 (by decide)
  have hmar := hp.processMar2 .zero 1 rfl 64 (by decide)
  have hp64 : p = 64 := by
    by_contra hne
    rw [if_neg (Ne.symm hne)] at hpap
    revert hpap
    decide
  rw [hp64] at hmar
  revert hmar
  decide +kernel

end Antop
