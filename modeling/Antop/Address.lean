import Mathlib.Data.BitVec
import Mathlib.Tactic

/-!
# `struct in6_addr`

An address is eight 16-bit words, `s6_addr16[0..7]`, each as a little-endian host reads it from
memory; `htons` turns a word into the number it has on the wire.  The daemon does all its
arithmetic on these words, and everything it means by it is about *bits in network order*:

* `In6Addr.bit a p` — bit `p` of the address, most significant first, `0 ≤ p < 128`;
* `In6Addr.hostBit a p` — bit `p` of the 64-bit host part, words 4 to 7, where the hypercube
  lives.

`In6Addr.ext_bit` and `In6Addr.ext_hostBit` are how later modules compare addresses.
-/

namespace Antop

/-- One `uint16_t` of an address, in host byte order. -/
abbrev Word := BitVec 16

/-- `htons`, and `ntohs`: swap the two bytes. -/
def htons (w : Word) : Word := (w <<< 8) ||| (w >>> 8)

lemma getMsbD_htons (w : Word) (j : ℕ) :
    (htons w).getMsbD j
      = if j < 8 then w.getMsbD (j + 8) else if j < 16 then w.getMsbD (j - 8) else false := by
  unfold htons
  rw [BitVec.getMsbD_or, BitVec.getMsbD_shiftLeft, BitVec.getMsbD_ushiftRight]
  split_ifs with h8 h16
  · simp [h8]
  · have h : 16 ≤ 8 + j := by omega
    simp [h8, h16, BitVec.getMsbD_of_ge _ _ (Nat.add_comm 8 j ▸ h)]
  · have h : 16 ≤ 8 + j := by omega
    simp [h16, BitVec.getMsbD_of_ge _ _ (Nat.add_comm 8 j ▸ h)]

@[simp] lemma htons_htons (w : Word) : htons (htons w) = w := by
  refine BitVec.eq_of_getMsbD_eq fun j hj => ?_
  rw [getMsbD_htons]
  split_ifs with h8
  · rw [getMsbD_htons, if_neg (by omega), if_pos (by omega)]
    simp
  · rw [getMsbD_htons, if_pos (by omega)]
    congr 1
    omega

lemma htons_injective : Function.Injective htons := fun a b h => by
  rw [← htons_htons a, h, htons_htons]

@[simp] lemma htons_and (a b : Word) : htons (a &&& b) = htons a &&& htons b := by
  refine BitVec.eq_of_getMsbD_eq fun j hj => ?_
  simp only [getMsbD_htons, BitVec.getMsbD_and]
  split_ifs <;> rfl

@[simp] lemma htons_or (a b : Word) : htons (a ||| b) = htons a ||| htons b := by
  refine BitVec.eq_of_getMsbD_eq fun j hj => ?_
  simp only [getMsbD_htons, BitVec.getMsbD_or]
  split_ifs <;> rfl

@[simp] lemma htons_xor (a b : Word) : htons (a ^^^ b) = htons a ^^^ htons b := by
  refine BitVec.eq_of_getMsbD_eq fun j hj => ?_
  simp only [getMsbD_htons, BitVec.getMsbD_xor]
  split_ifs <;> rfl

@[simp] lemma htons_not (a : Word) : htons (~~~a) = ~~~(htons a) := by
  refine BitVec.eq_of_getMsbD_eq fun j hj => ?_
  simp only [getMsbD_htons, BitVec.getMsbD_not, hj, decide_true, Bool.true_and]
  split_ifs with h8
  · simp [show j + 8 < 16 by omega]
  · simp [show j - 8 < 16 by omega]

@[simp] lemma htons_zero : htons 0#16 = 0#16 := by decide

/-! ## The structure -/

/-- `struct in6_addr`, through its 16-bit view. -/
structure In6Addr where
  s6Addr16 : Fin 8 → Word

namespace In6Addr

@[ext] lemma ext {a b : In6Addr} (h : ∀ i, a.s6Addr16 i = b.s6Addr16 i) : a = b := by
  cases a
  cases b
  congr
  exact funext h

instance : DecidableEq In6Addr := fun a b =>
  decidable_of_iff (∀ i, a.s6Addr16 i = b.s6Addr16 i) ⟨ext, fun h i => by rw [h]⟩

/-- The address with the given words, as the daemon writes it, word by word. -/
def ofWords (w0 w1 w2 w3 w4 w5 w6 w7 : Word) : In6Addr := ⟨![w0, w1, w2, w3, w4, w5, w6, w7]⟩

/-- `memset(&a, 0, sizeof(struct in6_addr))`. -/
def zero : In6Addr := ofWords 0 0 0 0 0 0 0 0

/-- `a.s6_addr16[i]`.  Past the eight words there is no address to read. -/
def word (a : In6Addr) (i : ℕ) : Word := if h : i < 8 then a.s6Addr16 ⟨i, h⟩ else 0

/-- `a.s6_addr16[i] = w`. -/
def setWord (a : In6Addr) (i : ℕ) (w : Word) : In6Addr :=
  ⟨fun j => if j.val = i then w else a.s6Addr16 j⟩

/-- The loop `for(j=0;j<8;j++) a->s6_addr16[j] = a->s6_addr16[j] | b.s6_addr16[j]`. -/
def or (a b : In6Addr) : In6Addr := ⟨fun i => a.s6Addr16 i ||| b.s6Addr16 i⟩

/-- Bit `p` of the address in network order, most significant first. -/
def bit (a : In6Addr) (p : ℕ) : Bool := (htons (a.word (p / 16))).getMsbD (p % 16)

/-- Bit `p` of the host part, the last 64 bits of the address. -/
def hostBit (a : In6Addr) (p : ℕ) : Bool := a.bit (64 + p)

lemma word_of_lt (a : In6Addr) {i : ℕ} (h : i < 8) : a.word i = a.s6Addr16 ⟨i, h⟩ := dif_pos h

lemma bit_of_ge (a : In6Addr) {p : ℕ} (h : 128 ≤ p) : a.bit p = false := by
  have hw : ¬ p / 16 < 8 := by omega
  simp [bit, word, hw]

lemma hostBit_of_ge (a : In6Addr) {p : ℕ} (h : 64 ≤ p) : a.hostBit p = false :=
  a.bit_of_ge (by omega)

/-- Two addresses with the same bits are the same address. -/
theorem ext_bit {a b : In6Addr} (h : ∀ p < 128, a.bit p = b.bit p) : a = b := by
  refine ext fun i => htons_injective (BitVec.eq_of_getMsbD_eq fun j hj => ?_)
  have hp := h (16 * i.val + j) (by omega)
  have hdiv : (16 * i.val + j) / 16 = i.val := by omega
  have hmod : (16 * i.val + j) % 16 = j := by omega
  simpa [bit, word, hdiv, hmod] using hp

/-- Addresses with the same 64-bit prefix are told apart by their host bits. -/
lemma ext_hostBit {a b : In6Addr} (hpre : ∀ p < 64, a.bit p = b.bit p)
    (hhost : ∀ p < 64, a.hostBit p = b.hostBit p) : a = b := by
  refine ext_bit fun p hp => ?_
  by_cases h : p < 64
  · exact hpre p h
  · have := hhost (p - 64) (by omega)
    rwa [hostBit, hostBit, show 64 + (p - 64) = p by omega] at this

@[simp] lemma word_setWord_self (a : In6Addr) {i : ℕ} (h : i < 8) (w : Word) :
    (a.setWord i w).word i = w := by
  simp [word, setWord, h]

lemma word_setWord_ne (a : In6Addr) {i j : ℕ} (h : j ≠ i) (w : Word) :
    (a.setWord i w).word j = a.word j := by
  simp [word, setWord, h]

@[simp] lemma bit_or (a b : In6Addr) (p : ℕ) : (a.or b).bit p = (a.bit p || b.bit p) := by
  by_cases h : p / 16 < 8 <;> simp [bit, word, or, h]

@[simp] lemma hostBit_or (a b : In6Addr) (p : ℕ) :
    (a.or b).hostBit p = (a.hostBit p || b.hostBit p) := bit_or a b _

@[simp] lemma bit_zero (p : ℕ) : zero.bit p = false := by
  by_cases hp : p < 128
  · have : ∀ q : Fin 128, zero.bit q.val = false := by decide
    exact this ⟨p, hp⟩
  · exact bit_of_ge _ (by omega)

end In6Addr

/-! ## The constants of `prim_addr_init` -/

/-- `root`, the first address of every hypercube: `2001:db8::1`. -/
def root : In6Addr := .ofWords 0x0120 0xb80d 0 0 0 0 0 0x0100

/-- `dir_default`, the address a node takes while it merges its network into another one:
`2001:db8::a`. -/
def dirDefault : In6Addr := .ofWords 0x0120 0xb80d 0 0 0 0 0 0x0a00

/-- The multicast address `ff02::1` that reaches every node in range. -/
def multicast : In6Addr := .ofWords 0x02ff 0 0 0 0 0 0 0x0100

/-- The root's only host bit is the last one. -/
@[simp] lemma hostBit_root (p : ℕ) : root.hostBit p = decide (p = 63) := by
  by_cases hp : p < 64
  · have : ∀ q : Fin 64, root.hostBit q.val = decide (q.val = 63) := by decide
    exact this ⟨p, hp⟩
  · rw [In6Addr.hostBit_of_ge _ (by omega), eq_comm, decide_eq_false_iff_not]
    omega

end Antop
