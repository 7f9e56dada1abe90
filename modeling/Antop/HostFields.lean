import Antop.FromAddress
import Antop.Library.LittleEndian

/-!
# Fields in the order of the host

What the daemon shares with the kernel, and the packets of its own protocol, are structures as they lie in the
memory of the host: the low byte of a number comes first.

* `campoHost` — a number in memory.
* `In6Addr.ofBytes` — the address that 16 bytes are, which reads `In6Addr.bytes` back.
-/

namespace Antop

open Memory

/-- A field of `n` bytes at an offset. -/
def campoHost (m : List UChar) (off n : ℕ) : ℕ := LittleEndian.value (slice m off n)

lemma campoHost_lt (m : List UChar) (off n : ℕ) : campoHost m off n < 256 ^ n := by
  refine (LittleEndian.value_lt _).trans_le (Nat.pow_le_pow_right (by decide) ?_)
  rw [slice]
  exact List.length_take_le n _

lemma slice_put_bytes {m : List UChar} {off n : ℕ} (v : ℕ) (h : off + n ≤ m.length) :
    slice (put m off (LittleEndian.bytes n v)) off n = LittleEndian.bytes n v := by
  have hread : slice (put m off (LittleEndian.bytes n v)) off (LittleEndian.bytes n v).length
      = LittleEndian.bytes n v := slice_put_self (by simpa using h)
  rwa [LittleEndian.length_bytes] at hread

/-- **A field that has been written**, with what fits in it. -/
lemma campoHost_put_self {m : List UChar} {off n : ℕ} (v : ℕ) (h : off + n ≤ m.length) :
    campoHost (put m off (LittleEndian.bytes n v)) off n = v % 256 ^ n := by
  rw [campoHost, slice_put_bytes v h, LittleEndian.value_bytes_mod]

lemma campoHost_put_of_disjoint {m bs : List UChar} {off i n : ℕ} (h : i + n ≤ off ∨ off + bs.length ≤ i) :
    campoHost (put m off bs) i n = campoHost m i n := by
  rw [campoHost, slice_put_of_disjoint h, campoHost]

/-- A field beside those that are written. -/
lemma campoHost_puts {m : List UChar} {ws : List (ℕ × List UChar)} {i n : ℕ}
    (h : ∀ w ∈ ws, i + n ≤ w.1 ∨ w.1 + w.2.length ≤ i) : campoHost (puts m ws) i n = campoHost m i n := by
  rw [campoHost, slice_puts_of_disjoint h, campoHost]

/-- **A piece of memory** has its bytes wherever it lies. -/
lemma byte_lugar {m u : List UChar} {off : ℕ} (hu : slice m off u.length = u) {i : ℕ} (hi : i < u.length) :
    byte m (off + i) = byte u i := by
  have hget := getElem?_slice m off u.length i
  rw [hu, if_pos hi] at hget
  rw [byte, byte, List.getD_eq_getElem?_getD, List.getD_eq_getElem?_getD, hget]

lemma byte_of_slice {m : List UChar} {off : ℕ} {b : UChar} (h : slice m off 1 = [b]) : byte m off = b :=
  byte_lugar (u := [b]) h Nat.zero_lt_one

lemma byte_congr {m m' : List UChar} {i : ℕ} (h : slice m i 1 = slice m' i 1) : byte m i = byte m' i := by
  have hhead : (slice m i 1).head?.getD 0 = (slice m' i 1).head?.getD 0 := by rw [h]
  simpa [slice, byte, List.getD_eq_getElem?_getD, List.head?_take, List.head?_drop] using hhead

/-- Its fields of two bytes, too. -/
lemma campo16_lugar {m u : List UChar} {off : ℕ} (hu : slice m off u.length = u) {i : ℕ} (hi : i + 1 < u.length) :
    campo16 m (off + i) = campo16 u i := by
  rw [campo16, campo16, byte_lugar hu (by omega), Nat.add_assoc, byte_lugar hu hi]

/-- The address that 16 bytes are. -/
def In6Addr.ofBytes (bs : List UChar) : In6Addr :=
  ⟨fun i => BitVec.ofNat 16 (campoHost bs (2 * i) 2)⟩

/-- A word in two bytes. -/
lemma value_word (w : Word) :
    LittleEndian.value [w.setWidth 8, (w >>> 8).setWidth 8] = w.toNat := by
  have hw : w.toNat < 65536 := w.isLt
  rw [LittleEndian.value_cons, LittleEndian.value_cons, LittleEndian.value_nil, BitVec.toNat_setWidth,
    BitVec.toNat_setWidth, BitVec.toNat_ushiftRight, Nat.shiftRight_eq_div_pow]
  omega

/-- **An address** is read back. -/
@[simp] lemma In6Addr.ofBytes_bytes (a : In6Addr) : In6Addr.ofBytes a.bytes = a := by
  refine In6Addr.ext fun i => ?_
  have hword : slice a.bytes (2 * i) 2 = [(a.s6Addr16 i).setWidth 8, (a.s6Addr16 i >>> 8).setWidth 8] := by
    fin_cases i <;> rfl
  change BitVec.ofNat 16 (LittleEndian.value (slice a.bytes (2 * i) 2)) = a.s6Addr16 i
  rw [hword, value_word, BitVec.ofNat_toNat, BitVec.setWidth_eq]

end Antop
