import Mathlib.Data.BitVec
import Mathlib.Data.Nat.Digits.Lemmas
import Mathlib.Tactic

/-!
# Numbers in memory

A number lies in memory as a fixed number of bytes, the low one first.

* `bytes`, `value` — the bytes of a number, and the number of some bytes.
* `value_bytes` — the bytes give the number back, where it fits.
-/

namespace LittleEndian

/-- A number as `n` bytes; what does not fit is lost. -/
def bytes : ℕ → ℕ → List (BitVec 8)
  | 0, _ => []
  | n + 1, v => BitVec.ofNat 8 v :: bytes n (v / 256)

/-- The number that some bytes are. -/
def value (bs : List (BitVec 8)) : ℕ := Nat.ofDigits 256 (bs.map BitVec.toNat)

@[simp] lemma length_bytes (n v : ℕ) : (bytes n v).length = n := by
  induction n generalizing v with
  | zero => rfl
  | succ n ih => rw [bytes, List.length_cons, ih]

@[simp] lemma value_nil : value [] = 0 := rfl

lemma value_cons (b : BitVec 8) (bs : List (BitVec 8)) : value (b :: bs) = b.toNat + 256 * value bs := by
  rw [value, List.map_cons, Nat.ofDigits_cons, value]

lemma value_lt (bs : List (BitVec 8)) : value bs < 256 ^ bs.length := by
  have hdigits : ∀ d ∈ bs.map BitVec.toNat, d < 256 := by
    intro d hd
    obtain ⟨b, -, rfl⟩ := List.mem_map.mp hd
    exact b.isLt
  rw [value]
  simpa using Nat.ofDigits_lt_base_pow_length (by decide : 1 < 256) hdigits

lemma value_bytes_mod (n v : ℕ) : value (bytes n v) = v % 256 ^ n := by
  induction n generalizing v with
  | zero => simp [bytes, Nat.mod_one]
  | succ n ih => rw [bytes, value_cons, ih, BitVec.toNat_ofNat, pow_succ' 256 n, Nat.mod_mul]

/-- **A number that fits** is read back. -/
lemma value_bytes {n v : ℕ} (h : v < 256 ^ n) : value (bytes n v) = v := by
  rw [value_bytes_mod, Nat.mod_eq_of_lt h]

end LittleEndian
