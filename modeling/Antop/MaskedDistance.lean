import Antop.Library.BitCount
import Antop.Rendezvous

/-!
# The distance under a mask

`dist_w_mask` compares whole words and then single bits down from the first one, and so does
`check_addr_space`; one counts what is different and the other stops at it.

* `distWMask_eq_bits` — the positions under the mask are counted, each of them once; `distWMask_eq_countP`
  says it of the host bits.
* `dist_w_mask_check_addr_space` — both look at the same positions.
-/

namespace Antop

open BitCount

variable {m : SinIniciar} {dst neigh : In6Addr}

/-- One bit of one word is one position of the host part. -/
lemma palabra_and_ne {i j : ℕ} (hi : i < 4) (hj : j < 16) :
    ((palabra dst m.trasDst (4 + i) &&& htons (pow2 j))
        != (palabra neigh m.trasNeigh (4 + i) &&& htons (pow2 j)))
      = (dst.hostBit (16 * i + (15 - j)) != neigh.hostBit (16 * i + (15 - j))) := by
  rw [palabra, palabra, if_pos (by omega), if_pos (by omega), Nat.add_comm 4 i, Bool.eq_iff_iff,
    bne_iff_ne, bne_iff_ne, ne_eq, ne_eq, word_and_eq_iff dst neigh hj]

/-- What `dist_w_mask` looks at for the position `p`, also behind the two addresses. -/
def bitDistinto (m : SinIniciar) (dst neigh : In6Addr) (p : ℕ) : Bool :=
  (palabra dst m.trasDst (4 + p / 16) &&& htons (pow2 (15 - p % 16)))
    != (palabra neigh m.trasNeigh (4 + p / 16) &&& htons (pow2 (15 - p % 16)))

/-- **Every mask**: whole words, each from its last bit, and then the bits of the next one from its first. -/
lemma distWMask_eq_bits (m : SinIniciar) (dst neigh : In6Addr) :
    distWMask m dst neigh = (List.range m.primMask.toNat).countP (bitDistinto m dst neigh) := by
  have hwords : 4 + m.primMask.toNat / 16 - 4 = m.primMask.toNat / 16 := by omega
  have hbits : 15 - (15 - m.primMask.toNat % 16) = m.primMask.toNat % 16 := by omega
  have hpos (i r : ℕ) (hr : r < 16) : (16 * i + r) / 16 = i ∧ (16 * i + r) % 16 = r := by omega
  unfold distWMask
  dsimp only
  rw [hwords, hbits]
  conv_rhs => rw [← Nat.div_add_mod m.primMask.toNat 16, countP_add, ← sum_countP_words]
  congr 1
  · congr 1
    refine List.map_congr_left fun i _ => countP_congr fun j hj => ?_
    rw [bitDistinto, (hpos i _ (by omega)).1, (hpos i _ (by omega)).2, show 15 - (16 - 1 - j) = j by omega]
  · refine countP_congr fun b hb => ?_
    rw [bitDistinto, (hpos _ b (by omega)).1, (hpos _ b (by omega)).2]

/-- Inside the addresses a position is a host bit. -/
lemma bitDistinto_of_lt {p : ℕ} (hp : p < 64) :
    bitDistinto m dst neigh p = (dst.hostBit p != neigh.hostBit p) := by
  rw [bitDistinto, palabra_and_ne (by omega) (by omega), show 15 - (15 - p % 16) = p % 16 by omega,
    Nat.div_add_mod]

/-- `dist_w_mask` counts the positions under the mask. -/
lemma distWMask_eq_countP (h : m.primMask.toNat ≤ 64) :
    distWMask m dst neigh
      = (List.range m.primMask.toNat).countP fun p => dst.hostBit p != neigh.hostBit p := by
  rw [distWMask_eq_bits]
  exact countP_congr fun p hp => bitDistinto_of_lt (by omega)

/-- **Distance and address space** agree: `dist_w_mask` is the number of positions under the mask in
which two addresses differ, and an address lies in the space of the other where there is none. -/
theorem dist_w_mask_check_addr_space (m : SinIniciar) (dst neigh : In6Addr)
    (h : m.primMask.toNat ≤ 64) :
    distWMask m dst neigh
        = (List.range m.primMask.toNat).countP (fun p => dst.hostBit p != neigh.hostBit p)
      ∧ (checkAddrSpace dst neigh m.primMask = 0
        ↔ (List.range m.primMask.toNat).countP (fun p => dst.hostBit p != neigh.hostBit p) = 0) := by
  refine ⟨distWMask_eq_countP h, ?_⟩
  rw [checkAddrSpace_eq_zero_iff, countP_eq_zero_iff]
  simp only [bne_eq_false_iff_eq]

/-- The second slot of the root is at distance one under a mask of two, and outside the space. -/
theorem dist_w_mask_check_addr_space_two :
    distWMask { SinIniciar.zero with primMask := 2 } (slotAddr root 1) root
        = (List.range 2).countP (fun p => (slotAddr root 1).hostBit p != root.hostBit p)
      ∧ (checkAddrSpace (slotAddr root 1) root 2 = 0
        ↔ (List.range 2).countP (fun p => (slotAddr root 1).hostBit p != root.hostBit p) = 0) :=
  dist_w_mask_check_addr_space { SinIniciar.zero with primMask := 2 } (slotAddr root 1) root (by decide)

end Antop
