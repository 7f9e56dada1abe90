import Antop.AddressWindow
import Antop.BlocksHandedOut

/-!
# Proposals of a secondary address

What `chk_sec_addr1` and `send_sap1` send to a node that is not a neighbour, in the full hypercube.

* `Node.bitPropio_eq` — the address of a round of the loop is the slot of its bit, or the primary address
  where that bit is set already; the test in `send_sap1` is what tells them apart.
* `Node.SapValido` — a proposal next to both nodes, from the recovered addresses or from the own block.
* **`Node.propuesta_valida`** — there is at most one proposal, and it is one of these.
-/

namespace Antop

namespace Node

/-! ## The address of a round -/

/-- A single bit that is moved on, round by round. -/
lemma bit_iterate_uno (n k : ℕ) {p : ℕ} (hp : p < 128) :
    ((shiftUnos 0 1)^[k] (shiftUnos 0 n (.ofWords 0x0080 0 0 0 0 0 0 0))).bit p = decide (p = n + k) := by
  induction k generalizing p with
  | zero => exact bit_uno n hp
  | succ k ih =>
      have hmas := bit_shiftUnos_right 1
        ((shiftUnos 0 1)^[k] (shiftUnos 0 n (.ofWords 0x0080 0 0 0 0 0 0 0))) hp
      rw [Nat.cast_one] at hmas
      rw [Function.iterate_succ_apply', hmas]
      by_cases h : 1 ≤ p
      · rw [ih (by omega)]
        simp [h, show p - 1 = n + k ↔ p = n + (k + 1) by omega]
      · simp [h, show ¬ p = n + (k + 1) by omega]

/-- The address of a round has one bit more. -/
lemma bit_bitPropio {n : Node} (hdim : n.hcDim = 64) (j : ℕ) {p : ℕ} (hp : p < 128) :
    (n.bitPropio j).bit p = (n.primAddr.bit p || decide (p = 64 + (n.primMask.toNat + j))) := by
  have hcast : ((n.hcDim : ℤ) + n.primMask.toNat - 1) = ((63 + n.primMask.toNat : ℕ) : ℤ) := by
    rw [hdim]
    push_cast
    ring
  rw [bitPropio, In6Addr.bit_or, hcast, bit_iterate_uno _ _ hp,
    show 63 + n.primMask.toNat + (j + 1) = 64 + (n.primMask.toNat + j) by omega]

/-- **The address of a round** that is next to the primary one is the slot of its bit. -/
lemma bitPropio_eq {n : Node} (hdim : n.hcDim = 64) {j : ℕ} (hj : n.primMask.toNat + j < 64)
    (hd : dist (n.bitPropio j) n.primAddr = 1) : n.bitPropio j = slotAddr n.primAddr (n.primMask.toNat + j) := by
  have hclear : n.primAddr.bit (64 + (n.primMask.toNat + j)) = false := by
    -- a bit that is set already would leave the primary address
    by_contra hset
    have hself : n.bitPropio j = n.primAddr := by
      refine In6Addr.ext_bit fun p hp => ?_
      rw [bit_bitPropio hdim j hp]
      by_cases h : p = 64 + (n.primMask.toNat + j)
      · rw [h, Bool.eq_true_of_not_eq_false hset, Bool.true_or]
      · simp [h]
    rw [hself, dist_eq_countP] at hd
    simp at hd
  refine In6Addr.ext_bit fun p hp => ?_
  rw [bit_bitPropio hdim j hp, bit_slotAddr n.primAddr hj]
  by_cases h : p = 64 + (n.primMask.toNat + j)
  · rw [if_pos h, h, hclear]
    simp
  · simp [h]

/-! ## What is sent -/

/-- The address is in the block of the node under a longer mask, and differs from the primary address in
the last bit of the mask. -/
structure DelBloque (n : Node) (addr : In6Addr) (mask : UChar) : Prop where
  mascara : n.primMask < mask ∧ mask.toNat ≤ n.hcDim
  bloque : PrefixBlock.Block.Mem addr.hostBit (block n.primAddr n.primMask.toNat)
  bit : ∀ p < 128, addr.bit p = if p = 64 + (mask.toNat - 1) then !n.primAddr.bit p else n.primAddr.bit p

/-- A valid proposal to a node with the address `neigh`: a `SAP` with an address next to both, which is a
recovered one with its mask or one of the own block. -/
structure SapValido (n : Node) (neigh : In6Addr) (p : In6Addr × CtrlPkt) : Prop where
  destino : p.1 = neigh
  tipo : p.2.pktTypeF = .sap
  propia : dist p.2.adAddr.addr n.primAddr = 1
  vecina : dist p.2.adAddr.addr neigh = 1
  origen : (∃ it ∈ n.rcvdAddr, p.2.adAddr.addr = it.primAddr ∧ p.2.adAddr.mask = it.primMask)
    ∨ n.DelBloque p.2.adAddr.addr p.2.adAddr.mask

/-- A slot of the own block. -/
lemma delBloque_slotAddr {n : Node} {j : ℕ} (hdim : n.hcDim = 64) (hj : n.primMask.toNat + j < 64) :
    n.DelBloque (slotAddr n.primAddr (n.primMask.toNat + j)) (n.primMask + BitVec.ofNat 8 (j + 1)) := by
  have hmask : (n.primMask + BitVec.ofNat 8 (j + 1)).toNat = n.primMask.toNat + j + 1 := by
    rw [BitVec.toNat_add, BitVec.toNat_ofNat]
    omega
  refine ⟨⟨?_, ?_⟩, fun p hp => ?_, fun p _ => ?_⟩
  · rw [BitVec.lt_def, hmask]
    omega
  · rw [hmask, hdim]
    omega
  · have hlt : p < n.primMask.toNat := hp
    rw [hostBit_slotAddr n.primAddr hj, if_neg (by omega)]
    rfl
  · rw [bit_slotAddr n.primAddr hj, hmask, Nat.add_sub_cancel]

/-- **What is proposed** to a node. -/
lemma sapPropuesta_valida {env : Env} {neigh : In6Addr} {n : Node} (hdim : n.hcDim = 64)
    {c : In6Addr × UChar} (hc : n.sapPropuesta neigh = some c) : n.SapValido neigh (neigh, n.sapPkt env c) := by
  have hfind : (n.candidatas neigh).find? (fun c => dist c.1 n.primAddr = 1) = some c := by
    unfold sapPropuesta at hc
    split_ifs at hc
    exact hc
  have hpropia : dist c.1 n.primAddr = 1 := by simpa using List.find?_some hfind
  cases hrec : n.rcvdAddr.find? fun it => dist it.primAddr neigh = 1 with
  | some it =>
      -- a recovered address, the only candidate
      have hvecina : dist it.primAddr neigh = 1 := by simpa using List.find?_some hrec
      have hcand : n.candidatas neigh = [(it.primAddr, it.primMask)] := by
        unfold candidatas
        rw [hrec]
      have hmem := List.mem_of_find?_eq_some hfind
      rw [hcand, List.mem_singleton] at hmem
      subst hmem
      exact ⟨rfl, rfl, hpropia, hvecina, Or.inl ⟨it, List.mem_of_find?_eq_some hrec, rfl, rfl⟩⟩
  | none =>
      rw [propuesta_propia_eq neigh n hrec] at hfind
      split_ifs at hfind with hlleno
      obtain ⟨j, hj, heq⟩ := Option.map_eq_some_iff.mp hfind
      obtain ⟨hsirve, hjlt, -⟩ := List.find?_range_eq_some.mp hj
      have hsirve : n.sirve neigh j := by simpa using hsirve
      have hjlt : n.primMask.toNat + j < 64 := by
        have := List.mem_range.mp hjlt
        omega
      have hslot : c.1 = slotAddr n.primAddr (n.primMask.toNat + j) := by
        rw [← heq]
        exact bitPropio_eq hdim hjlt hsirve.2
      have hmask : c.2 = n.primMask + BitVec.ofNat 8 (j + 1) := by rw [← heq]
      have hvecina : dist c.1 neigh = 1 := by
        rw [← heq]
        exact hsirve.1
      refine ⟨rfl, rfl, hpropia, hvecina, Or.inr ?_⟩
      have hbloque := delBloque_slotAddr hdim hjlt
      rw [← hslot, ← hmask] at hbloque
      exact hbloque

/-- **Proposals are valid**: in the full hypercube `chk_sec_addr1` sends at most one, whatever the node has
recovered and wherever the other node is. -/
theorem propuesta_valida (env : Env) (neigh : In6Addr) {n : Node} (hdim : n.hcDim = 64) :
    ∃ saps, (n.chkSecAddr1 env neigh).out = n.out ++ saps ∧ saps.length ≤ 1
      ∧ ∀ p ∈ saps, n.SapValido neigh p := by
  refine ⟨_, (chkSecAddr1_out env neigh n).1, ?_, ?_⟩
  · cases n.sapPropuesta neigh <;> simp
  · intro p hp
    obtain ⟨c, hc, rfl⟩ : ∃ c, n.sapPropuesta neigh = some c ∧ (neigh, n.sapPkt env c) = p := by
      simpa using hp
    exact sapPropuesta_valida hdim hc

/-- A child of the root that hears its sibling proposes the address between them. -/
theorem propuesta_valida_hermano :
    ∃ saps, (hijo.chkSecAddr1 .zero (slotAddr root 1)).out = hijo.out ++ saps ∧ saps.length ≤ 1
      ∧ ∀ p ∈ saps, hijo.SapValido (slotAddr root 1) p :=
  propuesta_valida .zero (slotAddr root 1) rfl

/-- It is sent. -/
example : (hijo.chkSecAddr1 .zero (slotAddr root 1)).out.map (fun p => (p.1, p.2.adAddr.addr, p.2.adAddr.mask))
    = [(slotAddr root 1, slotAddr (slotAddr root 0) 1, 2)] := by decide +kernel

end Node

end Antop
