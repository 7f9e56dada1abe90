import Antop.CheckSuccesor
import Antop.Dispatch

/-!
# The slot and its successor

`send_pap` proposes a slot of the own block, and `check_succesor` is asked about it when the node that
took the slot is gone.

* `checkSuccesor_slotAddr` — `check_succesor` at a node and one of its slots, in terms of host bits: it
  only looks at the rest of the word the slot falls in.
* `rcvdAddr_checkNeighborsLoop` — what `check_neighbors` recovers.
* `concuerda_iff` — the two agree for the slots of the first three words.  In the last word stands the
  root's own bit.
-/

namespace Antop

variable {a b : In6Addr}

/-! ## Addresses that differ in one bit -/

/-- Words that are equal do not count. -/
lemma checkSuccesorWords_iguales {is : List ℕ} (h : ∀ i ∈ is, a.word i = b.word i) (mask : Word) (d : ℕ)
    (s : Bool) : checkSuccesorWords a b is mask d s = some (d == 1 && s) := by
  induction is with
  | nil => rfl
  | cons i is ih =>
      rw [checkSuccesorWords, if_pos (h i List.mem_cons_self)]
      exact ih fun k hk => h k (List.mem_cons_of_mem i hk)

/-- **One word differs.**  The answer depends on the first bit in it that does, and on those behind. -/
lemma checkSuccesorWords_una {is : List ℕ} (hnodup : is.Nodup) {i p : ℕ} (hi : i ∈ is) (hp : p < 16)
    (hotras : ∀ k ∈ is, k ≠ i → a.word k = b.word k)
    (hbefore : ∀ r < p, (htons (a.word i)).getMsbD r = (htons (b.word i)).getMsbD r)
    (hdiff : (htons (a.word i)).getMsbD p ≠ (htons (b.word i)).getMsbD p) :
    checkSuccesorWords a b is (maskAt 0) 0 false
      = some (decide ((htons (a.word i)).getMsbD p = false
          ∧ CerosDesde (htons (a.word i)) (htons (b.word i)) (p + 1))) := by
  induction is with
  | nil => exact absurd hi List.not_mem_nil
  | cons k is ih =>
      obtain ⟨hk, hnodup⟩ := List.nodup_cons.mp hnodup
      rw [checkSuccesorWords]
      by_cases hki : k = i
      · subst hki
        have hne : a.word k ≠ b.word k := fun heq => hdiff (by rw [heq])
        have hfirst := firstDifference_eq_some hdiff (Nat.zero_le p) (fun r _ => hbefore r)
          (show p < 0 + 17 by omega)
        obtain ⟨hskip, hstop⟩ := skipZeros_spec (htons (a.word k)) (htons (b.word k))
          (show p ≤ 16 by omega) (show 16 ≤ p + 16 by omega)
        have hresto (c : ℕ) (hc : c ∈ is) : a.word c = b.word c :=
          hotras c (List.mem_cons_of_mem k hc) fun heq => hk (heq ▸ hc)
        rw [if_neg hne]
        simp only [hfirst, maskAt_succ]
        by_cases hceros : CerosDesde (htons (a.word k)) (htons (b.word k)) (p + 1)
        · have hflag : (htons (a.word k) &&& maskAt p == 0)
              = decide ((htons (a.word k)).getMsbD p = false) := by
            rw [Bool.eq_iff_iff, beq_iff_eq, decide_eq_true_eq, and_maskAt_eq_zero_iff]
          rw [hskip hceros]
          simp only [ne_eq, not_true_eq_false, if_false, checkSuccesorWords_iguales hresto]
          rw [hflag, Bool.decide_and, decide_eq_true hceros]
          simp
        · simp [hstop hceros, hceros]
      · rw [if_pos (hotras k List.mem_cons_self hki)]
        exact ih hnodup ((List.mem_cons.mp hi).resolve_left (Ne.symm hki))
          fun c hc => hotras c (List.mem_cons_of_mem k hc)

/-- A bit of a host word. -/
lemma getMsbD_htons_word (a : In6Addr) (w : ℕ) {r : ℕ} (hr : r < 16) :
    (htons (a.word (4 + w))).getMsbD r = a.hostBit (16 * w + r) := by
  rw [In6Addr.hostBit, In6Addr.bit, show (64 + (16 * w + r)) / 16 = 4 + w by omega,
    show (64 + (16 * w + r)) % 16 = r by omega]

/-- Taking a slot twice leads back. -/
lemma slotAddr_slotAddr (a : In6Addr) {m : ℕ} (hm : m < 64) : slotAddr (slotAddr a m) m = a := by
  refine In6Addr.ext_bit fun p _ => ?_
  rw [bit_slotAddr _ hm, bit_slotAddr _ hm]
  by_cases hp : p = 64 + m
  · simp [hp]
  · simp [hp]

/-- **A node and its slot**: the slot is a successor when the bit that is flipped is a zero here, and
zeros follow to the end of the word. -/
theorem checkSuccesor_slotAddr (a : In6Addr) {m : ℕ} (hm : m < 64) :
    checkSuccesor a (slotAddr a m) = some (decide (a.hostBit m = false
      ∧ ∀ p < 16 * (m / 16) + 16, m < p → a.hostBit p = false)) := by
  have hbit {r : ℕ} (hr : r < 16) : (htons ((slotAddr a m).word (4 + m / 16))).getMsbD r
      = if r = m % 16 then !a.hostBit m else a.hostBit (16 * (m / 16) + r) := by
    rw [getMsbD_htons_word _ _ hr, hostBit_slotAddr a hm]
    by_cases h : r = m % 16
    · rw [if_pos (by omega), if_pos h, show 16 * (m / 16) + r = m by omega]
    · rw [if_neg (by omega), if_neg h]
  have hown : (htons (a.word (4 + m / 16))).getMsbD (m % 16) = a.hostBit m := by
    rw [getMsbD_htons_word _ _ (by omega), Nat.div_add_mod]
  have hceros : CerosDesde (htons (a.word (4 + m / 16))) (htons ((slotAddr a m).word (4 + m / 16)))
      (m % 16 + 1) ↔ ∀ p < 16 * (m / 16) + 16, m < p → a.hostBit p = false := by
    constructor
    · intro h p hp hmp
      have hr := (h (p - 16 * (m / 16)) (by omega) (by omega)).1
      rwa [getMsbD_htons_word _ _ (by omega), show 16 * (m / 16) + (p - 16 * (m / 16)) = p by omega] at hr
    · intro h r hr hmr
      have hzero := h (16 * (m / 16) + r) (by omega) (by omega)
      rw [hbit hr, if_neg (by omega), getMsbD_htons_word _ _ hr]
      exact ⟨hzero, hzero⟩
  rw [checkSuccesor, show pow2 15 = maskAt 0 by decide,
    checkSuccesorWords_una (i := 4 + m / 16) (p := m % 16) (by decide) (by simp; omega) (by omega) ?_ ?_ ?_,
    hown]
  · simp only [hceros]
  · intro k _ hk
    rw [slotAddr_eq_setWord, In6Addr.word_setWord_ne _ hk]
  · intro r hr
    rw [hbit (by omega), if_neg (by omega), getMsbD_htons_word _ _ (by omega)]
  · rw [hbit (by omega), if_pos rfl, hown]
    cases a.hostBit m <;> decide

/-! ## What `check_neighbors` recovers -/

namespace Node

/-- The neighbours that were not heard, and whose space `check_neighbors` recovers. -/
def seRecupera (primAddr : In6Addr) (it : Neighbor) : Bool :=
  decide (nInact ≤ it.count) && (checkSuccesor primAddr it.primAddr == some true)

/-- The entry of `rcvd_addr` for a neighbour that is gone. -/
def recuperada (it : Neighbor) : RecoveredAddr := { primMask := it.primMaskInicial, primAddr := it.primAddr }

/-- **What is recovered**: the blocks of the successors that were not heard, in the order of the table. -/
lemma rcvdAddr_checkNeighborsLoop {visited its : List Neighbor} {n n' : Node}
    (h : checkNeighborsLoop visited its n = some n') :
    n'.rcvdAddr = n.rcvdAddr ++ (its.filter (seRecupera n.primAddr)).map recuperada := by
  induction its generalizing visited n with
  | nil =>
      obtain rfl := Option.some.inj h
      simp
  | cons it its ih =>
      -- an entry that is only aged stays
      have hotra (hcount : ¬ nInact ≤ it.count) :
          (it :: its).filter (seRecupera n.primAddr) = its.filter (seRecupera n.primAddr) := by
        rw [List.filter_cons_of_neg]
        simp [seRecupera, hcount]
      rw [checkNeighborsLoop] at h
      split_ifs at h with h0 h1 hage hstale
      · rw [ih h, hotra (by rw [h0]; decide)]
      · rw [ih h, hotra (by rw [h1]; decide)]
      · rw [ih h, hotra (not_le.mpr hage.2)]
      · split at h
        · exact absurd h (by simp)
        · next succesor hsuc =>
          dsimp only at h
          rw [ih h]
          cases succesor with
          | true =>
              rw [List.filter_cons_of_pos (by simp [seRecupera, hstale, hsuc])]
              simp [recoverAddrSpace, recuperada]
          | false =>
              rw [List.filter_cons_of_neg (by simp [seRecupera, hsuc])]
              rfl
      · rw [ih h, hotra hstale]

/-- The loop ends when each of its calls of `check_succesor` does. -/
lemma exists_checkNeighborsLoop {visited its : List Neighbor} {n : Node}
    (h : ∀ it ∈ its, nInact ≤ it.count → (checkSuccesor n.primAddr it.primAddr).isSome) :
    ∃ n', checkNeighborsLoop visited its n = some n' := by
  induction its generalizing visited n with
  | nil => exact ⟨_, rfl⟩
  | cons it its ih =>
      have hresto {m : Node} (hm : m.primAddr = n.primAddr) :
          ∀ e ∈ its, nInact ≤ e.count → (checkSuccesor m.primAddr e.primAddr).isSome := by
        rw [hm]
        exact fun e he => h e (List.mem_cons_of_mem it he)
      rw [checkNeighborsLoop]
      split_ifs with h0 h1 hage hstale
      · exact ih (hresto rfl)
      · exact ih (hresto rfl)
      · exact ih (hresto rfl)
      · obtain ⟨succesor, hsuc⟩ := Option.isSome_iff_exists.mp (h it List.mem_cons_self hstale)
        rw [hsuc]
        refine ih (hresto ?_)
        cases succesor <;> rfl
      · exact ih (hresto rfl)

/-- `check_neighbors` ends and recovers, when its calls of `check_succesor` end. -/
lemma exists_checkNeighbors {n : Node} (env : Env)
    (h : ∀ it ∈ n.neighTable, nInact ≤ it.count → (checkSuccesor n.primAddr it.primAddr).isSome) :
    ∃ n', n.checkNeighbors env = some n'
      ∧ n'.rcvdAddr = n.rcvdAddr ++ (n.neighTable.filter (seRecupera n.primAddr)).map recuperada := by
  obtain ⟨m, hm⟩ : ∃ m, checkNeighborsLoop [] n.neighTable n = some m := exists_checkNeighborsLoop h
  refine ⟨_, by rw [checkNeighbors, hm]; rfl, ?_⟩
  rw [← rcvdAddr_checkNeighborsLoop hm]
  rfl

/-! ## Agreement -/

/-- What `send_pap` proposes is a successor for `check_succesor`, and not the other way round; when the
node that took it is gone, `check_neighbors` recovers its block. -/
structure Concuerda (env : Env) (n : Node) : Prop where
  acepta : checkSuccesor n.primAddr (n.proposal env).1.adAddr.addr = some true
  rechaza : checkSuccesor (n.proposal env).1.adAddr.addr n.primAddr = some false
  recupera : ∀ (env' : Env) (m : Node), m.primAddr = n.primAddr →
    (∀ it ∈ m.neighTable, nInact ≤ it.count → (checkSuccesor m.primAddr it.primAddr).isSome) →
    ∀ it ∈ m.neighTable, it.primAddr = (n.proposal env).1.adAddr.addr → nInact ≤ it.count →
      ∃ m', m.checkNeighbors env' = some m' ∧ recuperada it ∈ m'.rcvdAddr

variable {env : Env} {n : Node}

/-- Without a recovered address to offer, `send_pap` proposes a slot. -/
lemma addr_proposal (hm : n.primMask.toNat < n.hcDim) (hpropia : n.rcvdAddr = [] ∨ n.rcvdOffered ≠ none) :
    (n.proposal env).1.adAddr.addr = slotAddr n.primAddr n.primMask.toNat := by
  unfold proposal
  dsimp only
  split
  · next rcvdAux hlast hnone =>
    rcases hpropia with hnil | hsome
    · rw [hnil] at hlast
      exact absurd hlast (by simp)
    · exact absurd hnone hsome
  · rw [if_neg (Nat.not_le.mpr hm)]

/-- **Allocation and recovery agree** exactly for the slots of the first three host words. -/
theorem concuerda_iff (env : Env) (n : Node) (hdim : n.hcDim ≤ 64) (hm : n.primMask.toNat < n.hcDim)
    (hhost : ∀ p, n.primMask.toNat ≤ p → n.primAddr.hostBit p = root.hostBit p)
    (hpropia : n.rcvdAddr = [] ∨ n.rcvdOffered ≠ none) :
    n.Concuerda env ↔ n.primMask.toNat < 48 := by
  have hm64 : n.primMask.toNat < 64 := lt_of_lt_of_le hm hdim
  have haddr : (n.proposal env).1.adAddr.addr = slotAddr n.primAddr n.primMask.toNat :=
    addr_proposal hm hpropia
  constructor
  · intro h
    have hacepta := h.acepta
    rw [haddr, checkSuccesor_slotAddr _ hm64, Option.some.injEq, decide_eq_true_eq] at hacepta
    by_contra hge
    -- the root's bit is the one that is flipped, or one of those behind it in the word
    rcases Nat.lt_or_ge n.primMask.toNat 63 with hlt | h63
    · have hultimo := hacepta.2 63 (by omega) hlt
      rw [hhost 63 hlt.le, hostBit_root] at hultimo
      exact absurd hultimo (by decide)
    · have hultimo := hacepta.1
      rw [hhost _ le_rfl, hostBit_root, decide_eq_true (by omega)] at hultimo
      exact absurd hultimo (by decide)
  · intro hlt
    have hceros (p : ℕ) (hp : n.primMask.toNat ≤ p) (h63 : p < 63) : n.primAddr.hostBit p = false := by
      rw [hhost p hp, hostBit_root, decide_eq_false (by omega)]
    have hacepta : checkSuccesor n.primAddr (slotAddr n.primAddr n.primMask.toNat) = some true := by
      rw [checkSuccesor_slotAddr _ hm64, Option.some.injEq, decide_eq_true_eq]
      exact ⟨hceros _ le_rfl (by omega), fun p h16 hp => hceros p hp.le (by omega)⟩
    refine ⟨by rw [haddr, hacepta], ?_, ?_⟩
    · have hback := checkSuccesor_slotAddr (slotAddr n.primAddr n.primMask.toNat) hm64
      rw [slotAddr_slotAddr _ hm64] at hback
      rw [haddr, hback, Option.some.injEq, decide_eq_false_iff_not, hostBit_slotAddr _ hm64, if_pos rfl,
        hceros _ le_rfl (by omega)]
      exact fun h => absurd h.1 (by decide)
    · intro env' m hprim hends it hit hitaddr hstale
      obtain ⟨m', hm', hrcvd⟩ := exists_checkNeighbors env' hends
      refine ⟨m', hm', ?_⟩
      rw [hrcvd]
      refine List.mem_append_right _ (List.mem_map_of_mem (List.mem_filter.mpr ⟨hit, ?_⟩))
      rw [seRecupera, hprim, hitaddr, haddr, hacepta, decide_eq_true hstale]
      rfl

/-- The first child of the root and its first slot. -/
theorem concuerda_hijo : hijo.Concuerda .zero ↔ hijo.primMask.toNat < 48 := by
  refine concuerda_iff .zero hijo (by decide) (by decide) (fun p hp => ?_) (by decide)
  have hp : ¬ p = 0 := by
    change 1 ≤ p at hp
    omega
  rw [show hijo.primAddr = slotAddr root 0 from rfl, hostBit_slotAddr root (by decide), if_neg hp]

/-- The root after 48 joins. -/
def raizLlena : Node := { primAddrInit 64 "r" with primMask := 48 }

/-- Its next child is not taken for a successor. -/
theorem child_not_recovered :
    ¬ ∀ (env : Env) (n : Node), n.hcDim ≤ 64 → n.primMask.toNat < n.hcDim →
      (∀ p, n.primMask.toNat ≤ p → n.primAddr.hostBit p = root.hostBit p) →
      (n.rcvdAddr = [] ∨ n.rcvdOffered ≠ none) → n.Concuerda env := by
  intro h
  have hacepta := (h .zero raizLlena (by decide) (by decide) (fun _ _ => rfl) (by decide)).acepta
  exact absurd hacepta (by decide)

end Node

end Antop
