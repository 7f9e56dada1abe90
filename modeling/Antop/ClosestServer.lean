import Antop.BranchArithmetic
import Antop.MaskedDistance

/-!
# The server that is asked

`solve_name` sends its lookup to the server it finds closest, by `dist_w_mask`, whose mask is a field of a
local variable that nothing has set.  The two servers of a name differ in their branch bits alone, so the mask
matters only where it cuts these.

* `bit_rvServer` — what the servers of a name have in common.
* `distWMask_resta`, `hamming_resta` — both distances, apart from the branch bits, are the same for the two.
* `OrdenFiel` — the branch bits under the mask order the two branches as all of them do.
* **`consulta_cercana_iff`** — when the lookup goes to the closest server.
-/

namespace Antop

open CString BitCount

/-- The number of bits in which two addresses differ. -/
def hamming (a b : In6Addr) : ℕ := (List.range 128).countP fun p => a.bit p != b.bit p

namespace Rendezvous

/-- What a call of `solve_name` sends. -/
def consultas (s s' : Rendezvous) : List (In6Addr × RvCtrlPkt) := s'.node.rvOut.drop s.node.rvOut.length

/-- What `solve_name` sends goes to a server of the name, and no other one is closer to the node. -/
def ConsultaCercana (m : SinIniciar) (uaddr : List UChar) (s : Rendezvous) : Prop :=
  ∀ s' servers, s.solveName m uaddr = some s' → distributeInHc s.node.hcDim nserverRv uaddr [] = some servers →
    ∀ c ∈ consultas s s', c.1 ∈ servers
      ∧ ∀ addr ∈ servers, hamming s.node.primAddr c.1 ≤ hamming s.node.primAddr addr

end Rendezvous

/-- The branch bits among the first `k` in which a node is not in the branch. -/
def distRama (k : ℕ) (n : In6Addr) (rama : Word) : ℕ :=
  (List.range (min k branchBits)).countP fun p => n.hostBit p != rama.getLsbD (branchBits - 1 - p)

/-- The first `k` branch bits say of the two branches what all of them say: the second one, if it is closer
in these, is no farther, and otherwise the first one is not. -/
def OrdenFiel (k : ℕ) (n : In6Addr) (rama₀ rama₁ : Word) : Prop :=
  if distRama k n rama₁ < distRama k n rama₀ then distRama branchBits n rama₁ ≤ distRama branchBits n rama₀
  else distRama branchBits n rama₀ ≤ distRama branchBits n rama₁

/-- A mask that covers the branch bits. -/
lemma ordenFiel_of_le {k : ℕ} (hk : branchBits ≤ k) (n : In6Addr) (rama₀ rama₁ : Word) :
    OrdenFiel k n rama₀ rama₁ := by
  have hall (rama : Word) : distRama k n rama = distRama branchBits n rama := by
    rw [distRama, distRama, min_eq_right hk, min_self]
  rw [OrdenFiel, hall, hall]
  split_ifs with hlt
  · exact hlt.le
  · exact not_lt.mp hlt

/-! ## The servers of a name -/

/-- Outside the branch bits a server has the bits of the hash. -/
lemma bit_rvServer {hcDim : ℕ} {uAddr : List UChar} {i : ℕ} {addr : In6Addr}
    (h : rvServer hcDim uAddr i = some addr) {p : ℕ} (hp : ¬ (64 ≤ p ∧ p < 70)) :
    addr.bit p = (hash2Hc hcDim uAddr).bit p := by
  have hbits : 16 - branchBits = 10 := by decide
  have hmask : ~~~(((List.range branchBits).map fun j => pow2 j).sum <<< 10) = 0x03ff#16 := by decide
  unfold rvServer at h
  split at h
  next primero ultimo _ _ =>
    simp only [hbits, hmask, Option.some.injEq] at h
    rw [← h, In6Addr.bit, In6Addr.bit]
    by_cases hword : p / 16 = 4
    · have hj : 6 ≤ p % 16 ∧ p % 16 < 16 := ⟨by omega, by omega⟩
      have hdentro : (0x03ff#16).getMsbD (p % 16) = true := by
        generalize p % 16 = j at hj
        obtain ⟨hj₁, hj₂⟩ := hj
        interval_cases j <;> decide
      rw [hword, In6Addr.word_setWord_self _ (by omega), In6Addr.word_setWord_self _ (by omega)]
      simp only [htons_or, htons_htons, htons_and, BitVec.getMsbD_or, BitVec.getMsbD_and, hdentro,
        Bool.and_true]
      rw [BitVec.getMsbD_shiftLeft, BitVec.getMsbD_of_ge (branch i primero ultimo) _ (by omega), Bool.or_false]
    · rw [In6Addr.word_setWord_ne _ hword, In6Addr.word_setWord_ne _ hword]
  · exact absurd h (by simp)

/-- Two servers that differ in their branch bits alone. -/
structure Servidores (uAddr : List UChar) (s₀ s₁ : In6Addr) : Prop where
  rama₀ : ∀ p < 6, s₀.hostBit p = (numeroDeRama 0 uAddr 0).getLsbD (5 - p)
  rama₁ : ∀ p < 6, s₁.hostBit p = (numeroDeRama 0 uAddr 1).getLsbD (5 - p)
  resto : ∀ p, ¬ (64 ≤ p ∧ p < 70) → s₀.bit p = s₁.bit p

lemma exists_servidores (hcDim : ℕ) {uAddr : List UChar} (h : uAddr ≠ []) :
    ∃ s₀ s₁, distributeInHc hcDim nserverRv uAddr [] = some [s₀, s₁] ∧ Servidores uAddr s₀ s₁ := by
  have ha := head?_eq_uAddrPrimero h
  have hz := getLast?_eq_uAddrUltimo 0 h
  obtain ⟨s₀, h₀⟩ := exists_rvServer hcDim h 0
  obtain ⟨s₁, h₁⟩ := exists_rvServer hcDim h 1
  refine ⟨s₀, s₁, distributeInHc_dos h₀ h₁ [], fun _ => hostBit_rvServer ha hz h₀,
    fun _ => hostBit_rvServer ha hz h₁, fun p hp => ?_⟩
  rw [bit_rvServer h₀ hp, bit_rvServer h₁ hp]

/-! ## The distances -/

/-- The branch bits of a server are those of its branch. -/
lemma distRama_eq {k : ℕ} (n : In6Addr) {s : In6Addr} {rama : Word}
    (h : ∀ p < 6, s.hostBit p = rama.getLsbD (5 - p)) :
    ((List.range (min k 6)).countP fun p => n.hostBit p != s.hostBit p) = distRama k n rama :=
  countP_congr fun p hp => by rw [h p (by omega)]; rfl

namespace Servidores

variable {uAddr : List UChar} {s₀ s₁ : In6Addr}

/-- **Under the mask** the servers are told apart by their branch bits. -/
lemma distWMask_resta (h : Servidores uAddr s₀ s₁) (m : SinIniciar) (n : In6Addr) :
    ∃ resto, distWMask m n s₀ = distRama m.primMask.toNat n (numeroDeRama 0 uAddr 0) + resto
      ∧ distWMask m n s₁ = distRama m.primMask.toNat n (numeroDeRama 0 uAddr 1) + resto := by
  obtain ⟨r, hr⟩ := Nat.exists_eq_add_of_le (min_le_left m.primMask.toNat 6)
  have hparte (s : In6Addr) : distWMask m n s
      = ((List.range (min m.primMask.toNat 6)).countP fun p => n.hostBit p != s.hostBit p)
        + (List.range r).countP fun p => bitDistinto m n s (min m.primMask.toNat 6 + p) := by
    rw [distWMask_eq_bits]
    conv_lhs => rw [hr, countP_add]
    congr 1
    exact countP_congr fun p hp => bitDistinto_of_lt (by omega)
  have hresto : ((List.range r).countP fun p => bitDistinto m n s₁ (min m.primMask.toNat 6 + p))
      = (List.range r).countP fun p => bitDistinto m n s₀ (min m.primMask.toNat 6 + p) := by
    refine countP_congr fun p hp => ?_
    -- behind the branch bits, inside the addresses and behind them
    by_cases hlt : min m.primMask.toNat 6 + p < 64
    · rw [bitDistinto_of_lt hlt, bitDistinto_of_lt hlt, In6Addr.hostBit, In6Addr.hostBit, In6Addr.hostBit,
        h.resto _ (by omega)]
    · have hfuera : ¬ 4 + (min m.primMask.toNat 6 + p) / 16 < 8 := by omega
      simp only [bitDistinto, palabra, if_neg hfuera]
  refine ⟨_, (hparte s₀).trans (congrArg (· + _) (distRama_eq n h.rama₀)), ?_⟩
  rw [hparte, distRama_eq n h.rama₁, hresto]

/-- **In all bits** they are, too. -/
lemma hamming_resta (h : Servidores uAddr s₀ s₁) (n : In6Addr) :
    ∃ resto, hamming n s₀ = distRama branchBits n (numeroDeRama 0 uAddr 0) + resto
      ∧ hamming n s₁ = distRama branchBits n (numeroDeRama 0 uAddr 1) + resto := by
  have hparte (s : In6Addr) : hamming n s
      = ((List.range (min branchBits 6)).countP fun p => n.hostBit p != s.hostBit p)
        + (((List.range 64).countP fun p => n.bit p != s.bit p)
          + (List.range 58).countP fun p => n.bit (70 + p) != s.bit (70 + p)) := by
    have h₁ := countP_add (fun p => n.bit p != s.bit p) 64 64
    have h₂ := countP_add (fun p => n.bit (64 + p) != s.bit (64 + p)) 6 58
    simp only [← Nat.add_assoc] at h₂
    rw [hamming, show 128 = 64 + 64 from rfl, h₁, show 64 = 6 + 58 from rfl, h₂, Nat.add_left_comm]
    rfl
  have hdelante : ((List.range 64).countP fun p => n.bit p != s₁.bit p)
      = (List.range 64).countP fun p => n.bit p != s₀.bit p :=
    countP_congr fun p hp => by rw [h.resto p (by omega)]
  have hdetras : ((List.range 58).countP fun p => n.bit (70 + p) != s₁.bit (70 + p))
      = (List.range 58).countP fun p => n.bit (70 + p) != s₀.bit (70 + p) :=
    countP_congr fun p hp => by rw [h.resto (70 + p) (by omega)]
  refine ⟨_, (hparte s₀).trans (congrArg (· + _) (distRama_eq n h.rama₀)), ?_⟩
  rw [hparte, distRama_eq n h.rama₁, hdelante, hdetras]

end Servidores

namespace Rendezvous

/-- What a lookup sends: one message, to the second server if that is the closer one, and to the first one
otherwise. -/
lemma consultas_solveName {m : SinIniciar} {uaddr : List UChar} {s s' : Rendezvous} {s₀ s₁ : In6Addr}
    (hcache : ¬ s.cachedTable.any fun e => e.coincide uaddr)
    (hservers : distributeInHc s.node.hcDim nserverRv uaddr [] = some [s₀, s₁])
    (h : s.solveName m uaddr = some s') :
    consultas s s' = [(if distWMask m s.node.primAddr s₁ < distWMask m s.node.primAddr s₀ then s₁ else s₀,
      rvAddrLookup s.node uaddr)] := by
  rw [solveName, if_neg hcache, distributeInHc_eq, hservers] at h
  obtain rfl := Option.some.inj h
  rw [consultas, List.drop_left]
  simp only [List.foldl_cons, List.foldl_nil]
  rw [acercar, acercar, if_pos (distWMask_lt m s.node.primAddr s₀)]
  split_ifs
  · rfl
  · rfl

/-- A name that is looked up with the servers `s₀` and `s₁`. -/
lemma consultaCercana_iff_of_servers {m : SinIniciar} {uaddr : List UChar} {s : Rendezvous} {s₀ s₁ : In6Addr}
    (hcache : ¬ s.cachedTable.any fun e => e.coincide uaddr)
    (hservers : distributeInHc s.node.hcDim nserverRv uaddr [] = some [s₀, s₁]) :
    ConsultaCercana m uaddr s ↔
      if distWMask m s.node.primAddr s₁ < distWMask m s.node.primAddr s₀ then
        hamming s.node.primAddr s₁ ≤ hamming s.node.primAddr s₀
      else hamming s.node.primAddr s₀ ≤ hamming s.node.primAddr s₁ := by
  have hconsulta (s' : Rendezvous) (h : s.solveName m uaddr = some s') :=
    consultas_solveName hcache hservers h
  have hsend : ∃ s', s.solveName m uaddr = some s' := by
    rw [solveName, if_neg hcache, distributeInHc_eq, hservers]
    exact ⟨_, rfl⟩
  obtain ⟨s', hs'⟩ := hsend
  have hcerca (e : In6Addr) (he : e ∈ [s₀, s₁])
      (hmsg : ∀ s', s.solveName m uaddr = some s' → consultas s s' = [(e, rvAddrLookup s.node uaddr)]) :
      ConsultaCercana m uaddr s ↔
        hamming s.node.primAddr e ≤ hamming s.node.primAddr s₀
          ∧ hamming s.node.primAddr e ≤ hamming s.node.primAddr s₁ := by
    constructor
    · intro hall
      have hc : (e, rvAddrLookup s.node uaddr) ∈ consultas s s' := by
        rw [hmsg s' hs']
        exact List.mem_singleton_self _
      have hle := (hall s' _ hs' hservers _ hc).2
      exact ⟨hle s₀ (by simp), hle s₁ (by simp)⟩
    · rintro ⟨hle₀, hle₁⟩ s'' servers hs'' hl c hc
      obtain rfl := Option.some.inj (hservers.symm.trans hl)
      rw [hmsg s'' hs''] at hc
      rw [List.mem_singleton.mp hc]
      exact ⟨he, by simp [hle₀, hle₁]⟩
  split_ifs with hlt
  · rw [hcerca s₁ (by simp) fun s' h => by rw [hconsulta s' h, if_pos hlt]]
    exact and_iff_left le_rfl
  · rw [hcerca s₀ (by simp) fun s' h => by rw [hconsulta s' h, if_neg hlt]]
    exact and_iff_right le_rfl

/-- **The closest server** is asked exactly when nothing is, because the name is in the cache or empty, or the
branch bits under the stale mask say of the two branches what all of them say. -/
theorem consulta_cercana_iff (m : SinIniciar) (uaddr : List UChar) (s : Rendezvous) :
    ConsultaCercana m uaddr s ↔
      (s.cachedTable.any fun e => e.coincide uaddr) ∨ uaddr = []
        ∨ OrdenFiel m.primMask.toNat s.node.primAddr (numeroDeRama 0 uaddr 0) (numeroDeRama 0 uaddr 1) := by
  by_cases hcache : s.cachedTable.any fun e => e.coincide uaddr
  · refine iff_of_true (fun s' servers h _ c hc => ?_) (Or.inl hcache)
    rw [solveName, if_pos hcache] at h
    obtain rfl := Option.some.inj h
    exact absurd hc (by simp [consultas])
  by_cases hnil : uaddr = []
  · refine iff_of_true (fun s' servers _ hservers => ?_) (Or.inr (Or.inl hnil))
    rw [hnil] at hservers
    exact absurd hservers (by simp [distributeInHc, nserverRv, distribuirDesde, rvServer])
  obtain ⟨s₀, s₁, hservers, hdos⟩ := exists_servidores s.node.hcDim hnil
  obtain ⟨restoMask, hmask₀, hmask₁⟩ := hdos.distWMask_resta m s.node.primAddr
  obtain ⟨resto, hham₀, hham₁⟩ := hdos.hamming_resta s.node.primAddr
  rw [or_iff_right hcache, or_iff_right hnil, consultaCercana_iff_of_servers hcache hservers, OrdenFiel,
    hmask₀, hmask₁, hham₀, hham₁]
  simp only [Nat.add_lt_add_iff_right, Nat.add_le_add_iff_right]

/-- A node at the root's address, after `rv_tables_init`. -/
def nodoEnRoot : Rendezvous := rvTablesInit (primAddrInit 16 "n") [110] .zero .zero 0

/-- The name `ab`: at the root the second server is the closer one by a bit, and a mask of 0 does not see it. -/
theorem farther_server_asked : ¬ ∀ (m : SinIniciar) (uaddr : List UChar) (s : Rendezvous), CStr uaddr →
    ConsultaCercana m uaddr s := by
  intro h
  have hcache : ¬ nodoEnRoot.cachedTable.any fun e => e.coincide [97, 98] := by decide
  have hcerca := (consultaCercana_iff_of_servers hcache rfl).mp
    (h { SinIniciar.zero with primMask := 0 } [97, 98] nodoEnRoot (by simp [CStr]))
  exact absurd hcerca (by decide)

end Rendezvous

end Antop
