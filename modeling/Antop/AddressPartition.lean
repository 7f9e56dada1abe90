import Antop.JoinSequence
import Antop.Library.Transition

/-!
# The partition of the address space

The nodes of a network that has grown by joins share the host addresses among themselves: the block
of a node is what agrees with its address on as many bits as its mask says, and each join splits one
block into its two halves.

* `Lugar.bloque` — the block of a place.
* `Construida.partition` — the blocks of a network built by joins are a partition.
* `construida_of_states` — every network along a sequence of joins is built that way.
* `responsable_unico` — each address has exactly one responsible node.
-/

namespace Antop

open PrefixBlock Transition

/-- The block of a place. -/
def Lugar.bloque (l : Lugar) : Block := block l.primAddr l.primMask.toNat

lemma toNat_succ {m : UChar} (hm : m.toNat < 255) : (m + 1).toNat = m.toNat + 1 := by
  have h1 : (1 : UChar).toNat = 1 := rfl
  rw [BitVec.toNat_add, h1]
  omega

namespace Lugar

variable {l : Lugar}

/-- The parent keeps one half of its block. -/
lemma bloque_ceder (hm : l.primMask.toNat < 255) : l.ceder.bloque = l.bloque.keep := by
  rw [bloque, bloque, block_keep, ceder, toNat_succ hm]

/-- The child gets the other half. -/
lemma bloque_hijo (hm : l.primMask.toNat < 64) : l.hijo.bloque = l.bloque.give := by
  rw [bloque, bloque, ← block_slotAddr _ hm, hijo, toNat_succ (by omega)]

end Lugar

namespace Construida

variable {d : ℕ} {ls : List Lugar}

/-- **The blocks of a network built by joins are a partition.** -/
theorem partition (h : Construida d ls) (hd : d ≤ 64) : Partition (ls.map Lugar.bloque) := by
  induction h with
  | fundada redNumero => exact partition_whole root.hostBit
  | @ingreso ls k l _ hk hm ih =>
      obtain ⟨hlt, rfl⟩ := List.getElem?_eq_some_iff.mp hk
      obtain ⟨ls₁, ls₂, hls, -, hset⟩ := @List.exists_of_set _ k ls[k].ceder ls hlt
      rw [hset, List.map_append, List.map_append, List.map_cons, List.map_singleton,
        Lugar.bloque_ceder (by omega), Lugar.bloque_hijo (by omega)]
      rw [hls, List.map_append, List.map_cons] at ih
      exact ih.split

/-- The addresses are distinct. -/
lemma nodup_primAddr (h : Construida d ls) (hd : d ≤ 64) : (ls.map Lugar.primAddr).Nodup := by
  have hapart := (h.partition hd).apart
  rw [List.pairwise_map] at hapart
  rw [List.Nodup, List.pairwise_map]
  exact hapart.imp fun hab => ne_of_apart hab

end Construida

/-- A network grown by joins, in a hypercube of dimension `d`. -/
def RedUnida (d : ℕ) (red : List Node) : Prop :=
  (∀ n ∈ red, n.Unido d) ∧ Construida d (red.map Node.lugar)

lemma redUnida_fundada (env : Env) (d : ℕ) (univAddr : String) (src : In6Addr) :
    RedUnida d (redFundada env d univAddr src) := by
  refine ⟨?_, .fundada env.macAddress⟩
  intro n hn
  obtain rfl := List.mem_singleton.mp hn
  exact ⟨rfl, ⟨rfl, rfl⟩, ⟨rfl, rfl⟩, ⟨rfl, rfl⟩, ⟨rfl, rfl⟩⟩

/-- A join goes from one such network to another. -/
lemma RedUnida.unirse {d : ℕ} (hd : d ≤ 64) {red red' : List Node} (h : RedUnida d red)
    {i : Ingreso} (hi : Antop.unirse red i = some red') : RedUnida d red' := by
  obtain ⟨hred', k, l, hk, hmask, hmap⟩ := unirse_spec hd h.1 (h.2.nodup_primAddr hd) hi
  exact ⟨hred', hmap ▸ h.2.ingreso hk hmask⟩

/-- **Every network along a sequence of joins is built by joins.** -/
theorem redUnida_of_states {d : ℕ} (hd : d ≤ 64) (env : Env) (univAddr : String) (src : In6Addr)
    (is : List Ingreso) :
    ∀ red ∈ states unirse (redFundada env d univAddr src) is, RedUnida d red :=
  invariant (fun _ _ _ hred hi => hred.unirse hd hi) (redUnida_fundada env d univAddr src)

/-- **Each address has exactly one responsible node.**  After any sequence of complete joins,
`check_addr_space` finds the address in the space of exactly one node. -/
theorem responsable_unico {d : ℕ} (hd : d ≤ 64) (env : Env) (univAddr : String)
    (src : In6Addr) (is : List Ingreso) (x : In6Addr) :
    ∀ red ∈ states unirse (redFundada env d univAddr src) is,
      ∃! i, ∃ hi : i < red.length, checkAddrSpace x red[i].primAddr red[i].primMask = 0 := by
  intro red hred
  obtain ⟨i, ⟨hi, hx⟩, huniq⟩ :=
    ((redUnida_of_states hd env univAddr src is red hred).2.partition hd).existsUnique x.hostBit
  have hlen : ((red.map Node.lugar).map Lugar.bloque).length = red.length := by simp
  have hmem (j : ℕ) (hj : j < red.length) (hj' : j < ((red.map Node.lugar).map Lugar.bloque).length) :
      checkAddrSpace x red[j].primAddr red[j].primMask = 0
        ↔ Block.Mem x.hostBit ((red.map Node.lugar).map Lugar.bloque)[j] := by
    rw [checkAddrSpace_eq_zero_iff_mem, List.getElem_map, List.getElem_map]
    rfl
  refine ⟨i, ⟨hlen ▸ hi, (hmem i _ hi).mpr hx⟩, ?_⟩
  rintro j ⟨hj, hjx⟩
  exact huniq j ⟨hlen.symm ▸ hj, (hmem j hj _).mp hjx⟩

/-- A join whose `PAR` and `PAN` are heard by all of the first `k` nodes. -/
def Ingreso.aTodos (src : In6Addr) (k : ℕ) : Ingreso where
  hcDim := 1
  univAddr := "n"
  src := src
  envPar := .zero
  envPap := .zero
  envPanc := .zero
  oyenPar := (List.range k).map fun j => (j, .zero)
  oyenPan := (List.range k).map fun j => (j, .zero)
  sinRepetir := by simp [Function.comp_def, List.nodup_range]

/-- Three joins in a hypercube of dimension 2 fill it. -/
example : (run unirse (redFundada .zero 2 "r" .zero)
      [.aTodos .zero 1, .aTodos .zero 2, .aTodos .zero 3]).map (fun red => red.map Node.primMask)
    = some [2, 2, 2, 2] := by decide +kernel

/-- The root belongs to one of the four nodes. -/
theorem responsable_unico_dimension_dos :
    ∃ red ∈ states unirse (redFundada .zero 2 "r" .zero)
        [.aTodos .zero 1, .aTodos .zero 2, .aTodos .zero 3],
      red.length = 4
        ∧ ∃! i, ∃ hi : i < red.length, checkAddrSpace root red[i].primAddr red[i].primMask = 0 := by
  obtain ⟨red, hred, hlen⟩ : ∃ red ∈ states unirse (redFundada .zero 2 "r" .zero)
      [.aTodos .zero 1, .aTodos .zero 2, .aTodos .zero 3], red.length = 4 := by decide +kernel
  exact ⟨red, hred, hlen, responsable_unico (by decide) _ _ _ _ _ red hred⟩

end Antop
