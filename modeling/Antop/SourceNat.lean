import Antop.FromAddress

/-!
# The table of source addresses

For a destination that is reached through a neighbour at the secondary address, packets leave with that
address as their source.  `nat_table` has these destinations with their sources.

* `addSrcNat`, `buscarSrcNat` — a new destination and source; the loop of `print_pkt`.
* `conNat_eq` — the source of a packet is what that loop finds.
* `NatCorrecta` — the table says for each destination what was said last.
* **`natCorrecta_iff`** — it never does: the first cell is not filled.
* **`buscarSrcNat_tablaNat`** — for other destinations than that of the first cell it says what was said
  first.
-/

namespace Antop

/-- `struct src_nat`. -/
structure SrcNat where
  dst : In6Addr
  src : In6Addr
deriving DecidableEq

/-- The first cell as `malloc` gives it: its addresses, and the cells its `next` leads to. -/
structure MemNat where
  celda : SrcNat
  detras : List SrcNat

/-- `add_src_nat`.  The table gets a first cell, which is not filled, and its `next` is looked at before
it is set.  The loop ends at a cell with the destination, or at the last one without looking at it. -/
def addSrcNat (m : MemNat) (dst src : In6Addr) : List SrcNat → List SrcNat
  | [] => m.celda :: if m.detras = [] then [⟨dst, src⟩] else m.detras
  | c :: cs =>
      if (c :: cs).dropLast.any fun e => e.dst = dst then c :: cs else c :: cs ++ [⟨dst, src⟩]

/-- The source that `print_pkt` puts into a packet to `dst`. -/
def buscarSrcNat (dst : In6Addr) (tabla : List SrcNat) : Option In6Addr :=
  (tabla.find? fun e => e.dst = dst).map SrcNat.src

/-- The table after the calls with the destinations and sources in `es`. -/
def tablaNat (m : MemNat) (es : List SrcNat) : List SrcNat :=
  es.foldl (fun tabla e => addSrcNat m e.dst e.src tabla) []

/-- What the table should be after these calls: for each destination the source of its last call, and one
entry. -/
structure NatCorrecta (es tabla : List SrcNat) : Prop where
  ultima : ∀ dst, buscarSrcNat dst tabla = buscarSrcNat dst es.reverse
  una : (tabla.map SrcNat.dst).Nodup

/-! ## The loop of `print_pkt` -/

/-- An address is known from its bytes. -/
lemma In6Addr.bytes_injective : Function.Injective In6Addr.bytes := by
  intro a b h
  refine In6Addr.ext fun i => BitVec.eq_of_getLsbD_eq fun j hj => ?_
  have hlow (c : In6Addr) : c.bytes[2 * i.val]? = some ((c.s6Addr16 i).setWidth 8) := by
    fin_cases i <;> rfl
  have hhigh (c : In6Addr) : c.bytes[2 * i.val + 1]? = some ((c.s6Addr16 i >>> 8).setWidth 8) := by
    fin_cases i <;> rfl
  by_cases hj8 : j < 8
  · have hbyte : (a.s6Addr16 i).setWidth 8 = (b.s6Addr16 i).setWidth 8 := by
      rw [← Option.some.injEq, ← hlow, ← hlow, h]
    simpa [hj8] using congrArg (fun w : UChar => w.getLsbD j) hbyte
  · have hbyte : (a.s6Addr16 i >>> 8).setWidth 8 = (b.s6Addr16 i >>> 8).setWidth 8 := by
      rw [← Option.some.injEq, ← hhigh, ← hhigh, h]
    have hbit := congrArg (fun w : UChar => w.getLsbD (j - 8)) hbyte
    simpa [show j - 8 < 8 by omega, show 8 + (j - 8) = j by omega] using hbit

/-- **The source of a packet** is the one that is found for its destination, if there is one. -/
theorem conNat_eq (tabla : List SrcNat) {data : List UChar} {dst : In6Addr}
    (h : Memory.slice data 24 16 = dst.bytes) : conNat (tabla.map fun e => (e.dst, e.src)) data
      = ((buscarSrcNat dst tabla).map fun src => Memory.put data 8 src.bytes).getD data := by
  have hfind : (tabla.map fun e => (e.dst, e.src)).find? (fun e => Memory.slice data 24 16 = e.1.bytes)
      = (tabla.find? fun e => e.dst = dst).map fun e => (e.dst, e.src) := by
    rw [List.find?_map]
    congr 2
    funext e
    simp only [Function.comp_apply, h]
    exact decide_eq_decide.mpr ⟨fun hb => (In6Addr.bytes_injective hb).symm, fun hb => by rw [hb]⟩
  rw [conNat, hfind, buscarSrcNat]
  cases tabla.find? fun e => e.dst = dst <;> rfl

variable {m : MemNat} {es tabla : List SrcNat} {dst src : In6Addr}

/-! ## The table -/

lemma tablaNat_append (m : MemNat) (es : List SrcNat) (e : SrcNat) :
    tablaNat m (es ++ [e]) = addSrcNat m e.dst e.src (tablaNat m es) :=
  List.foldl_concat ..

lemma addSrcNat_of_mem (h : dst ∈ tabla.dropLast.map SrcNat.dst) : addSrcNat m dst src tabla = tabla := by
  cases tabla with
  | nil => simp at h
  | cons c cs => exact if_pos (by simpa only [List.any_eq_true, decide_eq_true_eq, List.mem_map] using h)

lemma addSrcNat_of_notMem (hnil : tabla ≠ []) (h : dst ∉ tabla.dropLast.map SrcNat.dst) :
    addSrcNat m dst src tabla = tabla ++ [⟨dst, src⟩] := by
  cases tabla with
  | nil => exact absurd rfl hnil
  | cons c cs => exact if_neg (by simpa only [List.any_eq_true, decide_eq_true_eq, List.mem_map] using h)

lemma mem_dst_of_buscarSrcNat (h : (buscarSrcNat dst tabla).isSome) : dst ∈ tabla.map SrcNat.dst := by
  rw [buscarSrcNat, Option.isSome_map, List.find?_isSome] at h
  obtain ⟨e, he, hdst⟩ := h
  exact List.mem_map.mpr ⟨e, he, by simpa using hdst⟩

lemma buscarSrcNat_isSome (h : dst ∈ tabla.map SrcNat.dst) : (buscarSrcNat dst tabla).isSome := by
  obtain ⟨e, he, hdst⟩ := List.mem_map.mp h
  rw [buscarSrcNat, Option.isSome_map, List.find?_isSome]
  exact ⟨e, he, by simpa using hdst⟩

/-! ## The first call -/

/-- In a table that says what was said, there is nothing else. -/
lemma NatCorrecta.mem_dst (h : NatCorrecta es tabla) (hdst : dst ∈ tabla.map SrcNat.dst) :
    dst ∈ es.map SrcNat.dst := by
  have hfound := buscarSrcNat_isSome hdst
  rw [h.ultima dst] at hfound
  have hmem := mem_dst_of_buscarSrcNat hfound
  rwa [List.map_reverse, List.mem_reverse] at hmem

/-- After one call there are two cells, for one destination. -/
lemma not_natCorrecta_singleton (m : MemNat) (e : SrcNat) : ¬ NatCorrecta [e] (tablaNat m [e]) := by
  intro h
  have hall : ∀ dst ∈ (tablaNat m [e]).map SrcNat.dst, dst = e.dst := fun dst hdst => by
    simpa using h.mem_dst hdst
  obtain ⟨c, rest, htabla⟩ : ∃ c rest, tablaNat m [e] = m.celda :: c :: rest := by
    change ∃ c rest, m.celda :: (if m.detras = [] then [⟨e.dst, e.src⟩] else m.detras) = m.celda :: c :: rest
    split_ifs with hnil
    · exact ⟨_, _, rfl⟩
    · obtain ⟨c, rest, hd⟩ := List.exists_cons_of_ne_nil hnil
      exact ⟨c, rest, by rw [hd]⟩
  have huna := h.una
  rw [htabla] at hall huna
  rw [List.map_cons, List.nodup_cons] at huna
  refine huna.1 (List.mem_map.mpr ⟨c, List.mem_cons_self, ?_⟩)
  rw [hall c.dst (by simp), hall m.celda.dst (by simp)]

/-- **The table is right after all calls only when there are none.** -/
theorem natCorrecta_iff (m : MemNat) (es : List SrcNat) :
    (∀ us, us <+: es → NatCorrecta us (tablaNat m us)) ↔ es = [] := by
  constructor
  · intro h
    cases es with
    | nil => rfl
    | cons e es => exact absurd (h [e] ⟨es, rfl⟩) (not_natCorrecta_singleton m e)
  · rintro rfl us hus
    rw [List.prefix_nil.mp hus]
    exact ⟨fun _ => rfl, List.nodup_nil⟩

/-! ## The other cells -/

/-- **The first source stays.**  Behind a first cell with a null `next`, a destination that is not in
that cell has the source of its first call. -/
theorem buscarSrcNat_tablaNat (hm : m.detras = []) (hdst : dst ≠ m.celda.dst) (es : List SrcNat) :
    buscarSrcNat dst (tablaNat m es) = buscarSrcNat dst es := by
  induction es using List.reverseRecOn with
  | nil => rfl
  | append_singleton es e ih =>
      have happend (l : List SrcNat) : buscarSrcNat dst (l ++ [e])
          = (buscarSrcNat dst l).or (buscarSrcNat dst [e]) := by
        rw [buscarSrcNat, List.find?_append]
        cases hl : l.find? fun e => e.dst = dst <;> simp [buscarSrcNat, hl]
      rw [tablaNat_append, happend, ← ih]
      by_cases hnil : tablaNat m es = []
      · rw [hnil]
        change buscarSrcNat dst (m.celda :: if m.detras = [] then [e] else m.detras) = buscarSrcNat dst [e]
        rw [if_pos hm, buscarSrcNat, List.find?_cons_of_neg (by simpa using hdst.symm)]
        rfl
      · by_cases hmem : e.dst ∈ (tablaNat m es).dropLast.map SrcNat.dst
        · rw [addSrcNat_of_mem hmem]
          by_cases he : e.dst = dst
          · have hsome : (buscarSrcNat dst (tablaNat m es)).isSome := by
              refine buscarSrcNat_isSome ?_
              obtain ⟨b, hb, hbd⟩ := List.mem_map.mp hmem
              exact List.mem_map.mpr ⟨b, List.mem_of_mem_dropLast hb, hbd.trans he⟩
            rw [Option.or_of_isSome hsome]
          · have hnone : buscarSrcNat dst [e] = none := by simp [buscarSrcNat, he]
            rw [hnone, Option.or_none]
        · rw [addSrcNat_of_notMem hnil hmem]
          exact happend _

/-- `:: → ::`, the cell that zeroed memory gives. -/
private def celdaCero : MemNat := ⟨⟨.zero, .zero⟩, []⟩

/-- Two destinations, and the second source for the first of them. -/
private def cambioSec : List SrcNat :=
  let d1 := In6Addr.ofWords 0x0120 0xb80d 0 0 0 0 0 0x0100
  let d2 := In6Addr.ofWords 0x0120 0xb80d 0 0 0 0 0 0x0200
  let s1 := In6Addr.ofWords 0x0120 0xb80d 0 0 0 0 0 0x0300
  let s2 := In6Addr.ofWords 0x0120 0xb80d 0 0 0 0 0 0x0400
  [⟨d1, s1⟩, ⟨d2, s1⟩, ⟨d1, s2⟩]

/-- The second source of a destination is not taken. -/
theorem nat_keeps_first_source : ¬ ∀ (m : MemNat) (es : List SrcNat), NatCorrecta es (tablaNat m es) := by
  intro h
  have hultima := (h celdaCero cambioSec).ultima (.ofWords 0x0120 0xb80d 0 0 0 0 0 0x0100)
  exact absurd hultima (by decide)

end Antop
