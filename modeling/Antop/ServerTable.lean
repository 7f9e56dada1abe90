import Antop.Library.KeyedList
import Antop.Library.Transition
import Antop.NameTransport

/-!
# The table of a server

A server of the rendezvous keeps the registrations in `rv_table`, under the names; queries look for a name
and a departed neighbour is looked for by its address.

* `answerRvQuery` again — **`respuesta_exacta_iff`**, when the answer to a query is that for its name.
* `OpRv.step` — `rv_table_add` and `rv_table_delete`, from the empty table on.
* **`tabla_de_servidor`** — every name is there once, with the address of its last registration.
* **`baja_completa_iff`** — when a departed address leaves nothing behind.
-/

namespace Antop

open CString KeyedList Transition

/-! ## Looking for a name -/

/-- What a query for `nombre` should be answered: with the address of the entry for that name, if there is
one, and that no other entry is taken for it. -/
structure RespuestaExacta (rvPkt : RvCtrlPktMem) (rvTable : List EntradaRv) (nombre : List UChar)
    (r : RvCtrlPktMem) : Prop where
  hay : (∃ e ∈ rvTable, e.nombre = nombre) → r.resuelto
    ∧ ∃ e ∈ rvTable, e.nombre = nombre ∧ r.primAddr = e.hcAddr
  noHay : (∀ e ∈ rvTable, e.nombre ≠ nombre) → r.flags = 0
  nunca : ∀ e, entradaBuscada rvPkt rvTable = some e → e.nombre = nombre

/-- An entry whose name is a prefix of `nombre` stands behind one for `nombre`, or is one. -/
def PrefijosDetras (rvTable : List EntradaRv) (nombre : List UChar) : Prop :=
  ∀ l e r, rvTable = l ++ e :: r → e.nombre <+: nombre → ∃ b ∈ l ++ [e], b.nombre = nombre

/-- The comparison with the field of the packet is one with the name in it. -/
lemma entradaBuscada_eq {rvPkt : RvCtrlPktMem} {detras nombre : List UChar}
    (h : rvPkt.leerNombre detras = some nombre) (rvTable : List EntradaRv) :
    entradaBuscada rvPkt rvTable = rvTable.find? fun e => e.nombre.isPrefixOf nombre := by
  obtain ⟨r, hr⟩ := exists_of_cstr h
  have hpref (e : EntradaRv) : e.nombre <+: rvPkt.univAddr.units ↔ e.nombre <+: nombre := by
    rw [← prefix_append_zero_iff (r := nombre) (m := r) e.cstr_nombre, ← hr]
    refine ⟨fun hp => hp.trans (List.prefix_append _ _), fun hp => ?_⟩
    refine List.prefix_of_prefix_length_le hp (List.prefix_append _ _) ?_
    rw [rvPkt.univAddr.size]
    exact e.length_nombre.le.trans (by norm_num)
  rw [entradaBuscada]
  congr 1
  funext e
  rw [Bool.eq_iff_iff, List.isPrefixOf_iff_prefix, List.isPrefixOf_iff_prefix]
  exact hpref e

/-- The first entry with a prefix of the name has the name. -/
lemma find_prefijo_iff (rvTable : List EntradaRv) (nombre : List UChar) :
    (∀ e, (rvTable.find? fun e => e.nombre.isPrefixOf nombre) = some e → e.nombre = nombre)
      ↔ PrefijosDetras rvTable nombre := by
  constructor
  · rintro h l e r rfl hpref
    obtain ⟨b, hb⟩ : ∃ b, ((l ++ [e]).find? fun e => e.nombre.isPrefixOf nombre) = some b := by
      rw [← Option.isSome_iff_exists, List.find?_isSome]
      exact ⟨e, by simp, List.isPrefixOf_iff_prefix.mpr hpref⟩
    refine ⟨b, List.mem_of_find?_eq_some hb, h b ?_⟩
    rw [List.append_cons, List.find?_append, hb, Option.some_or]
  · intro h e he
    obtain ⟨hpref, l, r, rfl, hno⟩ := List.find?_eq_some_iff_append.mp he
    obtain ⟨b, hb, hbn⟩ := h l e r rfl (List.isPrefixOf_iff_prefix.mp hpref)
    rcases List.mem_append.mp hb with hl | hl
    · have hself : b.nombre.isPrefixOf nombre = true := List.isPrefixOf_iff_prefix.mpr (hbn ▸ List.prefix_rfl)
      have hfalse := hno b hl
      rw [hself] at hfalse
      exact absurd hfalse (by decide)
    · rwa [← List.mem_singleton.mp hl]

lemma primAddr_answerRvQuery {heap rvPkt r : RvCtrlPktMem} {detras : List UChar} {rvTable : List EntradaRv}
    {e : EntradaRv} (he : entradaBuscada rvPkt rvTable = some e)
    (h : answerRvQuery heap rvPkt detras rvTable = some r) : r.primAddr = e.hcAddr := by
  obtain ⟨nombre, -, h⟩ := Option.bind_eq_some_iff.mp h
  obtain ⟨u, -, rfl⟩ := Option.map_eq_some_iff.mp h
  rw [he]

lemma flags_answerRvQuery {heap rvPkt r : RvCtrlPktMem} {detras : List UChar} {rvTable : List EntradaRv}
    (he : entradaBuscada rvPkt rvTable = none) (h : answerRvQuery heap rvPkt detras rvTable = some r) :
    r.flags = 0 := by
  obtain ⟨nombre, -, h⟩ := Option.bind_eq_some_iff.mp h
  obtain ⟨u, -, rfl⟩ := Option.map_eq_some_iff.mp h
  rw [he]

/-- **Exact answers.**  A query whose name can be read and fits into the answer is answered for that name
exactly when no entry with a shorter prefix of it comes first. -/
theorem respuesta_exacta_iff (heap rvPkt : RvCtrlPktMem) (detras : List UChar) (rvTable : List EntradaRv) :
    (∃ nombre r, rvPkt.leerNombre detras = some nombre ∧ answerRvQuery heap rvPkt detras rvTable = some r
        ∧ RespuestaExacta rvPkt rvTable nombre r)
      ↔ ∃ nombre, rvPkt.leerNombre detras = some nombre ∧ nombre.length ≤ 50 ∧ PrefijosDetras rvTable nombre := by
  refine exists_congr fun nombre => ?_
  constructor
  · rintro ⟨r, hleido, hr, hex⟩
    have hcopia := univAddr_answerRvQuery hleido hr
    refine ⟨hleido, (Buffer.memcpy_eq_some_iff.mp hcopia).1, (find_prefijo_iff rvTable nombre).mp fun e he => ?_⟩
    exact hex.nunca e ((entradaBuscada_eq hleido rvTable).trans he)
  · rintro ⟨hleido, hlen, hpref⟩
    obtain ⟨u, hu, -⟩ := heap.univAddr.exists_memcpy nombre hlen
    obtain ⟨r, hr⟩ := exists_answerRvQuery hu hleido rvTable
    have hnunca : ∀ e, entradaBuscada rvPkt rvTable = some e → e.nombre = nombre := by
      rw [entradaBuscada_eq hleido]
      exact (find_prefijo_iff rvTable nombre).mpr hpref
    refine ⟨r, hleido, hr, fun ⟨e, he, hn⟩ => ?_, fun hno => ?_, hnunca⟩
    · obtain ⟨b, hb⟩ : ∃ b, entradaBuscada rvPkt rvTable = some b := by
        rw [← Option.isSome_iff_exists, entradaBuscada_eq hleido, List.find?_isSome]
        exact ⟨e, he, List.isPrefixOf_iff_prefix.mpr (hn ▸ List.prefix_rfl)⟩
      refine ⟨(resuelto_answerRvQuery hr).mpr (by rw [hb]; rfl), b, ?_, hnunca b hb, primAddr_answerRvQuery hb hr⟩
      exact List.mem_of_find?_eq_some hb
    · refine flags_answerRvQuery (Option.eq_none_iff_forall_ne_some.mpr fun b hb => ?_) hr
      exact hno b (List.mem_of_find?_eq_some hb) (hnunca b hb)

/-- The query for `ab`. -/
private def consultaAB : RvCtrlPktMem :=
  { paqueteUsado with type := .rvAddrLookup, univAddr := ⟨[97, 98] ++ List.replicate 48 0, rfl⟩ }

/-- The entry for `a`. -/
private def entradaA : EntradaRv := ⟨.zero, ⟨97 :: List.replicate 19 0, rfl⟩, by decide⟩

/-- With the entry for `a`, a query for `ab` is answered. -/
theorem prefix_entry_answers : ¬ ∀ (heap rvPkt : RvCtrlPktMem) (detras : List UChar) (rvTable : List EntradaRv),
    ∃ nombre r, rvPkt.leerNombre detras = some nombre ∧ answerRvQuery heap rvPkt detras rvTable = some r
      ∧ RespuestaExacta rvPkt rvTable nombre r := by
  intro h
  obtain ⟨nombre, r, hleido, -, hex⟩ := h paqueteUsado consultaAB [] [entradaA]
  have hnombre : consultaAB.leerNombre [] = some [97, 98] := by decide
  have hentrada : entradaA.nombre = nombre := hex.nunca entradaA rfl
  rw [hnombre, Option.some.injEq] at hleido
  rw [← hleido] at hentrada
  exact absurd hentrada (by decide)

/-! ## Registrations and departures -/

/-- A registration that reaches the server: the packet, the memory behind it and that of `rv_table_add`,
with the name that is read. -/
structure RegistroRv where
  heap : Buffer UChar 20
  strAux : Buffer UChar 20
  rvPkt : RvCtrlPktMem
  detras : List UChar
  nombre : List UChar
  leido : rvPkt.leerNombre detras = some nombre
  corto : nombre.length < 20

/-- What happens to the table. -/
inductive OpRv
  | add (r : RegistroRv)
  | delete (addr : In6Addr)

/-- `rv_table_delete` on entries as they lie in memory. -/
def rvTableDeleteMem (addr : In6Addr) (rvTable : List EntradaRv) : List EntradaRv :=
  rvTable.eraseP fun curr => curr.hcAddr = addr

/-- **`rv_table_delete` in memory** does what it does on the entries. -/
theorem map_abs_rvTableDeleteMem (addr : In6Addr) (rvTable : List EntradaRv) :
    (rvTableDeleteMem addr rvTable).map EntradaRv.abs = rvTableDelete addr (rvTable.map EntradaRv.abs) := by
  rw [rvTableDelete, List.eraseP_map]
  rfl

namespace OpRv

/-- The table after it. -/
def step (rvTable : List EntradaRv) : OpRv → Option (List EntradaRv)
  | .add r => rvTableAddMem r.heap r.strAux r.rvPkt r.detras rvTable
  | .delete addr => some (rvTableDeleteMem addr rvTable)

/-- The address it registers for a name. -/
def registra (nombre : List UChar) : OpRv → Option In6Addr
  | .add r => if r.nombre = nombre then some r.rvPkt.primAddr else none
  | .delete _ => none

/-- The address of the last registration of a name. -/
def ultima (nombre : List UChar) (ops : List OpRv) : Option In6Addr := ops.reverse.findSome? (registra nombre)

lemma ultima_concat (nombre : List UChar) (ops : List OpRv) (op : OpRv) :
    ultima nombre (ops ++ [op]) = (registra nombre op).or (ultima nombre ops) := by
  rw [ultima, List.reverse_append, List.reverse_singleton, List.singleton_append, List.findSome?_cons]
  cases registra nombre op <;> rfl

/-- A registration puts its entry into the table. -/
lemma step_add (r : RegistroRv) (rvTable : List EntradaRv) : ∃ e, step rvTable (.add r)
    = some (upsert EntradaRv.nombre e rvTable) ∧ e.nombre = r.nombre ∧ e.hcAddr = r.rvPkt.primAddr := by
  obtain ⟨e, he⟩ := exists_entradaGuardada r.heap r.strAux r.rvPkt rvTable r.leido (Nat.le_of_lt_succ r.corto)
  obtain ⟨hnombre, haddr⟩ := entradaGuardada_nombre he
  refine ⟨e, ?_, Option.some.inj (hnombre.symm.trans r.leido), haddr⟩
  rw [step, rvTableAddMem, he, Option.map_some]
  rfl

/-- The table is a map from the names to their last addresses. -/
structure EsMapa (ops : List OpRv) (rvTable : List EntradaRv) : Prop where
  nombres : (rvTable.map EntradaRv.nombre).Nodup
  ultimas : ∀ e ∈ rvTable, ultima e.nombre ops = some e.hcAddr

/-- One more operation. -/
lemma EsMapa.step {ops : List OpRv} {rvTable : List EntradaRv} (h : EsMapa ops rvTable) (op : OpRv) :
    ∃ rvTable', OpRv.step rvTable op = some rvTable' ∧ EsMapa (ops ++ [op]) rvTable' := by
  cases op with
  | add r =>
      obtain ⟨e, he, hnombre, haddr⟩ := step_add r rvTable
      refine ⟨_, he, nodup_upsert h.nombres e, fun a ha => ?_⟩
      rw [ultima_concat, registra]
      rcases (mem_upsert_iff h.nombres).mp ha with rfl | ⟨ha, hne⟩
      · rw [if_pos hnombre.symm, haddr]
        rfl
      · rw [if_neg fun hc => hne (hc.symm.trans hnombre.symm)]
        exact h.ultimas a ha
  | delete addr =>
      refine ⟨_, rfl, ?_, fun a ha => ?_⟩
      · exact h.nombres.sublist (List.eraseP_sublist.map _)
      · rw [ultima_concat]
        exact h.ultimas a (List.mem_of_mem_eraseP ha)

end OpRv

/-- **A map from names.**  Whatever is registered and deleted, every name is in the table at most once,
with the address of its last registration. -/
theorem tabla_de_servidor (ops : List OpRv) :
    ∃ rvTable, run OpRv.step [] ops = some rvTable ∧ (rvTable.map EntradaRv.nombre).Nodup
      ∧ ∀ e ∈ rvTable, OpRv.ultima e.nombre ops = some e.hcAddr := by
  induction ops using List.reverseRecOn with
  | nil => exact ⟨[], rfl, List.nodup_nil, by simp⟩
  | append_singleton ops op ih =>
      obtain ⟨rvTable, hrun, hnombres, hultimas⟩ := ih
      obtain ⟨rvTable', hstep, hmapa⟩ := OpRv.EsMapa.step ⟨hnombres, hultimas⟩ op
      refine ⟨rvTable', ?_, hmapa.nombres, hmapa.ultimas⟩
      rw [run_concat, hrun, Option.bind_some, hstep]

/-! ## Departures -/

/-- What a departure should do: no entry with the address stays, and the others do. -/
def OpRv.BajaCompleta (rvTable : List EntradaRv) (op : OpRv) (rvTable' : List EntradaRv) : Prop :=
  ∀ addr, op = .delete addr → rvTable' = rvTable.filter fun e => ¬ e.hcAddr = addr

/-- There is at most one entry with the address. -/
def OpRv.UnaEntrada (rvTable : List EntradaRv) (op : OpRv) : Prop :=
  ∀ addr, op = .delete addr → (rvTable.countP fun e => e.hcAddr = addr) ≤ 1

/-- **Departures.**  In every run they are complete exactly when each of them finds at most one entry with
its address. -/
theorem baja_completa_iff (ops : List OpRv) :
    (∀ t ∈ steps OpRv.step [] ops, OpRv.BajaCompleta t.1 t.2.1 t.2.2)
      ↔ ∀ t ∈ steps OpRv.step [] ops, OpRv.UnaEntrada t.1 t.2.1 := by
  refine forall_steps_iff fun rvTable op rvTable' hstep => forall₂_congr fun addr hop => ?_
  subst hop
  rw [← Option.some.inj hstep]
  exact eraseP_eq_filter_iff addr

/-- **`delete_neighbor`** takes all registrations of a neighbour exactly when it has at most one. -/
theorem rvTable_deleteNeighbor_iff (n : Node) {addr : In6Addr}
    (h : n.neighTable.any fun curr => curr.primAddr = addr) :
    (n.deleteNeighbor addr).rvTable = (n.rvTable.filter fun e => ¬ e.hcAddr = addr)
      ↔ (n.rvTable.countP fun e => e.hcAddr = addr) ≤ 1 := by
  rw [Node.deleteNeighbor, deleteEntry, if_pos h]
  exact eraseP_eq_filter_iff addr

/-- A registration of the name with one character. -/
private def registroDe (c : UChar) (hc : c ≠ 0) : RegistroRv where
  heap := .filled 20 0
  strAux := .filled 20 0
  rvPkt := { paqueteUsado with univAddr := ⟨c :: List.replicate 49 0, rfl⟩ }
  detras := []
  nombre := [c]
  leido := cstr_append_zero (s := [c]) (by simpa [CStr] using hc) _
  corto := by simp

/-- The address is registered for `a` and for `b` before it departs. -/
private def dosNombres : List OpRv :=
  [.add (registroDe 97 (by decide)), .add (registroDe 98 (by decide)), .delete .zero]

/-- Only the first of the two registrations goes. -/
theorem departure_leaves_registration : ¬ ∀ ops : List OpRv,
    ∀ t ∈ steps OpRv.step [] ops, OpRv.BajaCompleta t.1 t.2.1 t.2.2 := by
  intro h
  have hbaja := h dosNombres ((steps OpRv.step [] dosNombres).get ⟨2, by decide +kernel⟩) (List.get_mem _ _)
    .zero rfl
  have hquedan := congrArg List.length hbaja
  exact absurd hquedan (by decide +kernel)

end Antop
