import Antop.Tables
import Antop.Library.CString

/-!
# Names on the wire

The rendezvous messages carry a universal name as a string.  `register_rv`, `solve_name` and
`answer_rv_query` copy its characters into a packet that `malloc` has just returned, without the zero
that ends it, and the receivers read up to a zero.

* `registerRvPkt`, `solveNamePkt`, `answerRvQuery` — the packets as they lie in memory.
* `rvTableAddMem`, `map_abs_rvTableAddMem` — `rv_table_add` on entries as they lie in memory, and that
  it does what `rvTableAdd` says.
* `nombre_llega_iff` — the names arrive exactly when fresh memory has a zero behind each of them.
-/

namespace Antop

open CString

/-- A universal name of 1 to 19 characters, as many as an entry of the table holds. -/
structure NombreUniversal where
  bytes : List UChar
  cstr : CStr bytes
  noVacio : 1 ≤ bytes.length
  corto : bytes.length ≤ 19

/-- `struct rv_ctrl_pkt` as it lies in memory. -/
structure RvCtrlPktMem where
  type : PktType
  flags : UChar
  id : BitVec 32
  n : BitVec 32
  primAddr : In6Addr
  univAddr : Buffer UChar 50
  srcAddr : In6Addr

/-- `MASK_SOLVED`. -/
def maskSolved : UChar := 1

/-- The string a receiver reads in `univ_addr`; `detras` is the memory behind that field. -/
def RvCtrlPktMem.leerNombre (rvPkt : RvCtrlPktMem) (detras : List UChar) : Option (List UChar) :=
  cstr (rvPkt.univAddr.units ++ detras)

/-! ## The packets -/

/-- The `RV_REG` of `register_rv`, for one of the addresses of the node. -/
def registerRvPkt (heap : RvCtrlPktMem) (primAddr : In6Addr) (univAddr : List UChar) :
    Option RvCtrlPktMem :=
  (heap.univAddr.memcpy univAddr).map fun u =>
    { heap with type := .rvReg, primAddr := primAddr, univAddr := u }

/-- The `RV_ADDR_LOOKUP` of `solve_name`. -/
def solveNamePkt (heap : RvCtrlPktMem) (primAddr : In6Addr) (uaddr : List UChar) :
    Option RvCtrlPktMem :=
  (heap.univAddr.memcpy uaddr).map fun u =>
    { heap with type := .rvAddrLookup, primAddr := primAddr, univAddr := u, srcAddr := primAddr }

/-! ## The table -/

/-- An entry of `rv_table` as it lies in memory: its name ends inside its field. -/
structure EntradaRv where
  hcAddr : In6Addr
  univAddr : Buffer UChar 20
  termina : (cstr univAddr.units).isSome

/-- The name of an entry. -/
def EntradaRv.nombre (e : EntradaRv) : List UChar := (cstr e.univAddr.units).get e.termina

lemma EntradaRv.cstr_nombre (e : EntradaRv) : CStr e.nombre :=
  .of_cstr (Option.some_get e.termina).symm

/-- The name of an entry and its zero fit into its field. -/
lemma EntradaRv.length_nombre (e : EntradaRv) : e.nombre.length < 20 := by
  obtain ⟨r, hr⟩ := exists_of_cstr (Option.some_get e.termina).symm
  have hsize := e.univAddr.size
  rw [hr, List.length_append, List.length_cons] at hsize
  change ((cstr e.univAddr.units).get e.termina).length < 20
  omega

/-- The entry `rv_table_add` makes for a name.  The name goes by way of `str_aux`; it is cleared for
before it is copied. -/
def nuevaEntrada (heap strAux : Buffer UChar 20) (hcAddr : In6Addr) (nombre : List UChar) :
    Option EntradaRv :=
  (heap.memzero nombre.length).bind fun e =>
    (strAux.strcpy nombre).bind fun aux =>
      match hs : cstr aux.units with
      | none => none
      | some s =>
          match hu : e.strcpy s with
          | none => none
          | some u =>
              some ⟨hcAddr, u, by rw [Buffer.cstr_strcpy (.of_cstr hs) hu]; rfl⟩

/-- The entry that holds a registration after `rv_table_add`: the one that was there for the name, or a
new one. -/
def entradaGuardada (heap strAux : Buffer UChar 20) (rvPkt : RvCtrlPktMem) (detras : List UChar)
    (rvTable : List EntradaRv) : Option EntradaRv :=
  (rvPkt.leerNombre detras).bind fun nombre =>
    match rvTable.find? fun aux => aux.nombre = nombre with
    | some aux => some { aux with hcAddr := rvPkt.primAddr }
    | none => nuevaEntrada heap strAux rvPkt.primAddr nombre

/-- `rv_table_add`.  It is `none` where the name runs over the end of the memory it is read from or
copied to. -/
def rvTableAddMem (heap strAux : Buffer UChar 20) (rvPkt : RvCtrlPktMem) (detras : List UChar)
    (rvTable : List EntradaRv) : Option (List EntradaRv) :=
  (entradaGuardada heap strAux rvPkt detras rvTable).map fun e =>
    if rvTable.any fun aux => aux.nombre = e.nombre then
      rvTable.replaceF fun aux => if aux.nombre = e.nombre then some e else none
    else rvTable ++ [e]

lemma EntradaRv.nombre_eq {hcAddr : In6Addr} {u : Buffer UChar 20} {s : List UChar} {h}
    (hs : CString.cstr u.units = some s) : (EntradaRv.mk hcAddr u h).nombre = s :=
  Option.get_of_eq_some h hs

/-- A new entry has the name and the address it is made for. -/
lemma nuevaEntrada_eq_some {heap strAux : Buffer UChar 20} {hcAddr : In6Addr} {nombre : List UChar}
    {e : EntradaRv} (hn : CStr nombre) (h : nuevaEntrada heap strAux hcAddr nombre = some e) :
    e.nombre = nombre ∧ e.hcAddr = hcAddr := by
  unfold nuevaEntrada at h
  obtain ⟨b, -, hb⟩ := Option.bind_eq_some_iff.mp h
  obtain ⟨aux, haux, hentrada⟩ := Option.bind_eq_some_iff.mp hb
  have hleido := Buffer.cstr_strcpy hn haux
  split at hentrada
  · simp at hentrada
  next s hs =>
    split at hentrada
    · simp at hentrada
    next u hu =>
      obtain rfl : s = nombre := Option.some.inj (hs.symm.trans hleido)
      rw [← Option.some.inj hentrada]
      exact ⟨EntradaRv.nombre_eq (Buffer.cstr_strcpy hn hu), rfl⟩

/-- There is room for names of up to 19 characters. -/
lemma exists_nuevaEntrada (heap strAux : Buffer UChar 20) (hcAddr : In6Addr) {nombre : List UChar}
    (hn : CStr nombre) (hcorto : nombre.length ≤ 19) :
    ∃ e, nuevaEntrada heap strAux hcAddr nombre = some e := by
  obtain ⟨b, hb, -⟩ := heap.exists_memcpy (List.replicate nombre.length 0) (by simp; omega)
  obtain ⟨aux, haux, -⟩ := strAux.exists_memcpy (nombre ++ [0]) (by simp; omega)
  obtain ⟨u, hu, -⟩ := b.exists_memcpy (nombre ++ [0]) (by simp; omega)
  have hleido := Buffer.cstr_strcpy hn haux
  unfold nuevaEntrada
  rw [Buffer.memzero, hb, Option.bind_some, Buffer.strcpy, haux, Option.bind_some]
  split
  next hs => simp [hleido] at hs
  next s hs =>
    obtain rfl : s = nombre := Option.some.inj (hs.symm.trans hleido)
    split
    next hno => exact absurd (hno.symm.trans hu) (by simp)
    next u' hu' => exact ⟨_, rfl⟩

lemma entradaGuardada_nombre {heap strAux : Buffer UChar 20} {rvPkt : RvCtrlPktMem}
    {detras : List UChar} {rvTable : List EntradaRv} {e : EntradaRv}
    (h : entradaGuardada heap strAux rvPkt detras rvTable = some e) :
    rvPkt.leerNombre detras = some e.nombre ∧ e.hcAddr = rvPkt.primAddr := by
  obtain ⟨nombre, hleido, hentrada⟩ := Option.bind_eq_some_iff.mp h
  rw [hleido]
  cases hfind : rvTable.find? fun aux => aux.nombre = nombre with
  | some aux =>
      rw [hfind] at hentrada
      have hnombre : aux.nombre = nombre := by simpa using List.find?_some hfind
      rw [← Option.some.inj hentrada]
      exact ⟨congrArg some hnombre.symm, rfl⟩
  | none =>
      rw [hfind] at hentrada
      obtain ⟨hnombre, haddr⟩ := nuevaEntrada_eq_some (.of_cstr hleido) hentrada
      exact ⟨congrArg some hnombre.symm, haddr⟩

lemma exists_entradaGuardada (heap strAux : Buffer UChar 20) (rvPkt : RvCtrlPktMem)
    {detras nombre : List UChar} (rvTable : List EntradaRv)
    (hleido : rvPkt.leerNombre detras = some nombre) (hcorto : nombre.length ≤ 19) :
    ∃ e, entradaGuardada heap strAux rvPkt detras rvTable = some e := by
  rw [entradaGuardada, hleido, Option.bind_some]
  split
  · exact ⟨_, rfl⟩
  · exact exists_nuevaEntrada heap strAux rvPkt.primAddr (.of_cstr hleido) hcorto

/-! ## The abstract table -/

/-- A name as text. -/
def texto (nombre : List UChar) : String := String.ofList (nombre.map fun b => Char.ofNat b.toNat)

lemma texto_injective : Function.Injective texto := by
  have hchar (x : UChar) : (Char.ofNat x.toNat).toNat = x.toNat := by
    have hvalid : x.toNat.isValidChar := Or.inl (by have := x.isLt; omega)
    rw [Char.ofNat, dif_pos hvalid]
    rfl
  intro a b h
  refine List.map_injective_iff.mpr ?_ (String.ofList_injective h)
  intro x y hxy
  exact BitVec.eq_of_toNat_eq
    ((hchar x).symm.trans ((congrArg Char.toNat hxy).trans (hchar y)))

/-- An entry as the handlers see it. -/
def EntradaRv.abs (e : EntradaRv) : LookupTable := { hcAddr := e.hcAddr, univAddr := texto e.nombre }

/-- A packet as the handlers see it, when the string in it can be read. -/
def RvCtrlPktMem.abs (rvPkt : RvCtrlPktMem) (detras : List UChar) : Option RvCtrlPkt :=
  (rvPkt.leerNombre detras).map fun nombre =>
    { type := rvPkt.type, primAddr := rvPkt.primAddr, univAddr := texto nombre }

lemma map_abs_guardar (e : EntradaRv) (p : RvCtrlPkt) (hp : p.primAddr = e.hcAddr)
    (hn : p.univAddr = texto e.nombre) (rvTable : List EntradaRv) :
    (if rvTable.any fun aux => aux.nombre = e.nombre then
        rvTable.replaceF fun aux => if aux.nombre = e.nombre then some e else none
      else rvTable ++ [e]).map EntradaRv.abs = rvTableAdd p (rvTable.map EntradaRv.abs) := by
  induction rvTable with
  | nil =>
      rw [List.map_nil, rvTableAdd, hp, hn]
      rfl
  | cons aux rvTable ih =>
      rw [List.map_cons, rvTableAdd]
      by_cases heq : aux.nombre = e.nombre
      · have habs : aux.abs.univAddr = p.univAddr := by rw [hn, ← heq]; rfl
        rw [if_pos habs, if_pos (by simp [heq]), List.replaceF, if_pos heq, List.map_cons, hp]
        exact congrArg₂ List.cons (by rw [EntradaRv.abs, EntradaRv.abs, heq]) rfl
      · have habs : aux.abs.univAddr ≠ p.univAddr := by
          rw [hn]
          exact fun hc => heq (texto_injective hc)
        rw [if_neg habs, ← ih]
        by_cases hany : rvTable.any fun aux => aux.nombre = e.nombre
        · rw [if_pos hany, if_pos (by simp [List.any_cons, hany]), List.replaceF, if_neg heq]
          rfl
        · rw [if_neg hany, if_neg (by simp [heq, hany])]
          rfl

/-- **`rv_table_add` in memory** does what it does on the entries. -/
theorem map_abs_rvTableAddMem {heap strAux : Buffer UChar 20} {rvPkt : RvCtrlPktMem}
    {detras : List UChar} {rvTable rvTable' : List EntradaRv}
    (h : rvTableAddMem heap strAux rvPkt detras rvTable = some rvTable') :
    ∃ p, rvPkt.abs detras = some p
      ∧ rvTable'.map EntradaRv.abs = rvTableAdd p (rvTable.map EntradaRv.abs) := by
  obtain ⟨e, he, rfl⟩ := Option.map_eq_some_iff.mp h
  obtain ⟨hleido, haddr⟩ := entradaGuardada_nombre he
  refine ⟨_, by rw [RvCtrlPktMem.abs, hleido, Option.map_some], ?_⟩
  exact map_abs_guardar e _ haddr.symm rfl rvTable

/-! ## The answer -/

/-- The entry `answer_rv_query` finds: its name is compared with as many characters of the packet. -/
def entradaBuscada (rvPkt : RvCtrlPktMem) (rvTable : List EntradaRv) : Option EntradaRv :=
  rvTable.find? fun aux => aux.nombre.isPrefixOf rvPkt.univAddr.units

/-- The `RV_ADDR_SOLVE` of `answer_rv_query`. -/
def answerRvQuery (heap rvPkt : RvCtrlPktMem) (detras : List UChar) (rvTable : List EntradaRv) :
    Option RvCtrlPktMem :=
  (rvPkt.leerNombre detras).bind fun nombre =>
    (heap.univAddr.memcpy nombre).map fun u =>
      match entradaBuscada rvPkt rvTable with
      | some aux =>
          { heap with
            type := .rvAddrSolve, flags := heap.flags ||| maskSolved, primAddr := aux.hcAddr
            univAddr := u }
      | none => { heap with type := .rvAddrSolve, flags := 0, univAddr := u }

/-- `antop_process_pkt` gives the packet to `answer_dns_query`, which reads its name. -/
def RvCtrlPktMem.resuelto (rvPkt : RvCtrlPktMem) : Prop := rvPkt.flags &&& maskSolved ≠ 0

/-- The flag says whether the entry was found. -/
lemma resuelto_answerRvQuery {heap rvPkt r : RvCtrlPktMem} {detras : List UChar}
    {rvTable : List EntradaRv} (h : answerRvQuery heap rvPkt detras rvTable = some r) :
    r.resuelto ↔ (entradaBuscada rvPkt rvTable).isSome := by
  obtain ⟨nombre, -, h⟩ := Option.bind_eq_some_iff.mp h
  obtain ⟨u, -, rfl⟩ := Option.map_eq_some_iff.mp h
  cases entradaBuscada rvPkt rvTable with
  | some aux =>
      have hbit : (heap.flags ||| maskSolved) &&& maskSolved = maskSolved := by
        ext i hi
        rw [BitVec.getElem_and, BitVec.getElem_or]
        cases maskSolved[i] <;> simp
      simp only [RvCtrlPktMem.resuelto, hbit, Option.isSome_some]
      decide
  | none => simp [RvCtrlPktMem.resuelto]

/-- The answer carries the name that was read. -/
lemma univAddr_answerRvQuery {heap rvPkt r : RvCtrlPktMem} {detras nombre : List UChar}
    {rvTable : List EntradaRv} (hleido : rvPkt.leerNombre detras = some nombre)
    (h : answerRvQuery heap rvPkt detras rvTable = some r) :
    heap.univAddr.memcpy nombre = some r.univAddr := by
  rw [answerRvQuery, hleido, Option.bind_some] at h
  obtain ⟨u, hu, rfl⟩ := Option.map_eq_some_iff.mp h
  rw [hu]
  split <;> rfl

lemma exists_answerRvQuery {heap : RvCtrlPktMem} {u : Buffer UChar 50} {rvPkt : RvCtrlPktMem}
    {detras nombre : List UChar} (hu : heap.univAddr.memcpy nombre = some u)
    (hleido : rvPkt.leerNombre detras = some nombre) (rvTable : List EntradaRv) :
    ∃ r, answerRvQuery heap rvPkt detras rvTable = some r := by
  rw [answerRvQuery, hleido, Option.bind_some, hu, Option.map_some]
  exact ⟨_, rfl⟩

/-! ## When the names arrive -/

/-- What a registration and a query find in memory: the packets `malloc` returns, what stands behind
their names where they are read, and the memory of `rv_table_add`. -/
structure Memoria where
  reg : RvCtrlPktMem
  trasReg : List UChar
  entrada : Buffer UChar 20
  strAux : Buffer UChar 20
  lookup : RvCtrlPktMem
  trasLookup : List UChar
  solve : RvCtrlPktMem
  trasSolve : List UChar

/-- **The names arrive**: the one `rv_table_add` stores, the one `answer_rv_query` reads, and the one
`answer_dns_query` reads when it is given the answer. -/
def NombreLlega (m : Memoria) (nombre : NombreUniversal) (registrado preguntado : In6Addr)
    (rvTable rvTable₂ : List EntradaRv) : Prop :=
  (∃ p e, registerRvPkt m.reg registrado nombre.bytes = some p
      ∧ entradaGuardada m.entrada m.strAux p m.trasReg rvTable = some e ∧ e.nombre = nombre.bytes)
    ∧ ∃ q r, solveNamePkt m.lookup preguntado nombre.bytes = some q
      ∧ q.leerNombre m.trasLookup = some nombre.bytes
      ∧ answerRvQuery m.solve q m.trasLookup rvTable₂ = some r
      ∧ (r.resuelto → r.leerNombre m.trasSolve = some nombre.bytes)

/-- A fresh packet has a zero behind the name. -/
def CeroDetras (heap : RvCtrlPktMem) (nombre : NombreUniversal) : Prop :=
  heap.univAddr.units[nombre.bytes.length]? = some 0

/-- A packet is read as it was meant exactly when fresh memory has a zero behind the name. -/
lemma leerNombre_iff {heap q : RvCtrlPktMem} {nombre : NombreUniversal}
    (h : heap.univAddr.memcpy nombre.bytes = some q.univAddr) (detras : List UChar) :
    q.leerNombre detras = some nombre.bytes ↔ CeroDetras heap nombre :=
  Buffer.cstr_memcpy_iff nombre.cstr (by have := nombre.corto; omega) h detras

lemma exists_memcpy_nombre (heap : RvCtrlPktMem) (nombre : NombreUniversal) :
    ∃ u, heap.univAddr.memcpy nombre.bytes = some u := by
  have hcorto := nombre.corto
  obtain ⟨u, hu, -⟩ := heap.univAddr.exists_memcpy nombre.bytes (by omega)
  exact ⟨u, hu⟩

lemma exists_registerRvPkt (heap : RvCtrlPktMem) (primAddr : In6Addr) (nombre : NombreUniversal) :
    ∃ p, registerRvPkt heap primAddr nombre.bytes = some p
      ∧ heap.univAddr.memcpy nombre.bytes = some p.univAddr := by
  obtain ⟨u, hu⟩ := exists_memcpy_nombre heap nombre
  rw [registerRvPkt, hu]
  exact ⟨_, rfl, rfl⟩

lemma exists_solveNamePkt (heap : RvCtrlPktMem) (primAddr : In6Addr) (nombre : NombreUniversal) :
    ∃ q, solveNamePkt heap primAddr nombre.bytes = some q
      ∧ heap.univAddr.memcpy nombre.bytes = some q.univAddr := by
  obtain ⟨u, hu⟩ := exists_memcpy_nombre heap nombre
  rw [solveNamePkt, hu]
  exact ⟨_, rfl, rfl⟩

/-- The entry that is found for a name that ends in its packet has a prefix of that name. -/
lemma isSome_entradaBuscada_iff {heap q : RvCtrlPktMem} {nombre : NombreUniversal}
    (hcopia : heap.univAddr.memcpy nombre.bytes = some q.univAddr) (hcero : CeroDetras heap nombre)
    (rvTable : List EntradaRv) :
    (entradaBuscada q rvTable).isSome ↔ ∃ e ∈ rvTable, e.nombre <+: nombre.bytes := by
  obtain ⟨-, hunits⟩ := Buffer.memcpy_eq_some_iff.mp hcopia
  have hhead : (heap.univAddr.units.drop nombre.bytes.length).head? = some 0 := by
    rw [List.head?_drop]
    exact hcero
  obtain ⟨resto, hresto⟩ := List.head?_eq_some_iff.mp hhead
  have hpref (e : EntradaRv) : e.nombre <+: q.univAddr.units ↔ e.nombre <+: nombre.bytes := by
    rw [hunits, hresto]
    exact prefix_append_zero_iff e.cstr_nombre
  rw [entradaBuscada, List.find?_isSome]
  simp only [List.isPrefixOf_iff_prefix, hpref]

/-- **When the names arrive.**  They do exactly when the packets of `register_rv` and `solve_name` are
made from memory with a zero behind the name, and that of `answer_rv_query` too when it has an entry
to answer with. -/
theorem nombre_llega_iff (m : Memoria) (nombre : NombreUniversal) (registrado preguntado : In6Addr)
    (rvTable rvTable₂ : List EntradaRv) :
    NombreLlega m nombre registrado preguntado rvTable rvTable₂ ↔
      CeroDetras m.reg nombre ∧ CeroDetras m.lookup nombre
        ∧ ((∃ e ∈ rvTable₂, e.nombre <+: nombre.bytes) → CeroDetras m.solve nombre) := by
  obtain ⟨p, hp, hcopia₁⟩ := exists_registerRvPkt m.reg registrado nombre
  obtain ⟨q, hq, hcopia₂⟩ := exists_solveNamePkt m.lookup preguntado nombre
  obtain ⟨u, hu⟩ := exists_memcpy_nombre m.solve nombre
  rw [NombreLlega, hp, hq, ← leerNombre_iff hcopia₁ m.trasReg, ← leerNombre_iff hcopia₂ m.trasLookup]
  refine and_congr ?_ ?_
  · constructor
    · rintro ⟨_, e, ⟨⟩, he, hn⟩
      rw [(entradaGuardada_nombre he).1, hn]
    · intro hleido
      obtain ⟨e, he⟩ := exists_entradaGuardada m.entrada m.strAux p rvTable hleido nombre.corto
      obtain ⟨hn, -⟩ := entradaGuardada_nombre he
      exact ⟨p, e, rfl, he, Option.some.inj (hn.symm.trans hleido)⟩
  · have hresuelto {r : RvCtrlPktMem} (hleido : q.leerNombre m.trasLookup = some nombre.bytes)
        (hr : answerRvQuery m.solve q m.trasLookup rvTable₂ = some r) :
        (r.resuelto → r.leerNombre m.trasSolve = some nombre.bytes)
          ↔ ((∃ e ∈ rvTable₂, e.nombre <+: nombre.bytes) → CeroDetras m.solve nombre) := by
      have hcero := (leerNombre_iff hcopia₂ m.trasLookup).mp hleido
      rw [resuelto_answerRvQuery hr, isSome_entradaBuscada_iff hcopia₂ hcero,
        leerNombre_iff (univAddr_answerRvQuery hleido hr)]
    constructor
    · rintro ⟨_, r, ⟨⟩, hleido, hr, hsolve⟩
      exact ⟨hleido, (hresuelto hleido hr).mp hsolve⟩
    · rintro ⟨hleido, hsolve⟩
      obtain ⟨r, hr⟩ := exists_answerRvQuery hu hleido rvTable₂
      exact ⟨q, r, rfl, hleido, hr, (hresuelto hleido hr).mpr hsolve⟩

/-- Fresh memory that has held a name of two characters, `xx`. -/
def paqueteUsado : RvCtrlPktMem where
  type := .rvReg
  flags := 0
  id := 0
  n := 0
  primAddr := .zero
  univAddr := ⟨[120, 120] ++ List.replicate 48 0, rfl⟩
  srcAddr := .zero

/-- The name `a`. -/
def nombreA : NombreUniversal where
  bytes := [97]
  cstr := by simp [CStr]
  noVacio := by decide
  corto := by decide

/-- The name `a` is stored as `ax`. -/
theorem name_without_terminator :
    ¬ ∀ (m : Memoria) (nombre : NombreUniversal) (registrado preguntado : In6Addr)
      (rvTable rvTable₂ : List EntradaRv),
      NombreLlega m nombre registrado preguntado rvTable rvTable₂ := by
  intro h
  obtain ⟨⟨p, e, hp, he, hn⟩, -⟩ := h ⟨paqueteUsado, [], ⟨List.replicate 20 0, rfl⟩,
    ⟨List.replicate 20 0, rfl⟩, paqueteUsado, [], paqueteUsado, []⟩ nombreA root root [] []
  have hleido : p.leerNombre [] = some [97, 120] := by
    rw [← Option.some.inj hp]
    decide
  rw [(entradaGuardada_nombre he).1, hn] at hleido
  exact absurd hleido (by decide)

end Antop
