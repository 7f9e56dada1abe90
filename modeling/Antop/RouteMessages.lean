import Antop.AttributeTable
import Antop.NetlinkDump
import Antop.RouteDump

/-!
# Routes as messages

The routes of the kernel reach `rt_table_dump` as messages, in one datagram or in several, and the last message
says that there are no more.  A route is added and deleted with a message of the same kind.

* `dataCbMsg`, `rtTableDumpMsgs` — `data_cb` and `rt_table_dump`, on the bytes that are received.
* `MensajeRuta` — a message about a route.
* **`rtTableDumpMsgs_eq`** — whatever the answer looks like, the list is that of `rtTableDump`.
* `pedirRuta` — the request of `add_rt_route`, `del_rt_route` and `del_rt_route2`.
* **`dataCbMsg_pedirRuta`** — the parameters of a request are read back from it.
-/

namespace Antop

open Memory Chain Loop

/-! ## `rt_table_dump` on bytes -/

/-- The types that `data_attr_cb` validates: `RTA_TABLE`, `RTA_DST`, `RTA_SRC`, `RTA_OIF`, `RTA_FLOW`,
`RTA_PREFSRC`, `RTA_GATEWAY` and `RTA_METRICS`. -/
def rtaAnidados : List ℕ := [15, 1, 2, 4, 11, 7, 5, 8]

/-- What `data_cb` reads of a message, with the attributes `RTA_TABLE`, `RTA_DST`, `RTA_PRIORITY` and
`RTA_GATEWAY`. -/
def leerRuta (m : List UChar) (nlh : ℕ) (tb : ℕ → Option ℕ) : RutaKernel where
  rtmDstLen := byte m (nlh + 17)
  rtmTable := byte m (nlh + 20)
  table := (tb 15).map (mnlAttrGetU32 m)
  dst := (tb 1).map (leerDir m)
  priority := (tb 6).map (mnlAttrGetU32 m)
  gateway := (tb 5).map (leerDir m)

/-- `data_cb`.  A route that is not of the family `AF_INET6` only sets the length of the prefix. -/
def dataCbMsg (rtaMax : ℕ) (fresca : ℕ → Route) (m : List UChar) (nlh : ℕ) (l : ListaRutas) : ListaRutas × ℤ :=
  let tb := tablaDe rtaMax rtaAnidados m nlh 12
  if byte m (nlh + 16) = 10 then (dataCb fresca l (leerRuta m nlh tb), mnlCbOk)
  else ({ l with rtPtr := { l.rtPtr with dstMask := (byte m (nlh + 17)).toNat } }, mnlCbOk)

/-- `rt_table_dump`, when the kernel sends the datagrams `ds`: the list, or `NULL` after an error; `none` when it waits
for more. -/
def rtTableDumpMsgs (rtaMax seq portid : ℕ) (m : MemRutas) (buf : List UChar) (ds : List (Option (List UChar)))
    (routeT : List Route) : Option (Option (List Route)) :=
  (pedirTabla seq portid (dataCbMsg rtaMax m.fresca) buf ds (alPrincipio m routeT)).map fun r =>
    if r.2 = -1 then none else some r.1.todas

/-! ## What the kernel sends -/

/-- A message about a route, with its attributes in any order and others between them. -/
structure MensajeRuta (u : List UChar) (r : RutaKernel) : Prop extends Mensaje u where
  alineado : 4 ∣ u.length
  tipo : 16 ≤ nlmsgType u 0
  familia : byte u 16 = 10
  dstLen : byte u 17 = r.rtmDstLen
  rtmTable : byte u 20 = r.rtmTable
  atributos : ∃ as, Puestos u 28 as u.length ∧ Validos rtaAnidados as
    ∧ ultimo as 15 = r.table.map (fun t => LittleEndian.bytes 4 t.toNat)
    ∧ ultimo as 1 = r.dst.map In6Addr.bytes
    ∧ ultimo as 6 = r.priority.map (fun p => LittleEndian.bytes 4 p.toNat)
    ∧ ultimo as 5 = r.gateway.map In6Addr.bytes

section Lugar

variable {m u : List UChar} {nlh : ℕ}

/-- **A message about a route** is read as this route, wherever it lies. -/
theorem dataCbMsg_of_mensajeRuta {rtaMax : ℕ} {fresca : ℕ → Route} {r : RutaKernel} (hmax : 15 ≤ rtaMax)
    (h : MensajeRuta u r) (hu : slice m nlh u.length = u) (l : ListaRutas) :
    dataCbMsg rtaMax fresca m nlh l = (dataCb fresca l r, mnlCbOk) := by
  obtain ⟨as, hputs, hval, htable, hdst, hpriority, hgateway⟩ := h.atributos
  have hlargo : 28 ≤ u.length := Format.Laid.le hputs
  have hcorto := h.corto
  have htail : mnlNlmsgGetPayloadTail m nlh = nlh + u.length := by
    rw [mnlNlmsgGetPayloadTail, nlmsgLen_lugar h.toMensaje hu, mnlAlign_of_dvd h.alineado,
      Nat.mod_eq_of_lt (by omega)]
  have hshift : Puestos m (mnlNlmsgGetPayloadOffset nlh 12) as (mnlNlmsgGetPayloadTail m nlh) := by
    rw [htail]
    exact Format.Laid.shift hputs hu (le_refl _)
  have hrel {k : ℕ} (hk : k ≤ 15) := tablaDe_rel hshift (by omega) hval (hk.trans hmax)
  have hruta : leerRuta m nlh (tablaDe rtaMax rtaAnidados m nlh 12) = r := by
    have htb15 := hrel (k := 15) (by decide)
    have htb1 := hrel (k := 1) (by decide)
    have htb6 := hrel (k := 6) (by decide)
    have htb5 := hrel (k := 5) (by decide)
    rw [htable] at htb15
    rw [hdst] at htb1
    rw [hpriority] at htb6
    rw [hgateway] at htb5
    rw [leerRuta, map_of_rel htb15 fun _ _ => mnlAttrGetU32_of_apunta, map_of_rel htb1 fun _ _ => leerDir_of_apunta,
      map_of_rel htb6 fun _ _ => mnlAttrGetU32_of_apunta, map_of_rel htb5 fun _ _ => leerDir_of_apunta,
      byte_lugar hu (by omega), byte_lugar hu (by omega), h.dstLen, h.rtmTable]
  rw [dataCbMsg, byte_lugar hu (by omega), hruta, if_pos h.familia]

end Lugar

/-! ## Requests -/

/-- The headers of the message that `add_rt_route`, `del_rt_route` and `del_rt_route2` build. -/
def cabecerasRuta (tipo seq : ℕ) (mask : UChar) (buf : List UChar) : List UChar :=
  let m := mnlNlmsgPutHeader buf
  let m := put m 4 (LittleEndian.bytes 2 tipo)
  -- `NLM_F_REQUEST | NLM_F_CREATE`
  let m := put m 6 (LittleEndian.bytes 2 0x401)
  let m := put m 8 (LittleEndian.bytes 4 seq)
  let m := mnlNlmsgPutExtraHeader m 0 12
  let m := put m 16 [10]
  let m := put m 17 [mask]
  let m := put m 18 [0]
  let m := put m 19 [0]
  -- `RTPROT_BOOT`, `RT_TABLE_MAIN`, `RTN_UNICAST` and `RT_SCOPE_LINK`
  let m := put m 21 [3]
  let m := put m 20 [254]
  let m := put m 23 [1]
  let m := put m 22 [253]
  put m 24 (LittleEndian.bytes 4 0)

/-- The message: its type is `RTM_NEWROUTE`, 24, or `RTM_DELROUTE`, 25. -/
def rutaMsg (tipo seq : ℕ) (ifindex : BitVec 32) (dst gtw : In6Addr) (mask : UChar) (distance : BitVec 32)
    (buf : List UChar) : List UChar :=
  let m := cabecerasRuta tipo seq mask buf
  let m := mnlAttrPut 0 m 1 dst.bytes
  let m := mnlAttrPutU32 0 m 4 ifindex
  let m := mnlAttrPutU32 0 m 6 distance
  mnlAttrPut 0 m 5 gtw.bytes

/-- What is sent: `nlmsg_len` bytes of the buffer. -/
def pedirRuta (tipo seq : ℕ) (ifindex : BitVec 32) (dst gtw : In6Addr) (mask : UChar) (distance : BitVec 32)
    (buf : List UChar) : List UChar :=
  let m := rutaMsg tipo seq ifindex dst gtw mask distance buf
  m.take (nlmsgLen m 0)

lemma cabe_u32 (v : BitVec 32) : (LittleEndian.bytes 4 v.toNat).length + 4 < 65536 := by simp

/-- The attributes of a request. -/
def atributosRuta (ifindex : BitVec 32) (dst gtw : In6Addr) (distance : BitVec 32) : List Atributo :=
  [⟨1, dst.bytes, cabe_bytes dst⟩, ⟨4, LittleEndian.bytes 4 ifindex.toNat, cabe_u32 ifindex⟩,
    ⟨6, LittleEndian.bytes 4 distance.toNat, cabe_u32 distance⟩, ⟨5, gtw.bytes, cabe_bytes gtw⟩]

/-- The route that a request is about. -/
def rutaPedida (dst gtw : In6Addr) (mask : UChar) (distance : BitVec 32) : RutaKernel :=
  { rtmDstLen := mask, rtmTable := 254, table := none, dst := some dst, priority := some distance,
    gateway := some gtw }

section Peticion

variable {tipo seq : ℕ} {ifindex distance : BitVec 32} {dst gtw : In6Addr} {mask : UChar} {buf : List UChar}

lemma byte_put (m bs : List UChar) (off i : ℕ) :
    byte (put m off bs) i = if off ≤ i ∧ i < off + bs.length ∧ i < m.length then byte bs (i - off) else byte m i := by
  simp only [byte, List.getD_eq_getElem?_getD, getElem?_put]
  rcases Nat.lt_or_ge i m.length with hi | hi
  · rw [List.getElem?_eq_getElem hi, Option.map_some, Option.getD_some, Option.getD_some]
    by_cases hoff : off ≤ i
    · by_cases hend : i < off + bs.length
      · rw [if_pos hoff, if_pos ⟨hoff, hend, hi⟩, List.getElem?_eq_getElem (by omega), Option.getD_some,
          Option.getD_some]
      · rw [if_pos hoff, if_neg fun h => hend h.2.1, List.getElem?_eq_none (by omega), Option.getD_none]
    · rw [if_neg hoff, if_neg fun h => hoff h.1]
  · rw [List.getElem?_eq_none hi, if_neg fun h => absurd h.2.2 (Nat.not_lt.mpr hi)]
    rfl

/-- What is written into the header of the route. -/
def escritosRuta (mask : UChar) : List (ℕ × List UChar) :=
  [(16, [10]), (17, [mask]), (18, [0]), (19, [0]), (21, [3]), (20, [254]), (23, [1]), (22, [253]),
    (24, LittleEndian.bytes 4 0)]

/-- The first header, with the fields that are set in it. -/
def primeraCabecera (tipo seq : ℕ) (buf : List UChar) : List UChar :=
  put (put (put (mnlNlmsgPutHeader buf) 4 (LittleEndian.bytes 2 tipo)) 6 (LittleEndian.bytes 2 0x401)) 8
    (LittleEndian.bytes 4 seq)

lemma cabecerasRuta_eq (tipo seq : ℕ) (mask : UChar) (buf : List UChar) :
    cabecerasRuta tipo seq mask buf
      = puts (mnlNlmsgPutExtraHeader (primeraCabecera tipo seq buf) 0 12) (escritosRuta mask) := by
  simp only [cabecerasRuta, escritosRuta, primeraCabecera, puts, List.foldl_cons, List.foldl_nil]

@[simp] lemma length_primeraCabecera : (primeraCabecera tipo seq buf).length = buf.length := by
  simp [primeraCabecera]

lemma nlmsgLen_primeraCabecera (hbuf : 4 ≤ buf.length) : nlmsgLen (primeraCabecera tipo seq buf) 0 = 16 := by
  rw [nlmsgLen, primeraCabecera, campoHost_put_of_disjoint (.inl (by decide)),
    campoHost_put_of_disjoint (.inl (by decide)), campoHost_put_of_disjoint (.inl (by decide))]
  exact nlmsgLen_mnlNlmsgPutHeader hbuf

lemma escritosRuta_dentro {w : ℕ × List UChar} (hw : w ∈ escritosRuta mask) :
    16 ≤ w.1 ∧ w.1 + w.2.length ≤ 16 + mnlAlign 12 := by
  revert w
  simp [escritosRuta, mnlAlign]

/-- **The headers.** -/
lemma construido_cabecerasRuta (tipo seq : ℕ) (mask : UChar) (hbuf : 28 ≤ buf.length) (hlen : buf.length < 2 ^ 32) :
    Construido (cabecerasRuta tipo seq mask buf) 12 [] ∧ nlmsgLen (cabecerasRuta tipo seq mask buf) 0 = 28 := by
  have hhead : nlmsgLen (primeraCabecera tipo seq buf) 0 = 16 := nlmsgLen_primeraCabecera (by omega)
  obtain ⟨hnil, hnew⟩ := construido_nil (k := 12) hhead (by simpa [mnlAlign] using hbuf) (by simpa using hlen)
  have hws : ∀ w ∈ escritosRuta mask, 4 ≤ w.1 ∧ w.1 + w.2.length ≤ 16 + mnlAlign 12 := fun w hw =>
    ⟨le_trans (by decide) (escritosRuta_dentro hw).1, (escritosRuta_dentro hw).2⟩
  obtain ⟨hall, hend⟩ := hnil.puts hws
  rw [cabecerasRuta_eq, hend, hnew]
  exact ⟨hall, rfl⟩

lemma length_cabecerasRuta : (cabecerasRuta tipo seq mask buf).length = buf.length := by
  simp [cabecerasRuta]

/-- The family, the length of the prefix and the table. -/
lemma byte_cabecerasRuta (tipo seq : ℕ) (mask : UChar) (hbuf : 28 ≤ buf.length) :
    byte (cabecerasRuta tipo seq mask buf) 16 = 10 ∧ byte (cabecerasRuta tipo seq mask buf) 17 = mask
      ∧ byte (cabecerasRuta tipo seq mask buf) 20 = 254 := by
  have h16 : 16 < buf.length := by omega
  have h17 : 17 < buf.length := by omega
  have h20 : 20 < buf.length := by omega
  refine ⟨?_, ?_, ?_⟩
  · simp [cabecerasRuta, byte_put, h16]
    rfl
  · simp [cabecerasRuta, byte_put, h17]
    rfl
  · simp [cabecerasRuta, byte_put, h20]
    rfl

/-- The type. -/
lemma nlmsgType_cabecerasRuta (tipo seq : ℕ) (mask : UChar) (hbuf : 28 ≤ buf.length) :
    nlmsgType (cabecerasRuta tipo seq mask buf) 0 = tipo % 65536 := by
  have hhead : nlmsgLen (primeraCabecera tipo seq buf) 0 = 16 := nlmsgLen_primeraCabecera (by omega)
  have hself : campoHost (put (mnlNlmsgPutHeader buf) 4 (LittleEndian.bytes 2 tipo)) 4 2 = tipo % 256 ^ 2 :=
    campoHost_put_self tipo (by rw [length_mnlNlmsgPutHeader]; omega)
  have hbehind : ∀ w ∈ escritosRuta mask, 4 + 2 ≤ w.1 ∨ w.1 + w.2.length ≤ 4 := fun w hw =>
    .inl (le_trans (by decide) (escritosRuta_dentro hw).1)
  rw [nlmsgType, Nat.zero_add, cabecerasRuta_eq, campoHost_puts hbehind, mnlNlmsgPutExtraHeader, hhead,
    campoHost_put_of_disjoint (.inl (by decide)), conNlmsgLen, campoHost_put_of_disjoint (.inr (by simp)),
    primeraCabecera, campoHost_put_of_disjoint (.inl (by decide)), campoHost_put_of_disjoint (.inl (by decide)), hself]
  rfl

/-- The message is the headers with the attributes. -/
lemma rutaMsg_eq (tipo seq : ℕ) (ifindex : BitVec 32) (dst gtw : In6Addr) (mask : UChar) (distance : BitVec 32)
    (buf : List UChar) :
    rutaMsg tipo seq ifindex dst gtw mask distance buf
      = ponerTodos (cabecerasRuta tipo seq mask buf) (atributosRuta ifindex dst gtw distance) := by
  simp only [rutaMsg, ponerTodos, atributosRuta, List.foldl_cons, List.foldl_nil, mnlAttrPutU32]
  rfl

lemma ultimo_atributosRuta :
    ultimo (atributosRuta ifindex dst gtw distance) 15 = none
      ∧ ultimo (atributosRuta ifindex dst gtw distance) 1 = some dst.bytes
      ∧ ultimo (atributosRuta ifindex dst gtw distance) 6 = some (LittleEndian.bytes 4 distance.toNat)
      ∧ ultimo (atributosRuta ifindex dst gtw distance) 5 = some gtw.bytes := by
  simp [ultimo, atributosRuta, Atributo.clase]

lemma ocupan_atributosRuta : ocupan (atributosRuta ifindex dst gtw distance) = 56 := by
  simp [ocupan, atributosRuta, mnlAlign]

/-- **A request** is a message about the route. -/
theorem mensajeRuta_pedirRuta (seq : ℕ) (ifindex distance : BitVec 32) (dst gtw : In6Addr) (mask : UChar)
    (htipo : tipo = 24 ∨ tipo = 25) (hbuf : 84 ≤ buf.length) (hlen : buf.length < 2 ^ 31) :
    MensajeRuta (pedirRuta tipo seq ifindex dst gtw mask distance buf) (rutaPedida dst gtw mask distance)
      ∧ nlmsgType (pedirRuta tipo seq ifindex dst gtw mask distance buf) 0 = tipo
      ∧ (pedirRuta tipo seq ifindex dst gtw mask distance buf).length = 84 := by
  have hbuf28 : 28 ≤ buf.length := by omega
  obtain ⟨hcab, hcabLen⟩ := construido_cabecerasRuta tipo seq mask hbuf28 (by omega)
  have hsize : (cabecerasRuta tipo seq mask buf).length = buf.length := length_cabecerasRuta
  have hocupan : ocupan (atributosRuta ifindex dst gtw distance) = 56 := ocupan_atributosRuta
  have hlen32 : (cabecerasRuta tipo seq mask buf).length < 2 ^ 32 := by omega
  have hroom : nlmsgLen (cabecerasRuta tipo seq mask buf) 0 + ocupan (atributosRuta ifindex dst gtw distance)
      ≤ (cabecerasRuta tipo seq mask buf).length := by omega
  obtain ⟨hall, hend⟩ := hcab.ponerTodos hlen32 hroom
  have hend84 : nlmsgLen (ponerTodos (cabecerasRuta tipo seq mask buf) (atributosRuta ifindex dst gtw distance)) 0
      = 84 := by
    rw [hend, hcabLen, hocupan]
  have hframe {i n : ℕ} (hi : 4 ≤ i) (hn : i + n ≤ 28) := hcab.slice_ponerTodos hlen32 hroom hi (hcabLen ▸ hn)
  obtain ⟨hfamily, hmask, htable⟩ := byte_cabecerasRuta tipo seq mask hbuf28
  have htype := nlmsgType_cabecerasRuta tipo seq mask hbuf28
  rw [pedirRuta, rutaMsg_eq, hend84]
  generalize hM : ponerTodos (cabecerasRuta tipo seq mask buf) (atributosRuta ifindex dst gtw distance) = M at *
  have hMlen : M.length = buf.length := by rw [← hM, length_ponerTodos, hsize]
  -- what is sent is the start of the buffer
  have hulen : (M.take 84).length = 84 := by
    rw [List.length_take]
    omega
  have hcampo {i n : ℕ} (hin : i + n ≤ 84) : campoHost (M.take 84) i n = campoHost M i n := by
    rw [campoHost, slice_take_of_le hin, campoHost]
  have hbyte {i : ℕ} (hi : 4 ≤ i) (hin : i + 1 ≤ 28) :
      byte (M.take 84) i = byte (cabecerasRuta tipo seq mask buf) i :=
    byte_congr ((slice_take_of_le (by omega)).trans (hframe hi hin))
  have htipo' : nlmsgType (M.take 84) 0 = tipo := by
    rw [nlmsgType, hcampo (by decide), campoHost, hframe (by decide) (by decide), ← campoHost, ← nlmsgType, htype]
    omega
  refine ⟨⟨⟨?_, ?_, ?_⟩, ?_, ?_, ?_, ?_, ?_, ?_⟩, htipo', hulen⟩
  · omega
  · rw [nlmsgLen, hcampo (by decide), ← nlmsgLen, hend84, hulen]
  · omega
  · rw [hulen]
    decide
  · omega
  · rw [hbyte (by decide) (by decide), hfamily]
  · rw [hbyte (by decide) (by decide), hmask]
    rfl
  · rw [hbyte (by decide) (by decide), htable]
    rfl
  · refine ⟨atributosRuta ifindex dst gtw distance, ?_, ?_, ultimo_atributosRuta⟩
    · rw [hulen]
      have hputs := hall.puestos
      rw [hend84] at hputs
      exact hputs.of_slice fun i n _ hn => slice_take_of_le hn
    · intro a ha _
      revert a
      simp [atributosRuta]

/-- **A request** is read back as what it asks for: `data_cb` gets the destination, the gateway, the prefix length and
the distance of the route that is added or deleted. -/
theorem dataCbMsg_pedirRuta {rtaMax : ℕ} (hmax : 15 ≤ rtaMax) (htipo : tipo = 24 ∨ tipo = 25)
    (hbuf : 84 ≤ buf.length) (hlen : buf.length < 2 ^ 31) (fresca : ℕ → Route) (l : ListaRutas) :
    (pedirRuta tipo seq ifindex dst gtw mask distance buf).length = 84
      ∧ nlmsgType (pedirRuta tipo seq ifindex dst gtw mask distance buf) 0 = tipo
      ∧ dataCbMsg rtaMax fresca (pedirRuta tipo seq ifindex dst gtw mask distance buf) 0 l
        = (avanzar fresca { l with rtPtr := { l.rtPtr with
            dst := dst, gtw := gtw, dstMask := mask.toNat, distance := distance.toInt } }, mnlCbOk) := by
  obtain ⟨hmensaje, htype, hsize⟩ := mensajeRuta_pedirRuta seq ifindex distance dst gtw mask htipo hbuf hlen
  refine ⟨hsize, htype, ?_⟩
  rw [dataCbMsg_of_mensajeRuta hmax hmensaje (by rw [slice, List.drop_zero, List.take_length])]
  rfl

end Peticion

/-- The request that deletes a route of distance 64. -/
theorem dataCbMsg_pedirRuta_del :
    (pedirRuta 25 7 2 root root 128 64 (List.replicate 84 0)).length = 84
      ∧ nlmsgType (pedirRuta 25 7 2 root root 128 64 (List.replicate 84 0)) 0 = 25
      ∧ dataCbMsg 30 (fun _ => rutaVacia) (pedirRuta 25 7 2 root root 128 64 (List.replicate 84 0)) 0
          ⟨[], rutaVacia, []⟩
        = (avanzar (fun _ => rutaVacia) ⟨[], { rutaVacia with
            dst := root, gtw := root, dstMask := 128, distance := 64 }, []⟩, mnlCbOk) := by
  have hzeros : (List.replicate 84 (0 : UChar)).length = 84 := List.length_replicate
  exact dataCbMsg_pedirRuta (by decide) (.inr rfl) hzeros.ge (by rw [hzeros]; decide) _ _

/-! ## The dump -/

/-- **The dump.**  However the kernel orders the attributes of a route and cuts its answer into datagrams, and whatever
was in the buffer, `rt_table_dump` returns the list of `rtTableDump`. -/
theorem rtTableDumpMsgs_eq {rtaMax seq portid : ℕ} (hmax : 15 ≤ rtaMax) {buf : List UChar} (hsize : buf.length < 2 ^ 31)
    {ds : List (List UChar)} {tabla : List RutaKernel} (h : Contestan seq portid buf.length MensajeRuta ds tabla)
    (m : MemRutas) (routeT : List Route) :
    rtTableDumpMsgs rtaMax seq portid m buf (ds.map some) routeT = some (some (rtTableDump m tabla routeT)) := by
  have hhace : Hace (dataCbMsg rtaMax m.fresca) MensajeRuta (dataCb m.fresca) :=
    fun _ _ _ _ l _ hr hu => ⟨hr.tipo, dataCbMsg_of_mensajeRuta hmax hr hu l⟩
  rw [rtTableDumpMsgs, pedirTabla_eq hhace hsize h]
  rfl

/-- A message about a route to the root. -/
def rutaAlRoot : List UChar := pedirRuta 24 7 2 root root 128 1 (List.replicate 84 0)

set_option maxRecDepth 4000 in
/-- The message and the end in two datagrams, and a buffer full of nines. -/
theorem rtTableDumpMsgs_eq_root :
    rtTableDumpMsgs 30 7 0 ⟨rutaVacia, [], fun _ => rutaVacia⟩ (List.replicate 100 9)
        ([rutaAlRoot, finDeVolcado].map some) [rutaVacia]
      = some (some (rtTableDump ⟨rutaVacia, [], fun _ => rutaVacia⟩ [rutaPedida root root 128 1] [rutaVacia])) := by
  have hzeros : (List.replicate 84 (0 : UChar)).length = 84 := List.length_replicate
  obtain ⟨hruta, -, hlen⟩ := mensajeRuta_pedirRuta 7 2 1 root root 128 (.inl rfl) hzeros.ge (by rw [hzeros]; decide)
  have hfin : Mensaje finDeVolcado := ⟨by decide, by decide, by decide⟩
  have hprimero : Datagrama 7 0 100 rutaAlRoot [rutaAlRoot] :=
    datagrama_singleton hruta.toMensaje (by rw [rutaAlRoot, hlen]; decide) hruta.alineado (by decide)
  have hsegundo : Datagrama 7 0 100 finDeVolcado ([] ++ finDeVolcado :: []) :=
    datagrama_singleton hfin (by decide) (by decide) (by decide)
  have hresto : Contestan 7 0 100 MensajeRuta [finDeVolcado] [] := .ultimo hsegundo .nil (by decide)
  have hbuf : (List.replicate 100 (9 : UChar)).length = 100 := List.length_replicate
  exact rtTableDumpMsgs_eq (by decide) (by rw [hbuf]; decide)
    (hbuf ▸ .otro hprimero (List.cons_ne_nil _ _) (.cons hruta .nil) hresto) _ _

end Antop
