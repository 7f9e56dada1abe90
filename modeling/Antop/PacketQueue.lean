import Antop.Nfnetlink
import Antop.Library.Transition

/-!
# The queue of packets

The kernel puts the packets that pass a hook into a queue, and sends each as a message of its own to the daemon.
`handle_packet` receives a message into a buffer of 4096 bytes; its packet goes through `print_pkt`, and `cb` sends a
verdict with the identifier of the packet, and the packet as it has become.

* `Demonio` — what `print_pkt` calls: each call changes the tables of the daemon, or does not return.
* `Demonio.printPkt`, `Demonio.cb` — a packet, and what the kernel is told; `Demonio.cb_puro` compares them with `cb`.
* `nfqCb`, `setVerdict`, `handlePacket` — a message, and the message of `__set_verdict`.
* `leerVeredicto` — what a verdict says: for which packet, and what the kernel is to emit.
* **`veredictos_de_cola`** — over any run, the verdicts are those of `Demonio.cb`, one for each packet that is received
  whole, in their order, and the daemon stops at the same packet.
* **`paquete_contestado_iff`** — a packet gets its verdict exactly when its message fits in the buffer and `print_pkt`
  returns.
-/

namespace Antop

open CString Memory Chain Transition

/-! ## Packets in the queue -/

/-- `ph->hook`. -/
def Hook.code : Hook → UChar
  | .preRouting => 0
  | .localIn => 1
  | .forward => 2
  | .localOut => 3
  | .postRouting => 4

/-- The hook with a number. -/
def Hook.ofCode (b : UChar) : Option Hook :=
  if b = 0 then some .preRouting
  else if b = 1 then some .localIn
  else if b = 2 then some .forward
  else if b = 3 then some .localOut
  else if b = 4 then some .postRouting
  else none

@[simp] lemma Hook.ofCode_code (hook : Hook) : Hook.ofCode hook.code = some hook := by
  cases hook <;> rfl

/-- A packet in the queue.  The header behind its IPv6 header, which `print_pkt` reads, is complete. -/
structure Encolado where
  id : BitVec 32
  hook : Hook
  pkt : Ipv6Pkt
  cabe : pkt.bytes.length + 4 < 65536
  entero : 40 + (if byte pkt.bytes 6 = 6 then 20 else if byte pkt.bytes 6 = 58 ∨ byte pkt.bytes 6 = 17 then 8 else 0)
    ≤ pkt.bytes.length

/-! ## The daemon -/

/-- The daemon, with `σ` its tables and the rest of its memory.  `route`, `answer_dns_query` and what `LOCAL_IN` does for
an echo request are given the packet and may change both; they are `none` when they do not return.  `detras` lies behind
the packet on the heap, and `pila` on the stack of `__set_verdict`.  `retorno` is what `cb` returns: in `LOCAL_OUT` what
`sendmsg` has returned, and no value in the other hooks. -/
structure Demonio (σ : Type*) where
  origen : σ → Origen
  detras : σ → List UChar
  route : Hook → List UChar → σ → Option (σ × List UChar × Bool)
  length_route : ∀ {hook data s r}, route hook data s = some r → r.2.1.length = data.length
  addRtRoute : List UChar → σ → Option σ
  answerDnsQuery : List UChar → σ → Option (σ × List UChar)
  pila : σ → Buffer UChar 40
  retorno : σ → ℤ

/-- An echo request; in `LOCAL_IN` a route to its source is added. -/
def esEco (p : List UChar) : Prop := byte p 6 = 58 ∧ byte p 40 = 128

instance (p : List UChar) : Decidable (esEco p) := by
  unfold esEco
  infer_instance

namespace Demonio

variable {σ : Type*} (d : Demonio σ)

/-- What is done with a UDP packet.  The tests on a query and on a rendezvous packet read on behind a short one. -/
def conUdp (ret : ℕ) (data : List UChar) (s : σ) : Option (σ × List UChar) :=
  (if esConsulta (data ++ d.detras s) then d.answerDnsQuery (put data 8 (d.origen s).primAddr.bytes) s
    else some (s, data)).map fun r =>
      (r.1, (conMarcaRv (conPuertoDns ret r.2 ++ d.detras r.1)).take r.2.length)

/-- The packet `print_pkt` makes in `LOCAL_OUT`. -/
def conOpcion (p : List UChar) (s : σ) : Option (σ × List UChar) :=
  let data := conFrom (d.origen s).primAddr p
  let data := if byte p 6 = 58 then conIcmp p.length data else data
  (if byte p 6 = 17 then d.conUdp p.length data s else some (s, data)).map fun r =>
    (r.1, conNat (d.origen r.1).natTable r.2)

/-- `print_pkt`: the packet in user space, its size and whether it is accepted. -/
def printPkt (hook : Hook) (p : List UChar) (s : σ) : Option (σ × List UChar × ℕ × Bool) :=
  match hook with
  | .forward => (d.route .forward (copia p) s).map fun r => (r.1, r.2.1, p.length, true)
  | .localIn =>
      (if esEco p then d.addRtRoute (copia p) s else some s).map fun s => (s, copia p, p.length, true)
  | .preRouting => (d.route .preRouting (copia p) s).map fun r => (r.1, r.2.1, p.length, !r.2.2)
  | .localOut =>
      if esVecindad p then some (s, copia p, p.length, true)
      else (d.conOpcion p s).bind fun r =>
        (d.route .localOut r.2 r.1).map fun r => (r.1, r.2.1, p.length + 32, true)
  | .postRouting => some (s, copia p, p.length, true)

/-- What `cb` tells the kernel, after `print_pkt` has returned. -/
def cb (hook : Hook) (p : List UChar) (s : σ) : Option (σ × Veredicto) :=
  (d.printPkt hook p s).map fun (s, data, pktSize, accept) =>
    (s, match hook with
      | .localOut => .sinCambios
      | .preRouting => if accept then .con (data.take pktSize) else .descartado
      | _ => .con (data.take pktSize))

end Demonio

section Puro

variable {ruta : Hook → List UChar → List UChar × Bool}

/-- A daemon that always returns and keeps its tables, as the model of `print_pkt` for one packet has it. -/
def Demonio.puro (ruta : Hook → List UChar → List UChar × Bool)
    (hruta : ∀ hook data, (ruta hook data).1.length = data.length) (o : Origen) : Demonio Unit where
  origen _ := o
  detras _ := []
  route hook data s := some (s, ruta hook data)
  length_route := by
    rintro hook data s r ⟨⟩
    exact hruta hook data
  addRtRoute _ s := some s
  answerDnsQuery data s := some (s, data)
  pila _ := .filled 40 0
  retorno _ := 0

lemma length_conPuertoDns (ret : ℕ) (data : List UChar) : (conPuertoDns ret data).length = data.length := by
  unfold conPuertoDns
  dsimp only
  split_ifs <;> simp

lemma length_conMarcaRv (data : List UChar) : (conMarcaRv data).length = data.length := by
  unfold conMarcaRv
  split_ifs <;> simp

lemma Demonio.conUdp_puro (hruta : ∀ hook data, (ruta hook data).1.length = data.length) (o : Origen) (ret : ℕ)
    (data : List UChar) :
    (Demonio.puro ruta hruta o).conUdp ret data () = some ((), Antop.conUdp o.primAddr ret data) := by
  have hmarca (data : List UChar) :
      (conMarcaRv (conPuertoDns ret data ++ [])).take data.length = conMarcaRv (conPuertoDns ret data) := by
    rw [List.append_nil]
    exact List.take_of_length_le (by rw [length_conMarcaRv, length_conPuertoDns])
  rw [Demonio.conUdp, Antop.conUdp]
  change (if esConsulta (data ++ []) then some ((), put data 8 o.primAddr.bytes) else some ((), data)).map
    (fun r => ((), (conMarcaRv (conPuertoDns ret r.2 ++ [])).take r.2.length)) = _
  rw [List.append_nil]
  split_ifs
  · exact congrArg (fun b => some ((), b)) (hmarca _)
  · exact congrArg (fun b => some ((), b)) (hmarca _)

lemma Demonio.conOpcion_puro (hruta : ∀ hook data, (ruta hook data).1.length = data.length) (o : Origen)
    (p : List UChar) :
    (Demonio.puro ruta hruta o).conOpcion p () = some ((), Antop.conOpcion o p) := by
  have hudp (data : List UChar) :
      (if byte p 6 = 17 then (Demonio.puro ruta hruta o).conUdp p.length data () else some ((), data))
        = some ((), if byte p 6 = 17 then Antop.conUdp o.primAddr p.length data else data) := by
    split_ifs
    · exact Demonio.conUdp_puro hruta o p.length data
    · rfl
  exact congrArg (Option.map fun r => ((), conNat o.natTable r.2)) (hudp _)

/-- **The two models of `cb`** agree on such a daemon. -/
theorem Demonio.cb_puro (hruta : ∀ hook data, (ruta hook data).1.length = data.length) (o : Origen) (hook : Hook)
    (p : List UChar) :
    (Demonio.puro ruta hruta o).cb hook p () = some ((), Antop.cb ruta o hook p) := by
  cases hook with
  | preRouting => rfl
  | localIn =>
      unfold Demonio.cb Demonio.printPkt
      dsimp only
      split_ifs <;> rfl
  | forward => rfl
  | localOut =>
      unfold Demonio.cb Demonio.printPkt
      dsimp only
      split_ifs
      · rfl
      · rw [Demonio.conOpcion_puro]
        rfl
  | postRouting => rfl

end Puro

/-! ## Verdicts -/

/-- `NF_DROP` and `NF_ACCEPT`. -/
def nfDrop : BitVec 32 := 0

def nfAccept : BitVec 32 := 1

/-- The message of `__set_verdict`, without a mark: `data` is the memory from the pointer on. -/
def setVerdict (pila : Buffer UChar 40) (cola : ℕ) (id verdict : BitVec 32) (dataLen : ℕ) (data : List UChar) :
    List UChar :=
  let m := nfnlFillHdr pila.units 0 cola 1 1
  let m := nfnlAddattrL m 40 2 (bytes32 verdict ++ bytes32 id)
  let tail := mnlAlign (nlmsgLen m 0)
  if dataLen = 0 then m.take tail
  else
    -- `nfnl_build_nfa_iovec`: the length of the attribute has 16 bits, and the data is sent as far as it is padded
    let nfaLen := (4 + dataLen) % 65536
    (conNlmsgLen m 0 (nlmsgLen m 0 + nfaLen)).take tail
      ++ (LittleEndian.bytes 2 nfaLen ++ LittleEndian.bytes 2 10) ++ data.take (mnlAlign dataLen)

/-- The verdict of `cb`, with the length of the packet and the packet.  In `LOCAL_OUT` it goes without them, and for a
hook of another number, for which `print_pkt` does nothing.  For a message without a payload `print_pkt` ends before it
sets `pkt_size`; what `cb` does then in the other hooks is left open, as `none`. -/
def Demonio.decidir {σ : Type*} (d : Demonio σ) (hook : Option Hook) (payload : Option (List UChar)) (s : σ) :
    Option (σ × BitVec 32 × ℕ × List UChar) :=
  match hook, payload with
  | none, _ => some (s, nfAccept, 0, [])
  | some .localOut, none => some (s, nfAccept, 0, [])
  | some _, none => none
  | some hook, some p => (d.printPkt hook p s).map fun (s, data, pktSize, accept) =>
      (s, match hook with
        | .localOut => (nfAccept, 0, [])
        | .preRouting => (if accept then nfAccept else nfDrop, pktSize, data)
        | _ => (nfAccept, pktSize, data))

/-- The daemon and the verdicts it has sent. -/
structure Cola (σ : Type*) where
  demonio : σ
  enviados : List (List UChar)

/-- In `LOCAL_OUT` a segment with the flag `SYN` is also changed where it was received. -/
def conSynEn (m : List UChar) (off : ℕ) : List UChar :=
  if byte m (off + 6) = 6 ∧ byte m (off + 53) = 2 then
    let m := put m (off + 63) [0x80]
    put m (off + 59) [byte m (off + 59) + 32]
  else m

section Cb

variable {σ : Type*} (d : Demonio σ)

/-- `cb`, and the datagram as `print_pkt` leaves it; `none` when the daemon ends in it.  The hook that is read before
`print_pkt` writes is that which `cb` reads: attributes are aligned, and the bytes written are not where a hook is. -/
def nfqCb (m : List UChar) (nfa : ℕ → Option ℕ) (c : Cola σ) : Option (Cola σ × List UChar × ℤ) :=
  (nfa 0).bind fun ph =>
    let id := campo32 m (ph + 4)
    let hook := Hook.ofCode (byte m (ph + 10))
    let payload := (nfa 9).map fun attr => slice m (attr + 4) (nlaLen m attr - 4)
    let m' := match hook, nfa 9 with
      | some .localOut, some attr => conSynEn m (attr + 4)
      | _, _ => m
    (d.decidir hook payload c.demonio).map fun (s, verdict, dataLen, data) =>
      (⟨s, c.enviados ++ [setVerdict (d.pila s) 0 id verdict dataLen data]⟩, m', d.retorno s)

/-- `__nfq_rcv_pkt`: there is one queue, the queue 0. -/
def nfqRcvPkt (m : List UChar) (nlh : ℕ) (nfa : ℕ → Option ℕ) (c : Cola σ) : Option (Cola σ × List UChar × ℤ) :=
  if campo16 m (nlh + 18) = 0 then nfqCb d m nfa c else some (c, m, -19)

/-- The subsystems after `nfq_open`: that of the queue has a callback for `NFQNL_MSG_PACKET`. -/
def nfqSubsys (msgMax nfqaMax : ℕ) (id : ℕ) : NfnlSubsysHandle (Cola σ) where
  cbCount := if id = 3 then msgMax else 0
  cb type := if id = 3 ∧ type = 0 then ⟨nfqaMax, some (nfqRcvPkt d)⟩ else ⟨0, none⟩

/-- `handle_packet`: a datagram is received as far as it fits in the buffer.  What `nfq_handle_packet` returns is not
looked at. -/
def handlePacket (msgMax nfqaMax : ℕ) (buf : Buffer UChar 4096) (datagrama : List UChar) (c : Cola σ) :
    Option (Cola σ) :=
  (nfnlHandlePacket (nfqSubsys d msgMax nfqaMax) (put buf.units 0 (datagrama.take 4096))
    (min datagrama.length 4096) c).map Prod.fst

end Cb

/-! ## What a verdict says -/

/-- What the kernel reads in a verdict on the packet `p`: the identifier, and what it emits. -/
def leerVeredicto (v p : List UChar) : Option (BitVec 32 × Option (List UChar)) := do
  let nfa := (atributosNfa v 0).foldl (ponerNfa 10 v) fun _ => none
  let vh ← nfa 1
  let data := (nfa 9).map fun attr => slice v (attr + 4) (nlaLen v attr - 4)
  some (campo32 v (vh + 8), if campo32 v (vh + 4) = nfDrop then none else some (data.getD p))

lemma length_bytes32 (v : BitVec 32) : (bytes32 v).length = 4 := by simp [bytes32]

/-- A number in network order is read back. -/
lemma campo32_of_slice {m : List UChar} {off : ℕ} {v : BitVec 32} (h : slice m off 4 = bytes32 v) :
    campo32 m off = v := by
  rw [campo32, h, bytes32, List.reverse_reverse, LittleEndian.value_bytes v.isLt, BitVec.ofNat_toNat,
    BitVec.setWidth_eq]

section Veredicto

variable {pila : Buffer UChar 40} {cola : ℕ} {id verdict : BitVec 32} {n : ℕ} {data : List UChar}

lemma cabe_vh (id verdict : BitVec 32) : (bytes32 verdict ++ bytes32 id).length + 4 < 65536 := by
  simp [length_bytes32]

/-- The attribute with the verdict and the identifier. -/
def atributoVh (id verdict : BitVec 32) : Atributo := ⟨2, bytes32 verdict ++ bytes32 id, cabe_vh id verdict⟩

lemma length_atributoVh (id verdict : BitVec 32) : (atributoVh id verdict).bytes.length = 12 := by
  simp [atributoVh, length_bytes32]

/-- `nfnl_fill_hdr` begins a message without attributes. -/
lemma construido_nfnlFillHdr (pila : Buffer UChar 40) (cola msgType msgFlags : ℕ) :
    Construido (nfnlFillHdr pila.units 0 cola msgType msgFlags) 4 []
      ∧ nlmsgLen (nfnlFillHdr pila.units 0 cola msgType msgFlags) 0 = 20
      ∧ (nfnlFillHdr pila.units 0 cola msgType msgFlags).length = 40 := by
  have hsize := pila.size
  have hlen : nlmsgLen (nfnlFillHdr pila.units 0 cola msgType msgFlags) 0 = 20 := by
    rw [nlmsgLen, nfnlFillHdr, campoHost_put_of_disjoint (.inl (by decide)),
      campoHost_put_of_disjoint (.inl (by decide)), campoHost_put_of_disjoint (.inl (by decide)),
      campoHost_put_of_disjoint (.inl (by decide)), campoHost_put_of_disjoint (.inl (by decide)),
      campoHost_put_of_disjoint (.inl (by decide)), campoHost_put_of_disjoint (.inl (by decide)),
      campoHost_put_self _ (by omega)]
    rfl
  have hlength : (nfnlFillHdr pila.units 0 cola msgType msgFlags).length = 40 := by
    simp [nfnlFillHdr, hsize]
  refine ⟨⟨?_, ?_, ?_⟩, hlen, hlength⟩
  · omega
  · rw [hlen]
    decide
  · rw [hlen]
    rfl

/-- An attribute that fits is put as `mnl_attr_put` puts it. -/
lemma nfnlAddattrL_eq {m : List UChar} {maxlen : ℕ} {a : Atributo} (hdvd : 4 ∣ nlmsgLen m 0)
    (hlen : 4 ≤ nlmsgLen m 0) (hmax : nlmsgLen m 0 + a.bytes.length ≤ maxlen) (hlt : maxlen < 2 ^ 32) :
    nfnlAddattrL m maxlen a.tipo.toNat a.datos = mnlAttrPut 0 m a.tipo.toNat a.datos := by
  have hcabe := a.cabe
  rw [a.length_bytes] at hmax
  have hmod : (4 + a.datos.length) % 65536 = 4 + a.datos.length := Nat.mod_eq_of_lt (by omega)
  have htail : mnlNlmsgGetPayloadTail m 0 = nlmsgLen m 0 := by
    rw [mnlNlmsgGetPayloadTail, mnlAlign_of_dvd hdvd, Nat.mod_eq_of_lt (by omega), Nat.zero_add]
  rw [nfnlAddattrL, mnlAlign_of_dvd hdvd, if_neg (by omega), mnlAttrPut, htail, hmod, mnlAttrGetPayload, conNlmsgLen]
  have hsame (bs bs' bs'' : List UChar) : nlmsgLen (put (put (put m (nlmsgLen m 0 + 2) bs) (nlmsgLen m 0) bs')
      (nlmsgLen m 0 + 4) bs'') 0 = nlmsgLen m 0 := by
    rw [nlmsgLen, campoHost_put_of_disjoint (.inl (by omega)), campoHost_put_of_disjoint (.inl (by omega)),
      campoHost_put_of_disjoint (.inl (by omega)), nlmsgLen]
  rw [hsame]

/-- The first part of a verdict. -/
def cabezaVeredicto (pila : Buffer UChar 40) (cola : ℕ) (id verdict : BitVec 32) : List UChar :=
  nfnlAddattrL (nfnlFillHdr pila.units 0 cola 1 1) 40 2 (bytes32 verdict ++ bytes32 id)

/-- **The header of a verdict** holds the attribute with the verdict and the identifier. -/
lemma construido_cabezaVeredicto (pila : Buffer UChar 40) (cola : ℕ) (id verdict : BitVec 32) :
    Construido (cabezaVeredicto pila cola id verdict) 4 [atributoVh id verdict]
      ∧ nlmsgLen (cabezaVeredicto pila cola id verdict) 0 = 32
      ∧ (cabezaVeredicto pila cola id verdict).length = 40 := by
  obtain ⟨hnil, hlen, hsize⟩ := construido_nfnlFillHdr pila cola 1 1
  have hvh := length_atributoVh id verdict
  have hput : cabezaVeredicto pila cola id verdict
      = mnlAttrPut 0 (nfnlFillHdr pila.units 0 cola 1 1) (atributoVh id verdict).tipo.toNat
          (atributoVh id verdict).datos :=
    nfnlAddattrL_eq (a := atributoVh id verdict) hnil.alineado (by omega) (by omega) (by decide)
  have halign : mnlAlign (atributoVh id verdict).bytes.length = 12 := by
    rw [hvh]
    rfl
  obtain ⟨hone, hnew⟩ := hnil.mnlAttrPut (a := atributoVh id verdict) (by omega) (by omega)
  rw [hput]
  refine ⟨hone, ?_, by rw [length_mnlAttrPut, hsize]⟩
  rw [hnew, halign, hlen]

lemma setVerdict_zero (pila : Buffer UChar 40) (cola : ℕ) (id verdict : BitVec 32) (data : List UChar) :
    setVerdict pila cola id verdict 0 data = (cabezaVeredicto pila cola id verdict).take 32 := by
  obtain ⟨-, hlen, -⟩ := construido_cabezaVeredicto pila cola id verdict
  change (cabezaVeredicto pila cola id verdict).take (mnlAlign (nlmsgLen (cabezaVeredicto pila cola id verdict) 0)) = _
  rw [hlen]
  rfl

/-- The attribute with the packet. -/
def atributoPayload (p : List UChar) (h : p.length + 4 < 65536) : Atributo := ⟨10, p, h⟩

lemma ultimoNfa_vh : ultimoNfa [atributoVh id verdict] 2 = some (bytes32 verdict ++ bytes32 id)
    ∧ ultimoNfa [atributoVh id verdict] 10 = none := by
  simp [ultimoNfa, atributoVh, Atributo.flavor]

lemma ultimoNfa_payload (id verdict : BitVec 32) {p : List UChar} (h : p.length + 4 < 65536) :
    ultimoNfa [atributoVh id verdict, atributoPayload p h] 2 = some (bytes32 verdict ++ bytes32 id)
      ∧ ultimoNfa [atributoVh id verdict, atributoPayload p h] 10 = some p := by
  simp [ultimoNfa, atributoVh, atributoPayload, Atributo.flavor]

lemma setVerdict_pos (pila : Buffer UChar 40) (cola : ℕ) (id verdict : BitVec 32) (hn : n ≠ 0)
    (hcabe : n + 4 < 65536) :
    setVerdict pila cola id verdict n data
      = (conNlmsgLen (cabezaVeredicto pila cola id verdict) 0 (36 + n)).take 32
        ++ (LittleEndian.bytes 2 (n + 4) ++ LittleEndian.bytes 2 10) ++ data.take (mnlAlign n) := by
  obtain ⟨-, hlen, -⟩ := construido_cabezaVeredicto pila cola id verdict
  have hmod : (4 + n) % 65536 = n + 4 := by
    rw [Nat.add_comm, Nat.mod_eq_of_lt hcabe]
  rw [setVerdict, if_neg hn]
  change (conNlmsgLen (cabezaVeredicto pila cola id verdict) 0 _).take _ ++ _ ++ _ = _
  rw [← cabezaVeredicto, hlen, hmod, show 32 + (n + 4) = 36 + n by omega]
  rfl

/-- **A verdict** has the length that its parts take, and its attributes one behind another. -/
lemma llenan_setVerdict (pila : Buffer UChar 40) (cola : ℕ) (id verdict : BitVec 32) (hcabe : n + 4 < 65536)
    (hdata : n ≤ data.length) :
    ∃ as : List Atributo, Llenan (setVerdict pila cola id verdict n data) 20 as
        (nlmsgLen (setVerdict pila cola id verdict n data) 0)
      ∧ nlmsgLen (setVerdict pila cola id verdict n data) 0 < 2 ^ 31
      ∧ ultimoNfa as 2 = some (bytes32 verdict ++ bytes32 id)
      ∧ ultimoNfa as 10 = if n = 0 then none else some (data.take n) := by
  obtain ⟨hhead, hlen, hsize⟩ := construido_cabezaVeredicto pila cola id verdict
  have hvh := length_atributoVh id verdict
  have hfirst : slice (cabezaVeredicto pila cola id verdict) 20 12 = (atributoVh id verdict).bytes := by
    have hputs := hhead.puestos.1
    rwa [hvh] at hputs
  by_cases hn : n = 0
  · refine ⟨[atributoVh id verdict], and_assoc.mp ⟨?_, ultimoNfa_vh.1, by rw [if_pos hn, ultimoNfa_vh.2]⟩⟩
    subst hn
    have hlen32 : nlmsgLen ((cabezaVeredicto pila cola id verdict).take 32) 0 = 32 := by
      rw [nlmsgLen, campoHost, slice_take_of_le (by decide), ← campoHost, ← nlmsgLen, hlen]
    rw [setVerdict_zero, hlen32]
    refine ⟨?_, by decide⟩
    change nlattr.Filled _ 20 [(atributoVh id verdict).bytes] 32
    refine ⟨?_, by omega, by rw [hvh]; decide⟩
    rw [hvh, slice_take_of_le (by decide), hfirst]
  · have hcabe' : (data.take n).length + 4 < 65536 := by
      rw [List.length_take]
      omega
    obtain ⟨hvh₂, hpayload₁₀⟩ := ultimoNfa_payload id verdict hcabe'
    refine ⟨[atributoVh id verdict, atributoPayload (data.take n) hcabe'],
      and_assoc.mp ⟨?_, hvh₂, by rw [if_neg hn, hpayload₁₀]⟩⟩
    have hsize' : ((conNlmsgLen (cabezaVeredicto pila cola id verdict) 0 (36 + n)).take 32).length = 32 := by
      simp [hsize]
    rw [setVerdict_pos pila cola id verdict hn hcabe, List.append_assoc]
    have hlen36 : nlmsgLen ((conNlmsgLen (cabezaVeredicto pila cola id verdict) 0 (36 + n)).take 32
        ++ (LittleEndian.bytes 2 (n + 4) ++ LittleEndian.bytes 2 10 ++ data.take (mnlAlign n))) 0 = 36 + n := by
      rw [nlmsgLen, campoHost, slice_append_of_le (by omega), slice_take_of_le (by decide), ← campoHost, ← nlmsgLen]
      exact nlmsgLen_conNlmsgLen (by omega) (by omega)
    have halign := le_mnlAlign n
    have hpayload : (atributoPayload (data.take n) hcabe').bytes
        = LittleEndian.bytes 2 (n + 4) ++ LittleEndian.bytes 2 10 ++ data.take n := by
      rw [Atributo.bytes, atributoPayload, List.length_take, Nat.min_eq_left hdata]
      rfl
    have hplen : (atributoPayload (data.take n) hcabe').bytes.length = n + 4 := by
      rw [Atributo.length_bytes, atributoPayload, List.length_take, Nat.min_eq_left hdata]
    have hround : nlattr.round (atributoVh id verdict).bytes.length = 12 := by
      rw [hvh]
      rfl
    rw [hlen36]
    refine ⟨?_, by omega⟩
    change nlattr.Filled _ 20 [(atributoVh id verdict).bytes, (atributoPayload (data.take n) hcabe').bytes] _
    refine ⟨?_, ?_, ?_, ?_⟩
    · rw [hvh, slice_append_of_le (by omega), slice_take_of_le (by decide), slice_conNlmsgLen _ _ (by decide), hfirst]
    · rw [hround, hplen, hpayload, slice, List.drop_left' hsize']
      have hhdr : (LittleEndian.bytes 2 (n + 4) ++ LittleEndian.bytes 2 10).length = 4 := by simp
      rw [List.take_append, hhdr, List.take_of_length_le (by omega), Nat.add_sub_cancel, List.take_take,
        Nat.min_eq_left halign]
    · rw [hround, hplen]
      omega
    · rw [hround, hplen]
      exact (by omega : 36 + n ≤ 20 + 12 + (n + 4)).trans (Nat.add_le_add_left (le_mnlAlign (n + 4)) _)

/-- Where a payload lies. -/
lemma datos_de_apunta {m datos : List UChar} {attr : ℕ} (h : Apunta m attr datos) :
    slice m (attr + 4) datos.length = datos := by
  obtain ⟨a, ha, rfl⟩ := h
  exact ha.payload

/-- A piece of a payload. -/
lemma slice_of_apunta {m datos : List UChar} {attr i k : ℕ} (h : Apunta m attr datos) (hik : i + k ≤ datos.length) :
    slice m (attr + 4 + i) k = slice datos i k := by
  rw [← slice_slice (n := datos.length) hik, datos_de_apunta h]

/-- A whole payload. -/
lemma payload_of_apunta {m datos : List UChar} {attr : ℕ} (h : Apunta m attr datos) :
    slice m (attr + 4) (nlaLen m attr - 4) = datos := by
  obtain ⟨a, ha, rfl⟩ := h
  rw [ha.nlaLen, Nat.add_sub_cancel]
  exact ha.payload

/-- The verdict and the identifier. -/
lemma vh_of_apunta {m : List UChar} {attr : ℕ} (h : Apunta m attr (bytes32 verdict ++ bytes32 id)) :
    campo32 m (attr + 4) = verdict ∧ campo32 m (attr + 8) = id := by
  have hlen : (bytes32 verdict ++ bytes32 id).length = 8 := by simp [length_bytes32]
  refine ⟨campo32_of_slice ?_, campo32_of_slice ?_⟩
  · rw [← Nat.add_zero (attr + 4), slice_of_apunta h (by omega), slice, List.drop_zero]
    exact List.take_left' (length_bytes32 verdict)
  · rw [show attr + 8 = attr + 4 + 4 from rfl, slice_of_apunta h (by omega), slice,
      List.drop_left' (length_bytes32 verdict)]
    exact List.take_of_length_le (length_bytes32 id).le

/-- **A verdict is read** as it was made: the identifier, and the packet with the length that was given, if any. -/
lemma leerVeredicto_setVerdict (pila : Buffer UChar 40) (cola : ℕ) (id verdict : BitVec 32) (hcabe : n + 4 < 65536)
    (hdata : n ≤ data.length) (p : List UChar) :
    leerVeredicto (setVerdict pila cola id verdict n data) p
      = some (id, if verdict = nfDrop then none else some (if n = 0 then p else data.take n)) := by
  obtain ⟨as, hfill, hcorto, hvh, hpayload⟩ := llenan_setVerdict pila cola id verdict hcabe hdata
  rw [leerVeredicto]
  generalize setVerdict pila cola id verdict n data = v at hfill hcorto
  have hfill' : Llenan v (0 + 20) as (0 + nlmsgLen v 0) := by simpa using hfill
  have hrel₂ := hfill'.tabla (k := 2) hcorto 10 (by decide) (by decide)
  have hrel₁₀ := hfill'.tabla (k := 10) hcorto 10 (by decide) (by decide)
  rw [hvh] at hrel₂
  rw [hpayload] at hrel₁₀
  have hread := map_of_rel (v := if n = 0 then none else some (data.take n)) (f := fun attr =>
    slice v (attr + 4) (nlaLen v attr - 4)) (by simpa using hrel₁₀) fun _ _ => payload_of_apunta
  generalize (atributosNfa v 0).foldl (ponerNfa 10 v) (fun _ => none) = nfa at hrel₂ hread
  change Option.Rel (Apunta v) (nfa 1) _ at hrel₂
  change (nfa 9).map _ = _ at hread
  cases hnfa : nfa 1 with
  | none =>
      rw [hnfa] at hrel₂
      cases hrel₂
  | some vh =>
      rw [hnfa] at hrel₂
      cases hrel₂ with
      | some hvh =>
          obtain ⟨hverdict, hid⟩ := vh_of_apunta hvh
          simp only [Option.bind_eq_bind, Option.bind_some, hread, hverdict, hid]
          by_cases hn : n = 0
          · rw [if_pos hn, if_pos hn, Option.getD_none]
          · rw [if_neg hn, if_neg hn, Option.getD_some]

end Veredicto

/-! ## What the kernel sends -/

/-- A message about a packet in the queue 0, with its attributes in any order and others between them.  The message is
not padded at the end. -/
structure MensajePaquete (u : List UChar) (q : Encolado) : Prop extends Mensaje u where
  tipo : nlmsgType u 0 = 3 * 256
  cola : campo16 u 18 = 0
  atributos : ∃ as h₁ h₂, Llenan u 20 as u.length ∧ ultimoNfa as 1 = some (bytes32 q.id ++ [h₁, h₂, q.hook.code])
    ∧ ultimoNfa as 10 = some q.pkt.bytes

section Paquete

variable {σ : Type*} {d : Demonio σ} {m u : List UChar} {nlh : ℕ} {q : Encolado}

/-- The table has the packet header and the packet. -/
lemma MensajePaquete.tabla (h : MensajePaquete u q) (hu : slice m nlh u.length = u) {nfqaMax : ℕ}
    (hmax : 10 ≤ nfqaMax) :
    ∃ ph attr h₁ h₂, (atributosNfa m nlh).foldl (ponerNfa nfqaMax m) (fun _ => none) 0 = some ph
      ∧ Apunta m ph (bytes32 q.id ++ [h₁, h₂, q.hook.code])
      ∧ (atributosNfa m nlh).foldl (ponerNfa nfqaMax m) (fun _ => none) 9 = some attr
      ∧ Apunta m attr q.pkt.bytes := by
  obtain ⟨as, h₁, h₂, hfill, hph, hpkt⟩ := h.atributos
  have hlen := nlmsgLen_lugar h.toMensaje hu
  have hcorto : nlmsgLen m nlh < 2 ^ 31 := by
    rw [hlen]
    exact h.corto
  have hshift : Llenan m (nlh + 20) as (nlh + nlmsgLen m nlh) := by
    rw [hlen]
    exact Format.Filled.shift hfill hu (le_refl _)
  have hrel₁ := hshift.tabla (k := 1) hcorto nfqaMax (by decide) (by omega)
  have hrel₁₀ := hshift.tabla (k := 10) hcorto nfqaMax (by decide) hmax
  rw [hph] at hrel₁
  rw [hpkt] at hrel₁₀
  generalize (atributosNfa m nlh).foldl (ponerNfa nfqaMax m) (fun _ => none) = nfa at hrel₁ hrel₁₀
  change Option.Rel (Apunta m) (nfa 0) _ at hrel₁
  change Option.Rel (Apunta m) (nfa 9) _ at hrel₁₀
  generalize nfa 0 = ph at hrel₁ ⊢
  generalize nfa 9 = attr at hrel₁₀ ⊢
  cases hrel₁ with
  | some hph =>
      cases hrel₁₀ with
      | some hattr => exact ⟨_, _, h₁, h₂, rfl, hph, rfl, hattr⟩

/-- A packet header has the identifier and the hook. -/
lemma cabecera_de_apunta {ph : ℕ} {h₁ h₂ : UChar} (h : Apunta m ph (bytes32 q.id ++ [h₁, h₂, q.hook.code])) :
    campo32 m (ph + 4) = q.id ∧ byte m (ph + 10) = q.hook.code := by
  have hlen : (bytes32 q.id ++ [h₁, h₂, q.hook.code]).length = 7 := by simp [length_bytes32]
  constructor
  · refine campo32_of_slice ?_
    rw [← Nat.add_zero (ph + 4), slice_of_apunta h (by omega), slice, List.drop_zero]
    exact List.take_left' (length_bytes32 q.id)
  · rw [show ph + 10 = ph + 4 + 6 from rfl, byte_lugar (datos_de_apunta h) (by omega)]
    rfl

/-- The daemon after the verdict on a packet. -/
def Cola.enviar (d : Demonio σ) (c : Cola σ) (q : Encolado) (r : σ × BitVec 32 × ℕ × List UChar) : Cola σ :=
  ⟨r.1, c.enviados ++ [setVerdict (d.pila r.1) 0 q.id r.2.1 r.2.2.1 r.2.2.2]⟩

/-- `__nfq_rcv_pkt` is given a packet in the queue 0, and its verdict is sent. -/
lemma nfqRcvPkt_eq (h : MensajePaquete u q) (hu : slice m nlh u.length = u) {msgMax nfqaMax : ℕ} (hmsg : 0 < msgMax)
    (hmax : 10 ≤ nfqaMax) (c : Cola σ) :
    (nfnlHandleMsg (nfqSubsys d msgMax nfqaMax) m nlh c).map Prod.fst
      = (d.decidir (some q.hook) (some q.pkt.bytes) c.demonio).map (c.enviar d q) := by
  obtain ⟨ph, attr, h₁, h₂, hnfa₀, hph, hnfa₉, hattr⟩ := h.tabla hu hmax
  obtain ⟨hid, hhook⟩ := cabecera_de_apunta hph
  have hlen := nlmsgLen_lugar h.toMensaje hu
  have h20 : 20 ≤ u.length := by
    obtain ⟨as, -, -, hfill, -⟩ := h.atributos
    exact Format.Filled.le hfill
  have htype : nlmsgType m nlh = 768 := (campoHost_lugar hu (by omega)).trans h.tipo
  have hsubsys : nfnlSubsysId m nlh = 3 := by rw [nfnlSubsysId, htype]
  have hmsgType : nfnlMsgType m nlh = 0 := by rw [nfnlMsgType, htype]
  have hcola : campo16 m (nlh + 18) = 0 := (campo16_lugar hu (by omega)).trans h.cola
  have hcb : (nfqSubsys d msgMax nfqaMax 3).cb 0 = ⟨nfqaMax, some (nfqRcvPkt d)⟩ := rfl
  have hcount : (nfqSubsys d msgMax nfqaMax 3).cbCount = msgMax := rfl
  have hpos : nfqaMax ≠ 0 := by omega
  have hcall : ((nfqSubsys d msgMax nfqaMax (nfnlSubsysId m nlh)).cb (nfnlMsgType m nlh)).call
      = some (nfqRcvPkt d) := by rw [hsubsys, hmsgType, hcb]
  rw [nfnlHandleMsg_eq (by rw [hsubsys]; decide) (by rwa [hsubsys, hmsgType, hcount]) (by omega)
    (by rwa [hsubsys, hmsgType, hcb]) hcall, hsubsys, hmsgType, hcb, nfqRcvPkt, if_pos hcola, nfqCb, hnfa₀, hnfa₉]
  simp only [Option.bind_some, Option.map_some, hid, hhook, Hook.ofCode_code, payload_of_apunta hattr]
  cases d.decidir (some q.hook) (some q.pkt.bytes) c.demonio <;> rfl

end Paquete

/-! ## The verdict is what `cb` decides -/

/-- A verdict on a packet is for it, and says this. -/
def Dice (v : List UChar) (r : Encolado × Veredicto) : Prop :=
  leerVeredicto v r.1.pkt.bytes = some (r.1.id, r.2.emite r.1.pkt.bytes)

section Contestar

variable {σ : Type*} {d : Demonio σ} {q : Encolado}

/-- The packet in user space is as long as the packet at least. -/
lemma le_length_copia (p : List UChar) : p.length ≤ (copia p).length := by
  rw [copia, List.length_append]
  exact Nat.le_add_right _ _

/-- **A verdict with a packet** is read as this packet, or as that it is dropped. -/
lemma leerVeredicto_con (pila : Buffer UChar 40) (q : Encolado) (accept : Bool) {data : List UChar}
    (hdata : q.pkt.bytes.length ≤ data.length) :
    leerVeredicto (setVerdict pila 0 q.id (if accept then nfAccept else nfDrop) q.pkt.bytes.length data) q.pkt.bytes
      = some (q.id, if accept then some (data.take q.pkt.bytes.length) else none) := by
  have hcabecera := q.pkt.cabecera
  rw [leerVeredicto_setVerdict _ _ _ _ q.cabe hdata, if_neg (show q.pkt.bytes.length ≠ 0 by omega)]
  cases accept <;> rfl

/-- The verdict with the packet that `print_pkt` returns. -/
lemma dice_con (pila : Buffer UChar 40) (q : Encolado) {data : List UChar} (hdata : q.pkt.bytes.length ≤ data.length) :
    Dice (setVerdict pila 0 q.id nfAccept q.pkt.bytes.length data) (q, .con (data.take q.pkt.bytes.length)) :=
  leerVeredicto_con pila q true hdata

/-- What is sent for a packet says what `Demonio.cb` decides, and both end alike. -/
def Contesta (d : Demonio σ) (q : Encolado) (r : σ × BitVec 32 × ℕ × List UChar) (w : σ × Veredicto) : Prop :=
  r.1 = w.1 ∧ Dice (setVerdict (d.pila r.1) 0 q.id r.2.1 r.2.2.1 r.2.2.2) (q, w.2)

/-- **The verdict** on a packet is what `Demonio.cb` decides. -/
lemma decidir_contesta (d : Demonio σ) (q : Encolado) (s : σ) :
    Option.Rel (Contesta d q) (d.decidir (some q.hook) (some q.pkt.bytes) s) (d.cb q.hook q.pkt.bytes s) := by
  obtain ⟨id, hook, p, hcabe, hentero⟩ := q
  have hcopia := le_length_copia p.bytes
  have hroute {hook : Hook} {r} (h : d.route hook (copia p.bytes) s = some r) : p.bytes.length ≤ r.2.1.length := by
    rwa [d.length_route h]
  cases hook with
  | preRouting =>
      change Option.Rel _ (((d.route .preRouting (copia p.bytes) s).map _).map _)
        (((d.route .preRouting (copia p.bytes) s).map _).map _)
      cases hr : d.route .preRouting (copia p.bytes) s with
      | none => exact .none
      | some r =>
          refine .some ⟨rfl, (leerVeredicto_con (d.pila r.1) ⟨id, .preRouting, p, hcabe, hentero⟩ (!r.2.2)
            (hroute hr)).trans ?_⟩
          change _ = some (id, (if !r.2.2 then Veredicto.con _ else .descartado).emite p.bytes)
          cases r.2.2 <;> rfl
  | localIn =>
      change Option.Rel _ ((Option.map _ _).map _) ((Option.map _ _).map _)
      cases (if esEco p.bytes then d.addRtRoute (copia p.bytes) s else some s) with
      | none => exact .none
      | some s => exact .some ⟨rfl, dice_con (d.pila s) ⟨id, .localIn, p, hcabe, hentero⟩ hcopia⟩
  | forward =>
      change Option.Rel _ (((d.route .forward (copia p.bytes) s).map _).map _)
        (((d.route .forward (copia p.bytes) s).map _).map _)
      cases hr : d.route .forward (copia p.bytes) s with
      | none => exact .none
      | some r => exact .some ⟨rfl, dice_con (d.pila r.1) ⟨id, .forward, p, hcabe, hentero⟩ (hroute hr)⟩
  | localOut =>
      rw [Demonio.decidir, Demonio.cb]
      cases d.printPkt .localOut p.bytes s with
      | none => exact .none
      | some r => exact .some ⟨rfl, leerVeredicto_setVerdict _ _ _ _ (by decide) (Nat.zero_le _) _⟩
  | postRouting => exact .some ⟨rfl, dice_con (d.pila s) ⟨id, .postRouting, p, hcabe, hentero⟩ hcopia⟩

end Contestar

/-! ## Messages -/

section Recibir

variable {σ : Type*} {d : Demonio σ} {msgMax nfqaMax : ℕ} {u : List UChar} {q : Encolado}

/-- **A message that fits** in the buffer is given to `cb`. -/
lemma handlePacket_corto (hmsg : 0 < msgMax) (hmax : 10 ≤ nfqaMax) (buf : Buffer UChar 4096)
    (hu : MensajePaquete u q) (hlen : u.length ≤ 4096) (c : Cola σ) :
    handlePacket d msgMax nfqaMax buf u c
      = (d.decidir (some q.hook) (some q.pkt.bytes) c.demonio).map (c.enviar d q) := by
  have hsize := buf.size
  have hslice : slice (put buf.units 0 u) 0 u.length = u := slice_put_self (by omega)
  rw [handlePacket, List.take_of_length_le hlen, Nat.min_eq_left hlen, nfnlHandlePacket_eq hu.toMensaje hslice,
    Option.map_map, ← nfqRcvPkt_eq hu hslice hmsg hmax c]
  rfl

/-- A message that does not fit in the buffer is not handled, as its length is more than what has been received. -/
lemma handlePacket_largo (d : Demonio σ) (msgMax nfqaMax : ℕ) (buf : Buffer UChar 4096) (hu : Mensaje u)
    (hlong : 4096 < u.length) (c : Cola σ) :
    handlePacket d msgMax nfqaMax buf u c = some c := by
  have hsize := buf.size
  have htake : (u.take 4096).length = 4096 := by
    rw [List.length_take, Nat.min_eq_left hlong.le]
  have hbuf : slice (put buf.units 0 (u.take 4096)) 0 (u.take 4096).length = u.take 4096 :=
    slice_put_self (by omega)
  have hlen : nlmsgLen (put buf.units 0 (u.take 4096)) 0 = u.length := by
    rw [← hu.largo, nlmsgLen, campoHost_lugar hbuf (i := 0) (by omega), nlmsgLen, campoHost, campoHost,
      slice_take_of_le (by decide)]
  rw [handlePacket, Nat.min_eq_right hlong.le, nfnlHandlePacket, nfnlHandleDesde, if_neg (by decide), hlen,
    if_pos (Or.inr hlong)]
  rfl

end Recibir

/-! ## Runs -/

/-- What happens to the daemon: a message about a packet comes, or it does something else. -/
inductive Suceso (σ α : Type*)
  | paquete (a : α)
  | otro (f : σ → Option σ)

/-- The messages about packets, each received into a buffer. -/
def Cola.step {σ : Type*} (d : Demonio σ) (msgMax nfqaMax : ℕ) (c : Cola σ) :
    Suceso σ (Buffer UChar 4096 × List UChar) → Option (Cola σ)
  | .paquete (buf, u) => handlePacket d msgMax nfqaMax buf u c
  | .otro f => (f c.demonio).map fun s => { c with demonio := s }

/-- The queue as it is meant: the daemon, and what it has decided on each packet. -/
structure Atencion (σ : Type*) where
  demonio : σ
  decididos : List (Encolado × Veredicto)

/-- `cb` decides on a packet whose message has at most 4096 bytes. -/
def Atencion.step {σ : Type*} (d : Demonio σ) (a : Atencion σ) : Suceso σ (ℕ × Encolado) → Option (Atencion σ)
  | .paquete (largo, q) =>
      if largo ≤ 4096 then
        (d.cb q.hook q.pkt.bytes a.demonio).map fun r => ⟨r.1, a.decididos ++ [(q, r.2)]⟩
      else some a
  | .otro f => (f a.demonio).map fun s => { a with demonio := s }

/-- A message is that about the packet. -/
inductive Suceso.Llega {σ : Type*} : Suceso σ (Buffer UChar 4096 × List UChar) → Suceso σ (ℕ × Encolado) → Prop
  | paquete (buf : Buffer UChar 4096) {u : List UChar} {q : Encolado} (h : MensajePaquete u q) :
      Llega (.paquete (buf, u)) (.paquete (u.length, q))
  | otro (f : σ → Option σ) : Llega (.otro f) (.otro f)

/-- The verdicts sent say what has been decided, one for one. -/
def Cola.Refleja {σ : Type*} (c : Cola σ) (a : Atencion σ) : Prop :=
  c.demonio = a.demonio ∧ List.Forall₂ Dice c.enviados a.decididos

section Corrida

variable {σ : Type*} {d : Demonio σ} {msgMax nfqaMax : ℕ}

/-- **One event** keeps the verdicts in step with the decisions. -/
lemma Cola.Refleja.step (hmsg : 0 < msgMax) (hmax : 10 ≤ nfqaMax) {c : Cola σ} {a : Atencion σ} (h : c.Refleja a)
    {e : Suceso σ (Buffer UChar 4096 × List UChar)} {e' : Suceso σ (ℕ × Encolado)} (he : e.Llega e') :
    Option.Rel Cola.Refleja (c.step d msgMax nfqaMax e) (a.step d e') := by
  obtain ⟨s, enviados⟩ := c
  obtain ⟨t, decididos⟩ := a
  obtain ⟨rfl, hdice⟩ := h
  cases he with
  | @paquete buf u q hu =>
      rw [Cola.step, Atencion.step]
      by_cases hlen : u.length ≤ 4096
      · rw [handlePacket_corto hmsg hmax buf hu hlen, if_pos hlen]
        have hone := decidir_contesta d q s
        generalize d.decidir (some q.hook) (some q.pkt.bytes) s = o, d.cb q.hook q.pkt.bytes s = o' at hone
        cases hone with
        | none => exact .none
        | some hr => exact .some ⟨hr.1, List.rel_append hdice (.cons hr.2 .nil)⟩
      · rw [handlePacket_largo d msgMax nfqaMax buf hu.toMensaje (not_le.mp hlen), if_neg hlen]
        exact .some ⟨rfl, hdice⟩
  | otro f =>
      rw [Cola.step, Atencion.step]
      cases f s with
      | none => exact .none
      | some s => exact .some ⟨rfl, hdice⟩

/-- **The queue.**  Over any run of messages about packets, with anything else the daemon does between them, the
verdicts sent are those that `Demonio.cb` decides, one for each packet whose message has at most 4096 bytes, in their
order; and the daemon ends as it does there, or stops at the same packet. -/
theorem veredictos_de_cola (d : Demonio σ) (hmsg : 0 < msgMax) (hmax : 10 ≤ nfqaMax)
    {es : List (Suceso σ (Buffer UChar 4096 × List UChar))} {es' : List (Suceso σ (ℕ × Encolado))}
    (hes : List.Forall₂ Suceso.Llega es es') (s : σ) :
    Option.Rel Cola.Refleja (run (Cola.step d msgMax nfqaMax) ⟨s, []⟩ es) (run (Atencion.step d) ⟨s, []⟩ es') :=
  run_rel (fun _ _ _ _ hR he => hR.step hmsg hmax he) hes ⟨rfl, .nil⟩

/-- A packet of 40 zeros that passes the hook `FORWARD`. -/
def ceros : List UChar := List.replicate 40 0

lemma cabecera_ceros : 40 ≤ ceros.length := by decide

lemma cabe_ceros : ceros.length + 4 < 65536 := by decide

def encoladoCeros : Encolado := ⟨1, .forward, ⟨ceros, cabecera_ceros⟩, cabe_ceros, by decide⟩

/-- The attribute with its header. -/
def cabeceraCeros : List UChar := bytes32 1 ++ [0x86, 0xdd, 2]

lemma cabe_cabeceraCeros : cabeceraCeros.length + 4 < 65536 := by decide

/-- The payload comes first, and then the header. -/
def atributosCeros : List Atributo := [⟨10, ceros, cabe_ceros⟩, ⟨1, cabeceraCeros, cabe_cabeceraCeros⟩]

def mensajeCeros : List UChar :=
  LittleEndian.bytes 4 76 ++ LittleEndian.bytes 2 768 ++ List.replicate 14 0
    ++ (LittleEndian.bytes 2 44 ++ LittleEndian.bytes 2 10 ++ ceros)
    ++ (LittleEndian.bytes 2 11 ++ LittleEndian.bytes 2 1 ++ cabeceraCeros ++ [0])

lemma mensajePaquete_ceros : MensajePaquete mensajeCeros encoladoCeros where
  cabecera := by decide
  largo := by decide
  corto := by decide
  tipo := by decide
  cola := by decide
  atributos := ⟨atributosCeros, 0x86, 0xdd, ⟨by decide, by decide, by decide, by decide⟩, by decide, by decide⟩

/-- A node where `route` leaves each packet as it is. -/
def colaIgual : Demonio Unit := .puro (fun _ data => (data, false)) (fun _ _ => rfl) ⟨⟨fun _ => 0⟩, []⟩

/-- The packet comes, the daemon does something else, and the packet comes again. -/
theorem veredictos_de_cola_ceros :
    Option.Rel Cola.Refleja
      (run (Cola.step colaIgual 2 20) ⟨(), []⟩
        [.paquete (.filled 4096 0, mensajeCeros), .otro some, .paquete (.filled 4096 1, mensajeCeros)])
      (run (Atencion.step colaIgual) ⟨(), []⟩
        [.paquete (mensajeCeros.length, encoladoCeros), .otro some, .paquete (mensajeCeros.length, encoladoCeros)]) :=
  veredictos_de_cola colaIgual (by decide) (by decide)
    (.cons (.paquete _ mensajePaquete_ceros) (.cons (.otro some) (.cons (.paquete _ mensajePaquete_ceros) .nil))) ()

/-- **A packet** gets its verdict exactly when its message fits in the buffer and `print_pkt` returns: a query for an
empty name, which `answer_dns_query` does not survive, gets none. -/
theorem paquete_contestado_iff (d : Demonio σ) (hmsg : 0 < msgMax) (hmax : 10 ≤ nfqaMax) (buf : Buffer UChar 4096)
    {u : List UChar} {q : Encolado} (hu : MensajePaquete u q) (c : Cola σ) :
    (∃ c' v w, handlePacket d msgMax nfqaMax buf u c = some c' ∧ c'.enviados = c.enviados ++ [v] ∧ Dice v (q, w)
        ∧ d.cb q.hook q.pkt.bytes c.demonio = some (c'.demonio, w))
      ↔ u.length ≤ 4096 ∧ (d.printPkt q.hook q.pkt.bytes c.demonio).isSome := by
  have hsome : (d.cb q.hook q.pkt.bytes c.demonio).isSome = (d.printPkt q.hook q.pkt.bytes c.demonio).isSome := by
    rw [Demonio.cb, Option.isSome_map]
  rw [← hsome]
  constructor
  · rintro ⟨c', v, w, hc', hv, -, hcb⟩
    refine ⟨?_, by rw [hcb]; rfl⟩
    by_contra hlong
    rw [handlePacket_largo d msgMax nfqaMax buf hu.toMensaje (not_le.mp hlong), Option.some_inj] at hc'
    subst hc'
    exact absurd (congrArg List.length hv) (by simp)
  · rintro ⟨hlen, hreturns⟩
    have hone := decidir_contesta d q c.demonio
    rw [handlePacket_corto hmsg hmax buf hu hlen]
    generalize d.decidir (some q.hook) (some q.pkt.bytes) c.demonio = o, d.cb q.hook q.pkt.bytes c.demonio = o'
      at hone hreturns
    cases hone with
    | none => exact absurd hreturns Bool.false_ne_true
    | @some r w hr =>
        obtain ⟨hdemonio, hdice⟩ := hr
        refine ⟨c.enviar d q r, _, w.2, rfl, rfl, hdice, ?_⟩
        rw [Cola.enviar, hdemonio]

theorem paquete_contestado_iff_ceros :
    (∃ c' v w, handlePacket colaIgual 2 20 (.filled 4096 0) mensajeCeros ⟨(), []⟩ = some c' ∧ c'.enviados = [] ++ [v]
        ∧ Dice v (encoladoCeros, w) ∧ colaIgual.cb .forward ceros () = some (c'.demonio, w))
      ↔ mensajeCeros.length ≤ 4096 ∧ (colaIgual.printPkt .forward ceros ()).isSome :=
  paquete_contestado_iff colaIgual (by decide) (by decide) (.filled 4096 0) mensajePaquete_ceros ⟨(), []⟩

end Corrida

end Antop
