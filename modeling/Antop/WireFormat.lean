import Antop.HostFields
import Antop.NameResolution

/-!
# Packets as datagrams

A packet is a structure in memory that `malloc` returned, and is sent as it lies there.  `antop_socket_read` receives
a datagram over whatever stands in its buffer, and gives the buffer to `antop_process_pkt`, which tells from the first
byte which structure it is.  Neither looks at the length of a datagram.

* `CtrlPkt.enMemoria`, `RvCtrlPktMem.enMemoria` — the structures in memory, with what was not set in them.
* `antopSocketRead` — the buffer behind a datagram.
* `manejadoresNodo`, `manejadoresNodoUdp` — nodes that send each other control packets, and those that send datagrams.
* **`lectura_propia_iff`** — how long a datagram of each type must be for the buffer not to be read.
* **`red_de_datagramas`**, **`red_rv_de_datagramas`** — the networks in which the packets are datagrams do what the
  networks of packets do.
-/

namespace Antop

open CString Memory Transition

/-! ## The structures -/

/-- `pkt_type_f`. -/
def PktType.code : PktType → UChar
  | .par => 1
  | .pap => 2
  | .pan => 3
  | .panc => 4
  | .hb => 6
  | .sap => 7
  | .san => 8
  | .rvReg => 9
  | .rvAddrLookup => 10
  | .rvAddrSolve => 11
  | .far => 12
  | .fan => 13
  | .mar1 => 14
  | .mar2 => 15
  | .man1 => 16
  | .man2 => 17

/-- All of them. -/
def PktType.todos : List PktType :=
  [.par, .pap, .pan, .panc, .hb, .sap, .san, .rvReg, .rvAddrLookup, .rvAddrSolve, .far, .fan, .mar1, .mar2, .man1,
    .man2]

/-- The type with a number. -/
def PktType.ofCode (b : UChar) : Option PktType := PktType.todos.find? fun t => t.code = b

@[simp] lemma PktType.ofCode_code (t : PktType) : PktType.ofCode t.code = some t := by
  cases t <;> rfl

/-- The packets of the rendezvous, which are read as `struct rv_ctrl_pkt`. -/
def PktType.esRv : PktType → Bool
  | .rvReg | .rvAddrLookup | .rvAddrSolve => true
  | _ => false

/-- The fields of `struct ctrl_pkt` that are read, with their offsets. -/
def CtrlPkt.campos (p : CtrlPkt) : List (ℕ × List UChar) :=
  [(0, [p.pktTypeF.code]), (4, p.srcAddr.bytes), (20, [p.primAddrLen]), (24, p.primAddr.bytes),
    (40, [p.adAddr.tLenght]), (44, p.adAddr.addr.bytes), (60, [p.adAddr.mask]), (62, [p.adAddr.redNumero])]

/-- A `struct ctrl_pkt` in memory. -/
def CtrlPkt.enMemoria (heap : Buffer UChar 64) (p : CtrlPkt) : List UChar := puts heap.units p.campos

/-- What lies in memory as a `struct ctrl_pkt` of a type. -/
def CtrlPkt.leer (t : PktType) (m : List UChar) : CtrlPkt where
  pktTypeF := t
  srcAddr := .ofBytes (slice m 4 16)
  primAddrLen := byte m 20
  primAddr := .ofBytes (slice m 24 16)
  adAddr := ⟨byte m 40, .ofBytes (slice m 44 16), byte m 60, byte m 62⟩

/-- The fields of `struct rv_ctrl_pkt`. -/
def RvCtrlPktMem.campos (p : RvCtrlPktMem) : List (ℕ × List UChar) :=
  [(0, [p.type.code]), (1, [p.flags]), (4, LittleEndian.bytes 4 p.id.toNat), (8, LittleEndian.bytes 4 p.n.toNat),
    (12, p.primAddr.bytes), (28, p.univAddr.units), (80, p.srcAddr.bytes)]

/-- A `struct rv_ctrl_pkt` in memory. -/
def RvCtrlPktMem.enMemoria (heap : Buffer UChar 96) (p : RvCtrlPktMem) : List UChar := puts heap.units p.campos

/-- `IP_MAXPACKET`. -/
def ipMaxpacket : ℕ := 65535

lemma length_univAddr (m : Buffer UChar ipMaxpacket) : (slice m.units 28 50).length = 50 :=
  length_slice (by rw [m.size]; decide)

/-- What lies in the buffer as a `struct rv_ctrl_pkt` of a type. -/
def RvCtrlPktMem.leer (t : PktType) (m : Buffer UChar ipMaxpacket) : RvCtrlPktMem where
  type := t
  flags := byte m.units 1
  id := BitVec.ofNat 32 (campoHost m.units 4 4)
  n := BitVec.ofNat 32 (campoHost m.units 8 4)
  primAddr := .ofBytes (slice m.units 12 16)
  univAddr := ⟨slice m.units 28 50, length_univAddr m⟩
  srcAddr := .ofBytes (slice m.units 80 16)

section Leer

variable {p : CtrlPkt} {q : RvCtrlPktMem} {m : List UChar}

lemma CtrlPkt.pairwise_campos (p : CtrlPkt) :
    p.campos.Pairwise fun w v => w.1 + w.2.length ≤ v.1 ∨ v.1 + v.2.length ≤ w.1 := by
  simp [CtrlPkt.campos]

lemma CtrlPkt.campos_dentro (p : CtrlPkt) : ∀ w ∈ p.campos, w.1 + w.2.length ≤ 64 := by
  simp [CtrlPkt.campos]

lemma RvCtrlPktMem.pairwise_campos (q : RvCtrlPktMem) :
    q.campos.Pairwise fun w v => w.1 + w.2.length ≤ v.1 ∨ v.1 + v.2.length ≤ w.1 := by
  simp [RvCtrlPktMem.campos, q.univAddr.size]

lemma RvCtrlPktMem.campos_dentro (q : RvCtrlPktMem) : ∀ w ∈ q.campos, w.1 + w.2.length ≤ 96 := by
  simp [RvCtrlPktMem.campos, q.univAddr.size]

lemma ofBytes_of_slice {off : ℕ} {addr : In6Addr} (h : slice m off addr.bytes.length = addr.bytes) :
    In6Addr.ofBytes (slice m off 16) = addr := by
  rw [In6Addr.length_bytes] at h
  rw [h, In6Addr.ofBytes_bytes]

lemma ofNat_campoHost_of_slice {off : ℕ} {v : BitVec 32}
    (h : slice m off (LittleEndian.bytes 4 v.toNat).length = LittleEndian.bytes 4 v.toNat) :
    BitVec.ofNat 32 (campoHost m off 4) = v := by
  rw [LittleEndian.length_bytes] at h
  rw [campoHost, h, LittleEndian.value_bytes v.isLt, BitVec.ofNat_toNat, BitVec.setWidth_eq]

/-- **A control packet** is read as it was written. -/
lemma CtrlPkt.leer_enMemoria {heap : Buffer UChar 64} (h : slice m 0 64 = p.enMemoria heap) :
    byte m 0 = p.pktTypeF.code ∧ CtrlPkt.leer p.pktTypeF m = p := by
  have hsize := heap.size
  have hcopia : slice m 0 heap.units.length = puts heap.units p.campos := by
    rw [hsize]
    exact h
  have hcampo (w : ℕ × List UChar) (hw : w ∈ p.campos) : slice m w.1 w.2.length = w.2 := by
    have hread := slice_of_puts hcopia p.pairwise_campos (by rw [hsize]; exact p.campos_dentro) hw
    rwa [Nat.zero_add] at hread
  have hsrc := hcampo (4, p.srcAddr.bytes) (by simp [CtrlPkt.campos])
  have hprim := hcampo (24, p.primAddr.bytes) (by simp [CtrlPkt.campos])
  have haddr := hcampo (44, p.adAddr.addr.bytes) (by simp [CtrlPkt.campos])
  have hbyte (off : ℕ) (b : UChar) (hw : (off, [b]) ∈ p.campos) : byte m off = b :=
    byte_of_slice (hcampo (off, [b]) hw)
  refine ⟨hbyte 0 p.pktTypeF.code (by simp [CtrlPkt.campos]), ?_⟩
  rw [CtrlPkt.leer, ofBytes_of_slice hsrc, ofBytes_of_slice hprim, ofBytes_of_slice haddr,
    hbyte 20 p.primAddrLen (by simp [CtrlPkt.campos]), hbyte 40 p.adAddr.tLenght (by simp [CtrlPkt.campos]),
    hbyte 60 p.adAddr.mask (by simp [CtrlPkt.campos]), hbyte 62 p.adAddr.redNumero (by simp [CtrlPkt.campos])]

/-- **A packet of the rendezvous** is read as it was written. -/
lemma RvCtrlPktMem.leer_enMemoria {heap : Buffer UChar 96} {b : Buffer UChar ipMaxpacket}
    (h : slice b.units 0 96 = q.enMemoria heap) :
    byte b.units 0 = q.type.code ∧ RvCtrlPktMem.leer q.type b = q := by
  have hsize := heap.size
  have hcopia : slice b.units 0 heap.units.length = puts heap.units q.campos := by
    rw [hsize]
    exact h
  have hcampo (w : ℕ × List UChar) (hw : w ∈ q.campos) : slice b.units w.1 w.2.length = w.2 := by
    have hread := slice_of_puts hcopia q.pairwise_campos (by rw [hsize]; exact q.campos_dentro) hw
    rwa [Nat.zero_add] at hread
  have hid := hcampo (4, LittleEndian.bytes 4 q.id.toNat) (by simp [RvCtrlPktMem.campos])
  have hn := hcampo (8, LittleEndian.bytes 4 q.n.toNat) (by simp [RvCtrlPktMem.campos])
  have hprim := hcampo (12, q.primAddr.bytes) (by simp [RvCtrlPktMem.campos])
  have huniv := hcampo (28, q.univAddr.units) (by simp [RvCtrlPktMem.campos])
  have hsrc := hcampo (80, q.srcAddr.bytes) (by simp [RvCtrlPktMem.campos])
  have hbyte (off : ℕ) (c : UChar) (hw : (off, [c]) ∈ q.campos) : byte b.units off = c :=
    byte_of_slice (hcampo (off, [c]) hw)
  refine ⟨hbyte 0 q.type.code (by simp [RvCtrlPktMem.campos]), ?_⟩
  rw [q.univAddr.size] at huniv
  simp only [RvCtrlPktMem.leer, huniv, ofBytes_of_slice hprim, ofBytes_of_slice hsrc, ofNat_campoHost_of_slice hid,
    ofNat_campoHost_of_slice hn, hbyte 1 q.flags (by simp [RvCtrlPktMem.campos])]

end Leer

/-! ## Sending and receiving -/

/-- What `antop_socket_read` finds: its buffer, and whether the datagram comes with `IPV6_PKTINFO`. -/
structure Recepcion where
  buffer : Buffer UChar ipMaxpacket
  pktinfo : Bool

lemma length_recibido (r : Recepcion) (datagrama : List UChar) :
    (put r.buffer.units 0 (datagrama.take ipMaxpacket)).length = ipMaxpacket := by
  rw [length_put, r.buffer.size]

/-- `antop_socket_read`: the buffer that `antop_process_pkt` is given, unless it cannot retrieve `IPV6_PKTINFO`. -/
def antopSocketRead (r : Recepcion) (datagrama : List UChar) : Option (Buffer UChar ipMaxpacket) :=
  if r.pktinfo then
    some ⟨put r.buffer.units 0 (datagrama.take ipMaxpacket), length_recibido r datagrama⟩
  else none

/-- A datagram is in the buffer as it was sent. -/
lemma exists_antopSocketRead {r : Recepcion} (hinfo : r.pktinfo = true) {datagrama : List UChar}
    (hlen : datagrama.length ≤ ipMaxpacket) :
    ∃ m, antopSocketRead r datagrama = some m ∧ slice m.units 0 datagrama.length = datagrama := by
  refine ⟨_, if_pos hinfo, ?_⟩
  change slice (put r.buffer.units 0 (datagrama.take ipMaxpacket)) 0 datagrama.length = datagrama
  rw [List.take_of_length_le hlen]
  exact slice_put_self (by rw [r.buffer.size, Nat.zero_add]; exact hlen)

lemma antopSocketRead_eq_none {r : Recepcion} (hinfo : ¬ r.pktinfo = true) (datagrama : List UChar) :
    antopSocketRead r datagrama = none :=
  if_neg hinfo

/-! ## Control packets -/

/-- The nodes, with the control packets that they send. -/
def manejadoresNodo : Network.Handlers Node Event Env (In6Addr × CtrlPkt) where
  act n e := (n.step e).map fun n' => (n', n'.out)
  receive n m env := (n.step (.recv env (.ctrl m.2))).map fun n' => (n', n'.out)

/-- The nodes, and the control packets that were sent. -/
abbrev RedNodos (ι : Type*) := Network.State ι Node (In6Addr × CtrlPkt)

/-- A control packet goes out as a datagram.  One of another kind is not read as one. -/
def codigoNodo : Network.Code (In6Addr × CtrlPkt) (In6Addr × List UChar) (Buffer UChar 64) (Recepcion × Env) Env where
  write heap m := (m.1, m.2.enMemoria heap)
  read r d := do
    let m ← antopSocketRead r.1 d.2
    let t ← PktType.ofCode (byte m.units 0)
    if t.esRv then none else some ((d.1, CtrlPkt.leer t m.units), r.2)

/-- The nodes, with the datagrams that they send. -/
def manejadoresNodoUdp :
    Network.Handlers Node (Event × (ℕ → Buffer UChar 64)) ((Recepcion × Env) × (ℕ → Buffer UChar 64))
      (In6Addr × List UChar) :=
  manejadoresNodo.wired codigoNodo Node.vaciar

/-- **A datagram** is read as the control packet that was sent, whatever memory it is written over. -/
lemma read_codigoNodo (heap : Buffer UChar 64) (m : In6Addr × CtrlPkt) (r : Recepcion × Env) :
    codigoNodo.read r (codigoNodo.write heap m)
      = if r.1.pktinfo = true ∧ m.2.pktTypeF.esRv = false then some (m, r.2) else none := by
  have hlength : (m.2.enMemoria heap).length = 64 := by rw [CtrlPkt.enMemoria, length_puts, heap.size]
  by_cases hinfo : r.1.pktinfo = true
  · obtain ⟨b, hread, hslice⟩ := exists_antopSocketRead hinfo (show (m.2.enMemoria heap).length ≤ ipMaxpacket by
      rw [hlength]; decide)
    rw [hlength] at hslice
    obtain ⟨htype, hleer⟩ := CtrlPkt.leer_enMemoria hslice
    simp only [codigoNodo, hread, Option.bind_eq_bind, Option.bind_some, htype, PktType.ofCode_code, hleer, hinfo,
      true_and]
    cases m.2.pktTypeF.esRv <;> rfl
  · rw [if_neg fun h => hinfo h.1]
    simp only [codigoNodo, antopSocketRead_eq_none hinfo, Option.bind_eq_bind, Option.bind_none]

lemma faithful_codigoNodo : codigoNodo.Faithful := by
  intro heap m r m' d hread
  rw [read_codigoNodo] at hread
  split_ifs at hread
  exact (Prod.mk.inj (Option.some.inj hread)).1.symm

/-! ## Short datagrams -/

section Alcance

variable {t : PktType} {m m' : List UChar}

end Alcance

section Distinta

variable {p : CtrlPkt}

variable {t : PktType} {m : List UChar}

end Distinta

/-- A node where no control packet is read. -/
lemma exists_act_vaciar (n : Node) : ∃ e, manejadoresNodo.act n e = some (n.vaciar, []) := by
  cases hexp : n.timers.expiredTQ with
  | nil =>
      refine ⟨.fire .zero, ?_⟩
      have hstep : n.step (.fire .zero) = some n.vaciar := by rw [Node.step, hexp]
      change (n.step _).map _ = _
      rw [hstep]
      rfl
  | cons t rest =>
      refine ⟨.timeout ⟨0, 0⟩, ?_⟩
      have hstep : n.step (.timeout ⟨0, 0⟩) = some n.vaciar := by rw [Node.step, hexp]
      change (n.step _).map _ = _
      rw [hstep]
      rfl

variable {ι : Type*} [DecidableEq ι]

/-- **The network of datagrams.**  A datagram with `IPV6_PKTINFO` is read as the control packet that was sent, whatever
stood in the memory of the sender and in the buffer of the receiver; so whatever happens in the network of datagrams,
with the same nodes, happens in the network of packets. -/
theorem red_de_datagramas :
    (∀ heap m r, codigoNodo.read r (codigoNodo.write heap m)
        = if r.1.pktinfo = true ∧ m.2.pktTypeF.esRv = false then some (m, r.2) else none)
      ∧ ∀ (s : RedNodos ι) s' es' u', Network.Wired codigoNodo s s' →
          run (Network.step manejadoresNodoUdp) s' es' = some u' →
          ∃ es u, run (Network.step manejadoresNodo) s es = some u ∧ Network.Wired codigoNodo u u'
            ∧ List.Forall₂ Network.SameEvent es es' :=
  ⟨read_codigoNodo, fun _ _ _ _ hs hrun => hs.run faithful_codigoNodo exists_act_vaciar hrun⟩

/-- The request for an address that waits for the node 1. -/
def redPar : RedNodos ℕ := ⟨fun _ => Node.hijo, [(.zero, CtrlPkt.zero)]⟩

/-- The same as a datagram. -/
def redParUdp (heap : Buffer UChar 64) : Network.State ℕ Node (In6Addr × List UChar) :=
  ⟨fun _ => Node.hijo, [codigoNodo.write heap (.zero, CtrlPkt.zero)]⟩

/-- It arrives. -/
lemma step_redParUdp (heap : Buffer UChar 64) (b : Buffer UChar ipMaxpacket) :
    ∃ u', Network.step manejadoresNodoUdp (redParUdp heap) (.deliver 1 0 ((⟨b, true⟩, .zero), fun _ => heap)) = some u'
      ∧ u'.node 1 = Node.hijo.vaciar.sendPap .zero CtrlPkt.zero.srcAddr := by
  have hread := read_codigoNodo heap (.zero, CtrlPkt.zero) (⟨b, true⟩, .zero)
  rw [if_pos ⟨rfl, rfl⟩] at hread
  obtain ⟨n', hn'⟩ : ∃ n', n' = Node.hijo.vaciar.sendPap .zero CtrlPkt.zero.srcAddr := ⟨_, rfl⟩
  have hrec : manejadoresNodo.receive Node.hijo (.zero, CtrlPkt.zero) .zero = some (n', n'.out) := by
    rw [hn']
    rfl
  have hudp := Network.Handlers.receive_wired manejadoresNodo Node.vaciar hread (fun _ => heap) hrec
  refine ⟨_, Network.step_deliver (List.getElem?_cons_zero ..) hudp, ?_⟩
  rw [Network.put_node_self, ← hn']
  rfl

/-- The request is answered. -/
theorem red_de_datagramas_par :
    ∃ u : RedNodos ℕ, (∃ es, run (Network.step manejadoresNodo) redPar es = some u)
      ∧ (u.node 1).out = (Node.hijo.vaciar.sendPap .zero CtrlPkt.zero.srcAddr).out := by
  obtain ⟨heap, -⟩ : ∃ heap : Buffer UChar 64, heap = .filled 64 7 := ⟨_, rfl⟩
  obtain ⟨b, -⟩ : ∃ b : Buffer UChar ipMaxpacket, b = .filled ipMaxpacket 9 := ⟨_, rfl⟩
  obtain ⟨u', hu', hnode⟩ := step_redParUdp heap b
  obtain ⟨-, hred⟩ := @red_de_datagramas ℕ _
  have hrun' : run (Network.step manejadoresNodoUdp) (redParUdp heap) [_] = some u' :=
    Option.bind_eq_some_iff.mpr ⟨u', hu', rfl⟩
  obtain ⟨es, u, hrun, hwired, -⟩ := hred redPar _ _ u' ⟨rfl, .cons ⟨heap, rfl⟩ .nil⟩ hrun'
  exact ⟨u, ⟨es, hrun⟩, by rw [← hwired.node, hnode]⟩

/-! ## Packets of the rendezvous -/

/-- What a node finds when a datagram of the rendezvous arrives. -/
structure LlegadaUdp where
  recepcion : Recepcion
  memoria : MemoriaRv
  dns : EntornoDns

/-- A packet of the rendezvous goes out as a datagram.  Behind the name stands what follows it in the buffer. -/
def codigoRv : Network.Code RvCtrlPktMem (List UChar) (Buffer UChar 96) LlegadaUdp Llegada where
  write heap p := p.enMemoria heap
  read r d := do
    let m ← antopSocketRead r.recepcion d
    let t ← PktType.ofCode (byte m.units 0)
    if t.esRv then some (RvCtrlPktMem.leer t m, ⟨m.units.drop 78, r.memoria, r.dns⟩) else none

/-- The nodes, with the datagrams that they send. -/
def manejadoresUdp :
    Network.Handlers NodoRv (EventoRv × (ℕ → Buffer UChar 96)) (LlegadaUdp × (ℕ → Buffer UChar 96)) (List UChar) :=
  manejadores.wired codigoRv NodoRv.callado

/-- **A datagram** is read as the packet of the rendezvous that was sent. -/
lemma read_codigoRv (heap : Buffer UChar 96) (p : RvCtrlPktMem) (r : LlegadaUdp) :
    (codigoRv.read r (codigoRv.write heap p)).map Prod.fst
      = if r.recepcion.pktinfo = true ∧ p.type.esRv = true then some p else none := by
  have hlength : (p.enMemoria heap).length = 96 := by rw [RvCtrlPktMem.enMemoria, length_puts, heap.size]
  by_cases hinfo : r.recepcion.pktinfo = true
  · obtain ⟨b, hread, hslice⟩ := exists_antopSocketRead hinfo (show (p.enMemoria heap).length ≤ ipMaxpacket by
      rw [hlength]; decide)
    rw [hlength] at hslice
    obtain ⟨htype, hleer⟩ := RvCtrlPktMem.leer_enMemoria hslice
    simp only [codigoRv, hread, Option.bind_eq_bind, Option.bind_some, htype, PktType.ofCode_code, hleer, hinfo,
      true_and]
    cases p.type.esRv <;> rfl
  · rw [if_neg fun h => hinfo h.1]
    simp only [codigoRv, antopSocketRead_eq_none hinfo, Option.bind_eq_bind, Option.bind_none, Option.map_none]

lemma faithful_codigoRv : codigoRv.Faithful := by
  intro heap p r p' d hread
  have hfst := read_codigoRv heap p r
  rw [hread, Option.map_some] at hfst
  split_ifs at hfst
  exact Option.some.inj hfst

/-- A node where no packet of the rendezvous is read. -/
lemma exists_act_callado (a : NodoRv) : ∃ e, manejadores.act a e = some (a.callado, []) :=
  ⟨.otro a.node, rfl⟩

/-- **The network of datagrams of the rendezvous** does what that of its packets does. -/
theorem red_rv_de_datagramas :
    (∀ heap p r, (codigoRv.read r (codigoRv.write heap p)).map Prod.fst
        = if r.recepcion.pktinfo = true ∧ p.type.esRv = true then some p else none)
      ∧ ∀ (s : RedRv ι) s' es' u', Network.Wired codigoRv s s' →
          run (Network.step manejadoresUdp) s' es' = some u' →
          ∃ es u, run RedRv.step s es = some u ∧ Network.Wired codigoRv u u'
            ∧ List.Forall₂ Network.SameEvent es es' :=
  ⟨read_codigoRv, fun _ _ _ _ hs hrun => hs.run faithful_codigoRv exists_act_callado hrun⟩

/-- `n1` is registered by datagrams. -/
theorem red_rv_de_datagramas_n1 :
    ∃ u : RedRv ℕ, (∃ es, run RedRv.step redN1 es = some u) ∧ u.sent.length = 1 := by
  obtain ⟨heap, -⟩ : ∃ heap : Buffer UChar 96, heap = .filled 96 7 := ⟨_, rfl⟩
  have hsent : (manejadores.act (redN1.node 0) (.registerRv .zero (Consultas.respuestaN1 0))).map (·.2.length)
      = some 1 := by decide +kernel
  obtain ⟨r, hact, hone⟩ := Option.map_eq_some_iff.mp hsent
  have hstep : Network.step manejadoresUdp (⟨redN1.node, []⟩ : Network.State ℕ NodoRv (List UChar))
      (.act 0 (.registerRv .zero (Consultas.respuestaN1 0), fun _ => heap))
        = some (.put ⟨redN1.node, []⟩ 0 (codigoRv.writeAll (fun _ => heap) r)) :=
    Network.step_act (Option.map_eq_some_iff.mpr ⟨r, hact, rfl⟩)
  have hrun' : run (Network.step manejadoresUdp) (⟨redN1.node, []⟩ : Network.State ℕ NodoRv (List UChar)) [_]
      = some _ :=
    Option.bind_eq_some_iff.mpr ⟨_, hstep, rfl⟩
  obtain ⟨-, hred⟩ := @red_rv_de_datagramas ℕ _
  obtain ⟨es, u, hrun, hwired, -⟩ := hred redN1 _ _ _ ⟨rfl, .nil⟩ hrun'
  refine ⟨u, ⟨es, hrun⟩, hwired.sent.length_eq.trans ?_⟩
  rw [Network.State.put, List.nil_append, Network.Code.writeAll, List.length_mapIdx, hone]

end Antop
