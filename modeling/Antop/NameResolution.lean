import Antop.Library.Network
import Antop.PendingQueries
import Antop.RvRoute
import Antop.ServerTable

/-!
# Names across the network

A node registers its name with servers, a server answers lookups from its table, and whoever asked answers
the DNS query that is pending with the address it is told.  Registrations, lookups and replies may be lost,
repeated, delayed, and handled by any node on the way.

* `NodoRv` — what a node keeps; `manejadores` — what it does with its own events and with a packet.
* `Hecho` — what the answers rest on: a registration, and a query.
* **`respuesta_registrada`** — an answer is one to a query of this node, and its address was registered before,
  for a name that the name asked for begins with.
* **`una_respuesta_por_consulta`** — a port gets no more answers than it has sent queries.
-/

namespace Antop

open CString KeyedList Transition

/-! ## The nodes -/

/-- A node: its queries with the variables of `rendezvous.c`, and `rv_table` as it lies in memory. -/
structure NodoRv where
  consultas : Consultas
  rvTable : List EntradaRv

/-- What happens at a node by itself: `rv_t` fires, a query comes from a resolver, a neighbour departs, the
tables are cleared, or anything else that leaves the names alone. -/
inductive EventoRv
  | registerRv (env : Env) (heap : RvCtrlPktMem)
  | answerDnsQuery (auxStr : Buffer UChar 150) (m : SinIniciar) (heap : RvCtrlPktMem) (e : DnsQQueue)
  | rvTableDelete (addr : In6Addr)
  | clearRvTables
  | otro (n : Node)

/-- What a node finds when a packet arrives: the memory behind the name, that of `rv_table_add` and of
`answer_rv_query`, and that of `answer_dns_query`. -/
structure Llegada where
  detras : List UChar
  memoria : MemoriaRv
  dns : EntornoDns

namespace NodoRv

/-- The node's variables. -/
def node (a : NodoRv) : Node := a.consultas.rv.node

/-- `univ_addr`, the command line argument. -/
def univAddr (a : NodoRv) : List UChar := a.consultas.rv.univAddr

/-- No answer is sent in the step. -/
def callado (a : NodoRv) : NodoRv := { a with consultas := { a.consultas with enviados := [] } }

/-- The packets of `register_rv`: the one for the primary address, which goes to every server.  The loop for
the secondary address calls `antop_socket_send` without its hop limit, socket and port. -/
def registerRvPkts (heap : RvCtrlPktMem) (a : NodoRv) : Option (List RvCtrlPktMem) :=
  if a.node.flagMezcla || a.node.flagFragmentacion then some []
  else (registerRvPkt heap a.node.primAddr a.univAddr).map fun p => [p]

/-- An event of the node itself. -/
def act (a : NodoRv) : EventoRv → Option (NodoRv × List RvCtrlPktMem)
  | .registerRv env heap => do
      let rv ← a.consultas.rv.registerRv env
      let pkts ← a.registerRvPkts heap
      some ({ a with consultas := { a.consultas with rv := rv, enviados := [] } }, pkts)
  | .answerDnsQuery auxStr m heap e => do
      let consultas ← a.consultas.consultar auxStr m e
      let uaddr ← decodificar auxStr e.pkt
      let p ← solveNamePkt heap a.node.primAddr uaddr
      some ({ a with consultas := consultas }, [p])
  | .rvTableDelete addr => some ({ a.callado with rvTable := rvTableDeleteMem addr a.rvTable }, [])
  | .clearRvTables =>
      some ({ consultas := { rv := a.consultas.rv.clearRvTables, dns := [], enviados := [] }, rvTable := [] }, [])
  | .otro n =>
      (a.consultas.rv.step (.otro n)).map fun rv =>
        ({ a with consultas := { a.consultas with rv := rv, enviados := [] } }, [])

/-- `antop_process_pkt` for the packets of the rendezvous. -/
def receive (a : NodoRv) (p : RvCtrlPktMem) (d : Llegada) : Option (NodoRv × List RvCtrlPktMem) :=
  match p.type with
  | .rvReg =>
      (rvTableAddMem d.memoria.entrada d.memoria.strAux p d.detras a.rvTable).map fun rvTable =>
        ({ a.callado with rvTable := rvTable }, [])
  | .rvAddrLookup =>
      (answerRvQuery d.memoria.rvMsg p d.detras a.rvTable).map fun r => (a.callado, [r])
  | .rvAddrSolve =>
      (a.consultas.rvAddrSolve d.dns p d.detras).map fun consultas => ({ a with consultas := consultas }, [])
  | _ => some (a.callado, [])

end NodoRv

/-- The nodes of the network. -/
def manejadores : Network.Handlers NodoRv EventoRv Llegada RvCtrlPktMem := ⟨NodoRv.act, NodoRv.receive⟩

variable {ι : Type*}

/-- The nodes, and the packets that were sent. -/
abbrev RedRv (ι : Type*) := Network.State ι NodoRv RvCtrlPktMem

/-- What happens in the network. -/
abbrev SucesoRv (ι : Type*) := Network.Event ι EventoRv Llegada

/-- One event. -/
def RedRv.step [DecidableEq ι] : RedRv ι → SucesoRv ι → Option (RedRv ι) := Network.step manejadores

/-- What the answers rest on. -/
inductive Hecho (ι : Type*)
  | registro (nombre : List UChar) (addr : In6Addr)
  | consulta (i : ι) (e : DnsQQueue)

/-- `register_rv` brings in a registration, of the primary address of the node, and a resolver its query. -/
def hechos (i : ι) (a : NodoRv) : EventoRv → Hecho ι → Prop
  | .registerRv _ _, .registro nombre addr => nombre = a.univAddr ∧ addr = a.node.primAddr
  | .answerDnsQuery _ _ _ e, .consulta j e' => i = j ∧ e = e'
  | _, _ => False

/-! ## What the packets and the tables say -/

/-- The address was registered for a name that `nombre` begins with. -/
def Respaldo (R : Hecho ι → Prop) (nombre : List UChar) (addr : In6Addr) : Prop :=
  ∃ registrado, R (.registro registrado addr) ∧ registrado <+: nombre

/-- What a node keeps is backed: its name is a string, the addresses of its table were registered, and its
pending queries were asked. -/
structure NodoRespaldado (R : Hecho ι → Prop) (i : ι) (a : NodoRv) : Prop where
  nombre : CStr a.univAddr
  rvTable : ∀ x ∈ a.rvTable, Respaldo R x.nombre x.hcAddr
  dns : ∀ e ∈ a.consultas.dns, ∃ e₀ b, R (.consulta i e₀) ∧ e = { e₀ with terminada := b }

/-- What a packet says is backed: whatever name a receiver reads in a registration or in a solved reply, its
address was registered. -/
def PaqueteRespaldado (R : Hecho ι → Prop) (p : RvCtrlPktMem) : Prop :=
  p.type = .rvReg ∨ p.type = .rvAddrSolve ∧ p.resuelto →
    ∀ detras nombre, p.leerNombre detras = some nombre → Respaldo R nombre p.primAddr

variable {R : Hecho ι → Prop}

lemma Respaldo.trans {nombre nombre' : List UChar} {addr : In6Addr} (h : Respaldo R nombre addr)
    (hpref : nombre <+: nombre') : Respaldo R nombre' addr := by
  obtain ⟨registrado, hR, hreg⟩ := h
  exact ⟨registrado, hR, hreg.trans hpref⟩

/-- A name that was copied without its zero is read with what stands behind it. -/
lemma prefijo_leerNombre {heap p : RvCtrlPktMem} {s detras nombre : List UChar} (hs : CStr s)
    (hcopia : heap.univAddr.memcpy s = some p.univAddr) (hleido : p.leerNombre detras = some nombre) :
    s <+: nombre := by
  obtain ⟨-, hunits⟩ := Buffer.memcpy_eq_some_iff.mp hcopia
  rw [RvCtrlPktMem.leerNombre, hunits, List.append_assoc, cstr_append hs] at hleido
  obtain ⟨resto, -, rfl⟩ := Option.map_eq_some_iff.mp hleido
  exact List.prefix_append s resto

/-- The packets of a registration. -/
lemma mem_registerRvPkts {heap p : RvCtrlPktMem} {a : NodoRv} {pkts : List RvCtrlPktMem}
    (h : a.registerRvPkts heap = some pkts) (hp : p ∈ pkts) :
    heap.univAddr.memcpy a.univAddr = some p.univAddr ∧ p.primAddr = a.node.primAddr := by
  unfold NodoRv.registerRvPkts at h
  split_ifs at h with hflags
  · obtain rfl := Option.some.inj h
    exact absurd hp List.not_mem_nil
  · obtain ⟨q, hq, rfl⟩ := Option.map_eq_some_iff.mp h
    obtain ⟨u, hu, rfl⟩ := Option.map_eq_some_iff.mp hq
    obtain rfl := List.mem_singleton.mp hp
    exact ⟨hu, rfl⟩

/-- What is in the table after a registration. -/
lemma mem_rvTableAddMem {heap strAux : Buffer UChar 20} {p : RvCtrlPktMem} {detras : List UChar}
    {rvTable rvTable' : List EntradaRv} (h : rvTableAddMem heap strAux p detras rvTable = some rvTable')
    {x : EntradaRv} (hx : x ∈ rvTable') :
    x ∈ rvTable ∨ p.leerNombre detras = some x.nombre ∧ x.hcAddr = p.primAddr := by
  obtain ⟨e, he, rfl⟩ := Option.map_eq_some_iff.mp h
  have hx : x ∈ upsert EntradaRv.nombre e rvTable := hx
  rcases mem_of_mem_upsert hx with rfl | hx
  · exact Or.inr (entradaGuardada_nombre he)
  · exact Or.inl hx

lemma type_answerRvQuery {heap p r : RvCtrlPktMem} {detras : List UChar} {rvTable : List EntradaRv}
    (h : answerRvQuery heap p detras rvTable = some r) : r.type = .rvAddrSolve := by
  obtain ⟨nombre, -, h⟩ := Option.bind_eq_some_iff.mp h
  obtain ⟨u, -, rfl⟩ := Option.map_eq_some_iff.mp h
  split <;> rfl

/-- A solved reply says what the table says, for a name that begins with that of the entry. -/
lemma exists_of_resuelto {heap p r : RvCtrlPktMem} {detras : List UChar} {rvTable : List EntradaRv}
    (h : answerRvQuery heap p detras rvTable = some r) (hr : r.resuelto) {detras' nombre : List UChar}
    (hleido : r.leerNombre detras' = some nombre) :
    ∃ x ∈ rvTable, x.nombre <+: nombre ∧ r.primAddr = x.hcAddr := by
  obtain ⟨buscado, hbuscado, -⟩ := Option.bind_eq_some_iff.mp h
  obtain ⟨x, hx⟩ := Option.isSome_iff_exists.mp ((resuelto_answerRvQuery h).mp hr)
  have hfind := (entradaBuscada_eq hbuscado rvTable).symm.trans hx
  have hpref : x.nombre <+: buscado := by
    simpa using List.find?_some hfind
  have hcopia := univAddr_answerRvQuery hbuscado h
  exact ⟨x, List.mem_of_find?_eq_some hfind, hpref.trans (prefijo_leerNombre (.of_cstr hbuscado) hcopia hleido),
    primAddr_answerRvQuery hx h⟩

/-! ## The handlers keep it -/

/-- `register_rv` leaves the name of the node. -/
lemma univAddr_registerRv {env : Env} {rv rv' : Rendezvous} (h : rv.registerRv env = some rv') :
    rv'.univAddr = rv.univAddr := by
  unfold Rendezvous.registerRv at h
  split_ifs at h
  · obtain rfl := Option.some.inj h
    rfl
  · obtain ⟨rvServers, -, rfl⟩ := Option.map_eq_some_iff.mp h
    rfl

/-- A query that is sent on goes to the end of the queue. -/
lemma of_consultar {auxStr : Buffer UChar 150} {m : SinIniciar} {e : DnsQQueue} {c c' : Consultas}
    (h : c.consultar auxStr m e = some c') :
    c'.rv.univAddr = c.rv.univAddr ∧ c'.dns = c.dns ++ [{ e with terminada := false }] ∧ c'.enviados = [] := by
  obtain ⟨uaddr, -, hq⟩ := Option.bind_eq_some_iff.mp h
  split_ifs at hq with hcache
  obtain ⟨rv, hrv, rfl⟩ := Option.map_eq_some_iff.mp hq
  rw [Rendezvous.solveName, if_neg hcache] at hrv
  obtain ⟨servers, -, rfl⟩ := Option.map_eq_some_iff.mp hrv
  exact ⟨rfl, rfl, rfl⟩

/-- A solved reply takes the query for its name off the queue, and sends its answer. -/
lemma of_resolver {env : EntornoDns} {primAddr propia : In6Addr} {univAddr : List UChar} {c c' : Consultas}
    (hpropia : c.rv.node.primAddr = propia) (h : c.resolver env primAddr univAddr = some c') :
    c'.rv = c.rv ∧ ∃ k, ∃ hk : k < c.dns.length, c'.dns = c.dns.eraseIdx k ∧ c.dns[k].nombre = univAddr
      ∧ ∃ data, c.dns[k].armar env.heap primAddr = some data ∧ c'.enviados = c.dns[k].enviar propia data := by
  unfold Consultas.resolver at h
  split at h
  · exact absurd h (by simp)
  next k hk =>
    obtain ⟨hlt, hname, -⟩ := List.findIdx?_eq_some_iff_getElem.mp hk
    obtain ⟨e, he, hrest⟩ := Option.bind_eq_some_iff.mp h
    obtain ⟨data, hdata, hr⟩ := Option.bind_eq_some_iff.mp hrest
    split_ifs at hr
    obtain rfl := Option.some.inj hr
    obtain rfl : c.dns[k] = e := Option.some.inj ((List.getElem?_eq_getElem hlt).symm.trans he)
    exact ⟨rfl, k, hlt, rfl, (DnsQQueue.coincide_iff _ _).mp hname, data, hdata, by rw [← hpropia]⟩

/-- A query that is marked is the one that was there. -/
lemma mem_terminar {nombre : List UChar} {dns : List DnsQQueue} {e : DnsQQueue}
    (h : e ∈ Consultas.terminar nombre dns) : ∃ e₀ ∈ dns, ∃ b, e = { e₀ with terminada := b } := by
  induction dns with
  | nil => exact absurd h List.not_mem_nil
  | cons x dns ih =>
      rw [Consultas.terminar, List.replaceF] at h
      by_cases hx : x.nombre = nombre ∧ x.terminada = false
      · rw [if_pos hx, List.mem_cons] at h
        rcases h with rfl | h
        · exact ⟨x, List.mem_cons_self, true, rfl⟩
        · exact ⟨e, List.mem_cons_of_mem x h, e.terminada, rfl⟩
      · rw [if_neg hx, List.mem_cons] at h
        rcases h with rfl | h
        · exact ⟨e, List.mem_cons_self, e.terminada, rfl⟩
        · obtain ⟨e₀, he₀, b, rfl⟩ := ih h
          exact ⟨e₀, List.mem_cons_of_mem x he₀, b, rfl⟩

/-- After a reply, what is in the queue was in it before. -/
lemma of_rvAddrSolve {env : EntornoDns} {p : RvCtrlPktMem} {detras : List UChar} {c c' : Consultas}
    (h : c.rvAddrSolve env p detras = some c') :
    c'.rv = c.rv ∧ ∀ e ∈ c'.dns, ∃ e₀ ∈ c.dns, ∃ b, e = { e₀ with terminada := b } := by
  unfold Consultas.rvAddrSolve at h
  split_ifs at h
  · obtain ⟨univAddr, -, hr⟩ := Option.bind_eq_some_iff.mp h
    obtain ⟨hrv, k, hk, hdns, -⟩ := of_resolver rfl hr
    refine ⟨hrv, fun e he => ⟨e, ?_, e.terminada, rfl⟩⟩
    rw [hdns] at he
    exact (List.eraseIdx_sublist _ _).subset he
  · obtain rfl := Option.some.inj h
    refine ⟨rfl, fun e he => ?_⟩
    cases hn : p.leerNombre detras with
    | none =>
        rw [hn] at he
        exact ⟨e, he, e.terminada, rfl⟩
    | some nombre =>
        rw [hn] at he
        exact mem_terminar he

/-- Its own events leave a node backed, and the packets it sends are. -/
lemma respaldado_act {i : ι} {a : NodoRv} {ev : EventoRv} {r : NodoRv × List RvCtrlPktMem}
    (ha : NodoRespaldado R i a) (hg : ∀ f, hechos i a ev f → R f) (h : a.act ev = some r) :
    NodoRespaldado R i r.1 ∧ ∀ p ∈ r.2, PaqueteRespaldado R p := by
  cases ev with
  | registerRv env heap =>
      obtain ⟨rv, hrv, hrest⟩ := Option.bind_eq_some_iff.mp h
      obtain ⟨pkts, hpkts, hr⟩ := Option.bind_eq_some_iff.mp hrest
      obtain rfl := Option.some.inj hr
      refine ⟨⟨?_, ha.rvTable, ha.dns⟩, fun p hp _ detras nombre hleido => ?_⟩
      · change CStr rv.univAddr
        rw [univAddr_registerRv hrv]
        exact ha.nombre
      · obtain ⟨hcopia, haddr⟩ := mem_registerRvPkts hpkts hp
        exact ⟨a.univAddr, hg (.registro a.univAddr p.primAddr) ⟨rfl, haddr⟩,
          prefijo_leerNombre ha.nombre hcopia hleido⟩
  | answerDnsQuery auxStr m heap e =>
      obtain ⟨consultas, hc, hrest⟩ := Option.bind_eq_some_iff.mp h
      obtain ⟨uaddr, -, hrest⟩ := Option.bind_eq_some_iff.mp hrest
      obtain ⟨p, hp, hr⟩ := Option.bind_eq_some_iff.mp hrest
      obtain rfl := Option.some.inj hr
      obtain ⟨hname, hdns, -⟩ := of_consultar hc
      refine ⟨⟨?_, ha.rvTable, fun x hx => ?_⟩, fun q hq hpkt => ?_⟩
      · change CStr consultas.rv.univAddr
        rw [hname]
        exact ha.nombre
      · rw [hdns, List.mem_append, List.mem_singleton] at hx
        rcases hx with hx | rfl
        · exact ha.dns x hx
        · exact ⟨e, false, hg (.consulta i e) ⟨rfl, rfl⟩, rfl⟩
      · -- a lookup says nothing about an address
        obtain rfl := List.mem_singleton.mp hq
        obtain ⟨u, -, rfl⟩ := Option.map_eq_some_iff.mp hp
        rcases hpkt with ht | ⟨ht, -⟩
        · exact absurd ht PktType.noConfusion
        · exact absurd ht PktType.noConfusion
  | rvTableDelete addr =>
      obtain rfl := Option.some.inj h
      exact ⟨⟨ha.nombre, fun x hx => ha.rvTable x (List.mem_of_mem_eraseP hx), ha.dns⟩,
        fun p hp => absurd hp List.not_mem_nil⟩
  | clearRvTables =>
      obtain rfl := Option.some.inj h
      exact ⟨⟨ha.nombre, fun x hx => absurd hx List.not_mem_nil, fun e he => absurd he List.not_mem_nil⟩,
        fun p hp => absurd hp List.not_mem_nil⟩
  | otro n =>
      obtain rfl := Option.some.inj h
      exact ⟨⟨ha.nombre, ha.rvTable, ha.dns⟩, fun p hp => absurd hp List.not_mem_nil⟩

/-- **A packet that is backed** leaves the node that gets it backed, and so is the reply. -/
lemma respaldado_receive {i : ι} {a : NodoRv} {p : RvCtrlPktMem} {d : Llegada}
    {r : NodoRv × List RvCtrlPktMem} (ha : NodoRespaldado R i a) (hp : PaqueteRespaldado R p)
    (h : a.receive p d = some r) : NodoRespaldado R i r.1 ∧ ∀ q ∈ r.2, PaqueteRespaldado R q := by
  unfold NodoRv.receive at h
  split at h
  next ht =>
    obtain ⟨rvTable, hadd, rfl⟩ := Option.map_eq_some_iff.mp h
    refine ⟨⟨ha.nombre, fun x hx => ?_, ha.dns⟩, fun q hq => absurd hq List.not_mem_nil⟩
    rcases mem_rvTableAddMem hadd hx with hx | ⟨hleido, haddr⟩
    · exact ha.rvTable x hx
    · rw [haddr]
      exact hp (Or.inl ht) d.detras x.nombre hleido
  next =>
    obtain ⟨q, hq, rfl⟩ := Option.map_eq_some_iff.mp h
    refine ⟨⟨ha.nombre, ha.rvTable, ha.dns⟩, fun s hs hpkt detras nombre hleido => ?_⟩
    obtain rfl := List.mem_singleton.mp hs
    have hres : s.resuelto := hpkt.elim (fun ht => absurd ht (by simp [type_answerRvQuery hq])) And.right
    obtain ⟨x, hx, hpref, haddr⟩ := exists_of_resuelto hq hres hleido
    rw [haddr]
    exact (ha.rvTable x hx).trans hpref
  next =>
    obtain ⟨c, hc, rfl⟩ := Option.map_eq_some_iff.mp h
    obtain ⟨hrv, hdns⟩ := of_rvAddrSolve hc
    refine ⟨⟨?_, ha.rvTable, fun e he => ?_⟩, fun q hq => absurd hq List.not_mem_nil⟩
    · change CStr c.rv.univAddr
      rw [hrv]
      exact ha.nombre
    · obtain ⟨e₁, he₁, b, rfl⟩ := hdns e he
      obtain ⟨e₀, b₀, hR, rfl⟩ := ha.dns e₁ he₁
      exact ⟨e₀, b, hR, rfl⟩
  next =>
    obtain rfl := Option.some.inj h
    exact ⟨⟨ha.nombre, ha.rvTable, ha.dns⟩, fun q hq => absurd hq List.not_mem_nil⟩

/-- **The handlers** keep what is backed. -/
lemma preserves_manejadores (R : Hecho ι → Prop) :
    Network.Preserves manejadores (NodoRespaldado R) (PaqueteRespaldado R)
      fun i a ev => ∀ f, hechos i a ev f → R f :=
  ⟨fun _ _ _ _ ha hg h => respaldado_act ha hg h, fun _ _ _ _ _ ha hp h => respaldado_receive ha hp h⟩

/-! ## Every answer -/

/-- An answer is sent on a solved reply, to a query for the name that is read in it. -/
lemma of_mem_enviados {a : NodoRv} {p : RvCtrlPktMem} {d : Llegada} {r : NodoRv × List RvCtrlPktMem}
    (h : a.receive p d = some r) {envio : EnvioDns} (henvio : envio ∈ r.1.consultas.enviados) :
    p.type = .rvAddrSolve ∧ p.resuelto ∧ ∃ e ∈ a.consultas.dns, p.leerNombre d.detras = some e.nombre
      ∧ ∃ data, e.armar d.dns.heap p.primAddr = some data ∧ envio ∈ e.enviar a.node.primAddr data := by
  unfold NodoRv.receive at h
  split at h
  next =>
    obtain ⟨rvTable, -, rfl⟩ := Option.map_eq_some_iff.mp h
    exact absurd henvio List.not_mem_nil
  next =>
    obtain ⟨q, -, rfl⟩ := Option.map_eq_some_iff.mp h
    exact absurd henvio List.not_mem_nil
  next ht =>
    obtain ⟨c, hc, rfl⟩ := Option.map_eq_some_iff.mp h
    unfold Consultas.rvAddrSolve at hc
    split_ifs at hc with hsolved
    · obtain ⟨univAddr, hleido, hres⟩ := Option.bind_eq_some_iff.mp hc
      obtain ⟨-, k, hk, -, hname, data, hdata, hsend⟩ :=
        of_resolver (show a.consultas.rv.node.primAddr = a.node.primAddr from rfl) hres
      refine ⟨ht, hsolved, _, List.getElem_mem hk, by rw [hname, hleido], data, hdata, ?_⟩
      rw [← hsend]
      exact henvio
    · obtain rfl := Option.some.inj hc
      exact absurd henvio List.not_mem_nil
  next =>
    obtain rfl := Option.some.inj h
    exact absurd henvio List.not_mem_nil

/-- The network at the beginning: the names are strings, no name is registered, no query is pending, and
nothing has been sent. -/
structure RedRv.Arranque (s : RedRv ι) : Prop where
  nombre : ∀ i, CStr (s.node i).univAddr
  rvTable : ∀ i, (s.node i).rvTable = []
  dns : ∀ i, (s.node i).consultas.dns = []
  sent : s.sent = []

/-- At the beginning there is nothing to be backed. -/
lemma RedRv.Arranque.holds {s : RedRv ι} (h : s.Arranque) (R : Hecho ι → Prop) :
    Network.Holds (NodoRespaldado R) (PaqueteRespaldado R) s where
  node := by
    intro i
    refine ⟨h.nombre i, ?_, ?_⟩
    · rw [h.rvTable i]
      exact fun x hx => absurd hx List.not_mem_nil
    · rw [h.dns i]
      exact fun e he => absurd he List.not_mem_nil
  sent := by
    rw [h.sent]
    exact fun p hp => absurd hp List.not_mem_nil

section Red

variable [DecidableEq ι] {s u u' : RedRv ι} {es : List (SucesoRv ι)}

/-- What a run has brought in. -/
def RedRv.Ocurrido (s : RedRv ι) (es : List (SucesoRv ι)) : Hecho ι → Prop :=
  Network.Introduced manejadores hechos s es

/-- **Every answer**, after any run, is one to a query that a resolver has made to this node, and the address in
it is one that a node had when it registered, under a name that the name asked for begins with. -/
theorem respuesta_registrada (h : s.Arranque) (hrun : run RedRv.step s es = some u) {i : ι} {k : ℕ}
    {d : Llegada} (hstep : RedRv.step u (.deliver i k d) = some u') {envio : EnvioDns}
    (henvio : envio ∈ (u'.node i).consultas.enviados) :
    ∃ e nombre addr data, s.Ocurrido es (.consulta i e) ∧ s.Ocurrido es (.registro nombre addr)
      ∧ nombre <+: e.nombre ∧ e.armar d.dns.heap addr = some data
      ∧ envio ∈ e.enviar (u.node i).node.primAddr data := by
  have hholds := Network.provenance (fun R => preserves_manejadores R) (h.holds (s.Ocurrido es)) u
    (run_mem_states hrun)
  obtain ⟨p, hp, hrest⟩ := Option.bind_eq_some_iff.mp hstep
  obtain ⟨r, hr, rfl⟩ := Option.map_eq_some_iff.mp hrest
  rw [Network.put_node_self] at henvio
  obtain ⟨ht, hres, e, he, hleido, data, hdata, hsend⟩ := of_mem_enviados hr henvio
  obtain ⟨nombre, hreg, hpref⟩ :=
    hholds.sent p (List.mem_of_getElem? hp) (Or.inr ⟨ht, hres⟩) d.detras e.nombre hleido
  obtain ⟨e₀, b, hask, rfl⟩ := (hholds.node i).dns e he
  exact ⟨e₀, nombre, p.primAddr, data, hask, hreg, hpref, hdata, hsend⟩

/-! ## At most one answer for each query -/

/-- The node `i` sends an answer to the port in this step. -/
def respondido (i : ι) (port : Word) (_ : RedRv ι) (ev : SucesoRv ι) (u' : RedRv ι) : Bool :=
  ev.place = i ∧ ∃ envio ∈ (u'.node i).consultas.enviados, envio.port = port

/-- A query comes to the node `i` from the port. -/
def preguntado (i : ι) (port : Word) (_ : RedRv ι) (ev : SucesoRv ι) (_ : RedRv ι) : Bool :=
  match ev with
  | .act j (.answerDnsQuery _ _ _ e) => j = i ∧ htons e.dstPort = port
  | _ => false

end Red

/-- How many pending queries have come from the port. -/
def pendientes (port : Word) (dns : List DnsQQueue) : ℕ := dns.countP fun e => htons e.dstPort = port

/-- Marking a query leaves its port. -/
lemma pendientes_terminar (port : Word) (nombre : List UChar) (dns : List DnsQQueue) :
    pendientes port (Consultas.terminar nombre dns) = pendientes port dns := by
  unfold pendientes
  induction dns with
  | nil => rfl
  | cons x dns ih =>
      rw [Consultas.terminar, List.replaceF]
      by_cases hx : x.nombre = nombre ∧ x.terminada = false
      · rw [if_pos hx, List.countP_cons, List.countP_cons]
      · rw [if_neg hx, List.countP_cons, List.countP_cons]
        exact congrArg (· + _) ih

/-- A query that is taken off the queue is one less from its port. -/
lemma pendientes_eraseIdx (port : Word) {dns : List DnsQQueue} {k : ℕ} (hk : k < dns.length) :
    (if htons dns[k].dstPort = port then 1 else 0) + pendientes port (dns.eraseIdx k) = pendientes port dns := by
  have hperm := (List.getElem_cons_eraseIdx_perm hk).countP_eq fun e => decide (htons e.dstPort = port)
  rw [List.countP_cons] at hperm
  simp only [decide_eq_true_eq] at hperm
  rw [pendientes, pendientes, ← hperm, add_comm]

/-- By its own events a node answers nothing, and only a query adds to what is pending. -/
lemma pendientes_act (port : Word) {a : NodoRv} {ev : EventoRv} {r : NodoRv × List RvCtrlPktMem}
    (h : a.act ev = some r) : r.1.consultas.enviados = []
      ∧ pendientes port r.1.consultas.dns ≤ pendientes port a.consultas.dns
        + match ev with
          | .answerDnsQuery _ _ _ e => if htons e.dstPort = port then 1 else 0
          | _ => 0 := by
  cases ev with
  | registerRv env heap =>
      obtain ⟨rv, -, hrest⟩ := Option.bind_eq_some_iff.mp h
      obtain ⟨pkts, -, hr⟩ := Option.bind_eq_some_iff.mp hrest
      obtain rfl := Option.some.inj hr
      exact ⟨rfl, le_rfl⟩
  | answerDnsQuery auxStr m heap e =>
      obtain ⟨consultas, hc, hrest⟩ := Option.bind_eq_some_iff.mp h
      obtain ⟨uaddr, -, hrest⟩ := Option.bind_eq_some_iff.mp hrest
      obtain ⟨p, -, hr⟩ := Option.bind_eq_some_iff.mp hrest
      obtain rfl := Option.some.inj hr
      obtain ⟨-, hdns, henviados⟩ := of_consultar hc
      refine ⟨henviados, ?_⟩
      rw [pendientes, hdns, List.countP_append, List.countP_singleton]
      simp [pendientes]
  | rvTableDelete addr =>
      obtain rfl := Option.some.inj h
      exact ⟨rfl, le_rfl⟩
  | clearRvTables =>
      obtain rfl := Option.some.inj h
      exact ⟨rfl, Nat.zero_le _⟩
  | otro n =>
      obtain rfl := Option.some.inj h
      exact ⟨rfl, le_rfl⟩

/-- **A packet** that is answered takes the query off the queue; there is one answer, to its port. -/
lemma pendientes_receive (port : Word) {a : NodoRv} {p : RvCtrlPktMem} {d : Llegada}
    {r : NodoRv × List RvCtrlPktMem} (h : a.receive p d = some r) :
    r.1.consultas.enviados.length ≤ 1
      ∧ (if ∃ envio ∈ r.1.consultas.enviados, envio.port = port then 1 else 0)
        + pendientes port r.1.consultas.dns ≤ pendientes port a.consultas.dns := by
  unfold NodoRv.receive at h
  split at h
  next =>
    obtain ⟨rvTable, -, rfl⟩ := Option.map_eq_some_iff.mp h
    simp [NodoRv.callado]
  next =>
    obtain ⟨q, -, rfl⟩ := Option.map_eq_some_iff.mp h
    simp [NodoRv.callado]
  next =>
    obtain ⟨c, hc, rfl⟩ := Option.map_eq_some_iff.mp h
    unfold Consultas.rvAddrSolve at hc
    split_ifs at hc
    · obtain ⟨univAddr, -, hres⟩ := Option.bind_eq_some_iff.mp hc
      obtain ⟨-, k, hk, hdns, -, data, -, hsend⟩ := of_resolver rfl hres
      obtain ⟨envio, hone, hport⟩ := a.consultas.dns[k].exists_enviar a.consultas.rv.node.primAddr data
      have hcount := pendientes_eraseIdx port hk
      simp only [hsend, hone, hdns]
      simp only [List.mem_singleton, exists_eq_left, hport]
      exact ⟨le_rfl, hcount.le⟩
    · obtain rfl := Option.some.inj hc
      cases hn : p.leerNombre d.detras with
      | none => simp
      | some nombre => simp [pendientes_terminar]
  next =>
    obtain rfl := Option.some.inj h
    simp [NodoRv.callado]

section Red

variable [DecidableEq ι]

/-- The account of a node: an answer takes a pending query away, and a query adds one. -/
lemma balance_step (i : ι) (port : Word) {s s' : RedRv ι} {ev : SucesoRv ι} (h : RedRv.step s ev = some s') :
    (if respondido i port s ev s' then 1 else 0) + pendientes port (s'.node i).consultas.dns
      ≤ pendientes port (s.node i).consultas.dns + if preguntado i port s ev s' then 1 else 0 := by
  by_cases hi : ev.place = i
  · subst hi
    rcases Network.step_cases h with ⟨j, ev, r, rfl, hr, rfl⟩ | ⟨j, k, d, p, r, rfl, -, -, hr, rfl⟩
    · obtain ⟨hnada, hle⟩ := pendientes_act port hr
      simp only [respondido, Network.Event.place, Network.put_node_self, hnada]
      cases ev <;> simpa [preguntado] using hle
    · obtain ⟨-, hle⟩ := pendientes_receive port hr
      simpa [respondido, preguntado, Network.Event.place, Network.put_node_self] using hle
  · have hsame := Network.node_of_ne h (Ne.symm hi)
    have hno : respondido i port s ev s' = false := by simp [respondido, hi]
    rw [hno, hsame]
    simp

/-- **At most one answer for each query.**  In every run, a node sends no more answers to a port than it got
queries from it, however often lookups and replies are repeated; and no packet makes it send two. -/
theorem una_respuesta_por_consulta (i : ι) (port : Word) {s : RedRv ι} (h : (s.node i).consultas.dns = [])
    (es : List (SucesoRv ι)) :
    countSteps RedRv.step (respondido i port) s es ≤ countSteps RedRv.step (preguntado i port) s es
      ∧ ∀ t ∈ steps RedRv.step s es, t.2.1.place = i → (t.2.2.node i).consultas.enviados.length ≤ 1 := by
  constructor
  · have hbalance : countSteps RedRv.step (respondido i port) s es
        ≤ pendientes port (s.node i).consultas.dns + countSteps RedRv.step (preguntado i port) s es := by
      refine countSteps_le_of_balance (fun s : RedRv ι => pendientes port (s.node i).consultas.dns) ?_ s es
      exact fun _ _ _ hstep => balance_step i port hstep
    rw [h] at hbalance
    exact hbalance.trans_eq (zero_add _)
  · rintro ⟨a, ev, b⟩ ht hi
    have hstep : RedRv.step a ev = some b := step_of_mem_steps ht
    change ev.place = i at hi
    change (b.node i).consultas.enviados.length ≤ 1
    subst hi
    rcases Network.step_cases hstep with ⟨j, ev, r, rfl, hr, rfl⟩ | ⟨j, k, d, p, r, rfl, -, -, hr, rfl⟩
    · rw [Network.Event.place, Network.put_node_self, (pendientes_act port hr).1]
      exact Nat.zero_le 1
    · rw [Network.Event.place, Network.put_node_self]
      exact (pendientes_receive port hr).1

/-! ## A name with two letters -/

/-- The node `0` has the name `n1`; the others have none. -/
def redN1 : RedRv ℕ where
  node := fun i => ⟨.vacia (.arranque (if i = 0 then [110, 49] else [])), []⟩
  sent := []

/-- What a node finds in memory that is filled with zeros. -/
def llegadaCero : Llegada :=
  ⟨[], ⟨.filled 20 0, .filled 20 0, Consultas.respuestaN1 0⟩, Consultas.entornoCero⟩

/-- `n1` is registered with the node 1; the node 2 asks for it. -/
def busquedaN1 : List (SucesoRv ℕ) :=
  [.act 0 (.registerRv .zero (Consultas.respuestaN1 0)), .deliver 1 0 llegadaCero,
    .act 2 (.answerDnsQuery (.filled 150 0) .zero (Consultas.respuestaN1 0) Consultas.consultaN1),
    .deliver 1 1 llegadaCero]

/-- The node 2 answers, with the address that `n1` registered. -/
theorem respuesta_registrada_n1 : ∃ (u u' : RedRv ℕ) (envio : EnvioDns),
    run RedRv.step redN1 busquedaN1 = some u ∧ RedRv.step u (.deliver 2 2 llegadaCero) = some u'
      ∧ envio ∈ (u'.node 2).consultas.enviados
      ∧ ∃ e nombre addr data, redN1.Ocurrido busquedaN1 (.consulta 2 e)
        ∧ redN1.Ocurrido busquedaN1 (.registro nombre addr) ∧ nombre <+: e.nombre
        ∧ e.armar llegadaCero.dns.heap addr = some data
        ∧ envio ∈ e.enviar (u.node 2).node.primAddr data := by
  have hsent : ((run RedRv.step redN1 busquedaN1).bind fun u =>
      (RedRv.step u (.deliver 2 2 llegadaCero)).map fun u' => (u'.node 2).consultas.enviados.length) = some 1 := by
    decide +kernel
  obtain ⟨u, hrun, hrest⟩ := Option.bind_eq_some_iff.mp hsent
  obtain ⟨u', hstep, hone⟩ := Option.map_eq_some_iff.mp hrest
  obtain ⟨envio, henvio⟩ := List.exists_mem_of_length_pos (hone ▸ Nat.zero_lt_one)
  have hstart : redN1.Arranque :=
    ⟨fun i => by by_cases hi : i = 0 <;> simp [redN1, hi, CStr, NodoRv.univAddr, Consultas.vacia,
      Rendezvous.arranque, Rendezvous.rvTablesInit], fun _ => rfl, fun _ => rfl, rfl⟩
  exact ⟨u, u', envio, hrun, hstep, henvio, respuesta_registrada hstart hrun hstep henvio⟩

/-- The reply to `n1` is repeated. -/
theorem una_respuesta_por_consulta_n1 :
    countSteps RedRv.step (respondido 2 4660) redN1
        (busquedaN1 ++ [.deliver 2 2 llegadaCero, .deliver 2 2 llegadaCero])
      ≤ countSteps RedRv.step (preguntado 2 4660) redN1
        (busquedaN1 ++ [.deliver 2 2 llegadaCero, .deliver 2 2 llegadaCero]) :=
  (una_respuesta_por_consulta 2 4660 rfl _).1

end Red

end Antop
