import Antop.Dispatch

/-!
# Joining a network

The joiner's side of the exchange `PAR`, `PAP`, `PAN`, `PANC`: `get_prim_addr`, which a node runs
before its main loop.

* `Lectura` — what a read of the socket gives; `atender` and `recibir` are what it does to the node in
  `antop_socket_read` and in `receive_pap`.
* `Aspirante` — a node that is in `get_prim_addr`, at one of the two places where it waits.
* `start` — the label of that name: a `PAR` is sent and the vector of `PAP`s is empty.
* `leer`, `vencer` — a packet is read, or the time of the wait is over.
* `Estacion` — a node before or after `get_prim_addr` has returned.

A joiner reads with `antop_socket_read`, which runs the handler of the packet as in the main loop: the
joiner answers a `PAR`, and takes a `PAN` for the address it starts with.  After that, in the first wait a
packet that offers no address still sets `red_numero`, and in the second one any packet that is not the
expected `PANC` sends the joiner back to `start`.
-/

namespace Antop

/-- `MAX_RCVD_PAP`. -/
def maxRcvdPap : ℕ := 10

/-- Where `get_prim_addr` waits: for `PAP`s, with those received, or for the `PANC` of the node whose
`PAP` was chosen. -/
inductive Fase
  | esperaPap (vPap : List CtrlPkt)
  | esperaPanc (elegida : CtrlPkt)

/-- A node in `get_prim_addr`; `src` is the address its interface had at the start. -/
structure Aspirante where
  src : In6Addr
  node : Node
  fase : Fase

/-- A node of the network or one that is joining it. -/
inductive Estacion
  | uniendose (s : Aspirante)
  | unida (n : Node)

namespace Node

/-- `send_par`. -/
def sendPar (env : Env) (src : In6Addr) (n : Node) : Node :=
  n.send multicast { env.heap with pktTypeF := .par, srcAddr := src }

/-- The packet of `send_pan`: `src` is the address of the interface, `addr` the parent's, and the
primary address holds the chosen one. -/
def panPkt (src addr chosenAddr : In6Addr) (redNumero : UChar) : CtrlPkt :=
  { CtrlPkt.zero with
    pktTypeF := .pan, srcAddr := src, primAddr := chosenAddr
    adAddr := { CtrlPkt.zero.adAddr with addr := addr, redNumero := redNumero } }

/-- `send_pan`. -/
def sendPan (src addr chosenAddr : In6Addr) (n : Node) : Node :=
  n.send multicast (panPkt src addr chosenAddr n.redNumero)

/-- `set_if_addr2` with `change_addr`: the interface's address `old` is replaced. -/
def setIfAddr2 (old ifAddr : In6Addr) (n : Node) : Node :=
  { n with iface := insert ifAddr (n.iface.erase old) }

/-- The node takes a `PAN` as one for itself. -/
def aceptaPan (pan : CtrlPkt) (n : Node) : Prop :=
  pan.adAddr.redNumero = n.redNumero ∧ n.primAddr = pan.adAddr.addr

instance (pan : CtrlPkt) (n : Node) : Decidable (n.aceptaPan pan) := by
  unfold aceptaPan
  infer_instance

end Node

/-- The messages of the exchange. -/
def esDeUnion (m : In6Addr × CtrlPkt) : Bool :=
  m.2.pktTypeF = .par ∨ m.2.pktTypeF = .pap ∨ m.2.pktTypeF = .pan ∨ m.2.pktTypeF = .panc

/-- A packet `receive_pap` returns 0 for. -/
def esPap (msg : CtrlPkt) : Bool := msg.pktTypeF = .pap ∧ msg.adAddr.mask ≠ 0

/-- What `antop_socket_read` gives: an error, or a packet, with what its handler reads from outside. -/
inductive Lectura
  | error
  | paquete (env : Env) (msg : CtrlPkt)

namespace Lectura

/-- The packet, if there is one. -/
def msg : Lectura → Option CtrlPkt
  | error => none
  | paquete _ msg => some msg

/-- The packet is a `PAP` that offers an address: `receive_pap` returns 0. -/
def oferta (l : Lectura) : Option CtrlPkt := l.msg.filter esPap

/-- `antop_socket_read`: the handler of the packet runs.  What a packet of the rendezvous does to `rv_table` is
left out: nothing here reads it. -/
def atender (n : Node) : Lectura → Option Node
  | error => some n
  | paquete env msg => Node.antopProcessPkt env (.ctrl msg) n

/-- `receive_pap`, as far as the node is concerned, and the case 0. -/
def recibir (n : Node) (l : Lectura) : Option Node :=
  (l.atender n).map fun n =>
    match l.msg with
    | none => n
    | some msg =>
        let n := { n with redNumero := msg.adAddr.redNumero }
        if esPap msg then { n with flagConexion := true } else n

end Lectura

/-- The search for the lowest mask: the first of those that have it. -/
def elegir (elegida : CtrlPkt) (vPap : List CtrlPkt) : CtrlPkt :=
  vPap.foldl (fun e pap => if pap.adAddr.mask < e.adAddr.mask then pap else e) elegida

/-- The choice is one of the `PAP`s. -/
lemma elegir_mem (elegida : CtrlPkt) (vPap : List CtrlPkt) : elegir elegida vPap ∈ elegida :: vPap := by
  induction vPap generalizing elegida with
  | nil => simp [elegir]
  | cons pap vPap ih =>
      have h := ih (if pap.adAddr.mask < elegida.adAddr.mask then pap else elegida)
      rw [elegir, List.foldl_cons, ← elegir]
      rcases List.mem_cons.mp h with h | h
      · rw [h]
        split_ifs <;> simp
      · simp [h]

/-- None of them has a lower mask. -/
lemma elegir_le (elegida : CtrlPkt) (vPap : List CtrlPkt) :
    ∀ pap ∈ elegida :: vPap, (elegir elegida vPap).adAddr.mask ≤ pap.adAddr.mask := by
  induction vPap generalizing elegida with
  | nil => simp [elegir]
  | cons pap vPap ih =>
      rw [elegir, List.foldl_cons, ← elegir]
      have h := ih (if pap.adAddr.mask < elegida.adAddr.mask then pap else elegida)
      rw [List.forall_mem_cons] at h
      obtain ⟨hhead, hrest⟩ := h
      rw [List.forall_mem_cons, List.forall_mem_cons]
      split_ifs at hhead hrest ⊢ with hlt
      · exact ⟨BitVec.le_trans hhead (BitVec.le_of_lt hlt), hhead, hrest⟩
      · exact ⟨hhead, BitVec.le_trans hhead (BitVec.not_lt.mp hlt), hrest⟩

namespace Aspirante

/-- `start`. -/
def start (env : Env) (s : Aspirante) : Aspirante :=
  { s with node := s.node.sendPar env s.src, fase := .esperaPap [] }

/-- A node with the interface address `src` that calls `get_prim_addr`. -/
def nuevo (env : Env) (hcDim : ℕ) (univAddr : String) (src : In6Addr) : Aspirante :=
  start env { src := src, node := { primAddrInit hcDim univAddr with iface := {src} }
              fase := .esperaPap [] }

/-- No `PAP`: the node founds a network of its own. -/
def fundar (env : Env) (s : Aspirante) : Node :=
  let n := { s.node with redNumero := env.macAddress }
  { n.setIfAddr2 s.src n.primAddr with primMask := 0, primMaskInicial := 0 }

/-- The end of the first wait, once a `PAP` is chosen. -/
def pedir (elegida : CtrlPkt) (s : Aspirante) : Aspirante :=
  let n := { s.node with redNumero := elegida.adAddr.redNumero }
  { s with
    node := n.sendPan s.src elegida.primAddr elegida.adAddr.addr, fase := .esperaPanc elegida }

/-- The search for the lowest mask and the `PAN` for it. -/
def pedirMejor (vPap : List CtrlPkt) (s : Aspirante) : Aspirante :=
  match vPap with
  | [] => s
  | primera :: resto => s.pedir (elegir primera resto)

/-- The heartbeat `get_prim_addr` makes up to enter the parent as a neighbour: a local variable of
which two fields are set. -/
def hbFalso (env : Env) (elegida : CtrlPkt) : CtrlPkt :=
  { env.heap with
    primAddr := elegida.primAddr, adAddr := { env.heap.adAddr with mask := elegida.adAddr.mask } }

/-- The address, the dimension and the masks are those of the chosen `PAP`. -/
def tomarPap (elegida : CtrlPkt) (n : Node) : Node :=
  { n with
    primAddr := elegida.adAddr.addr
    hcDim := elegida.primAddrLen.toNat
    primMask := elegida.adAddr.mask
    primMaskInicial := elegida.adAddr.mask
    flagConexion := false }

/-- The address is confirmed. -/
def adoptar (env : Env) (elegida : CtrlPkt) (s : Aspirante) : Option Node :=
  let n := s.node.setIfAddr2 s.src elegida.adAddr.addr
  ((n.sendHb env false).processHb env (hbFalso env elegida)).map (tomarPap elegida)

/-- The joiner with the node that a handler has left. -/
def conNodo (s : Aspirante) (n : Node) : Aspirante := { s with node := n }

/-- What the first wait does with a packet that `receive_pap` has read: an offer is put into the vector, and
when that is full the wait ends. -/
def guardarPap (msg : CtrlPkt) (vPap : List CtrlPkt) (s : Aspirante) : Aspirante :=
  if esPap msg then
    let vPap := vPap ++ [msg]
    let s := { s with fase := .esperaPap vPap }
    if maxRcvdPap ≤ vPap.length then s.pedirMejor vPap else s
  else s

/-- The packet read in the second wait is the `PANC` of the chosen node. -/
def esPanc (msg elegida : CtrlPkt) : Bool := msg.pktTypeF = .panc ∧ msg.adAddr.addr = elegida.primAddr

/-- A control packet is read.  `none` is a crash. -/
def leer (env : Env) (msg : CtrlPkt) (s : Aspirante) : Option Estacion :=
  match s.fase with
  | .esperaPap vPap =>
      ((Lectura.paquete env msg).recibir s.node).map fun n => .uniendose ((s.conNodo n).guardarPap msg vPap)
  | .esperaPanc elegida => do
      let s := s.conNodo (← (Lectura.paquete env msg).atender s.node)
      if esPanc msg elegida then (s.adoptar env elegida).map fun n => .unida (n.arrancar env.clock)
      else some (.uniendose (s.start env))

/-- The time of the wait is over. -/
def vencer (env : Env) (s : Aspirante) : Estacion :=
  match s.fase with
  | .esperaPap [] => .unida ((s.fundar env).arrancar env.clock)
  | .esperaPap vPap => .uniendose (s.pedirMejor vPap)
  | .esperaPanc _ => .uniendose (s.start env)

/-- The joiner with nothing sent yet. -/
def vaciar (s : Aspirante) : Aspirante := { s with node := s.node.vaciar }

/-! ## The node of a joiner

Until it is confirmed the node has the address `prim_addr_init` gave it, no addresses to pass on and
no secondary ones, and it takes part in no merge.
-/

/-- What stays as `prim_addr_init` set it up until an address is confirmed. -/
structure Inicial (n : Node) : Prop where
  primAddr : n.primAddr = root
  sinRecuperadas : n.rcvdAddr = [] ∧ n.rcvdOffered = none
  sinSecundaria : n.secAddrFlag = false ∧ n.secAddr = .zero
  sinEnlaces : n.nSLTable = [] ∧ n.flagNeighBySecond = false
  sinMezcla : n.flagMezcla = false ∧ n.flagFragmentacion = false
  flagInit : n.flagInit = false
  primAddrFlag : n.primAddrFlag = false

lemma inicial_nuevo (env : Env) (hcDim : ℕ) (univAddr : String) (src : In6Addr) :
    Inicial (nuevo env hcDim univAddr src).node :=
  ⟨rfl, ⟨rfl, rfl⟩, ⟨rfl, rfl⟩, ⟨rfl, rfl⟩, ⟨rfl, rfl⟩, rfl, rfl⟩

/-- The fields a joiner changes before it is confirmed. -/
def conEspera (n : Node) (redNumero : UChar) (flagConexion : Bool) (out : List (In6Addr × CtrlPkt)) :
    Node :=
  { n with redNumero := redNumero, flagConexion := flagConexion, out := out }

lemma Inicial.conEspera {n : Node} (h : Inicial n) (redNumero : UChar) (flagConexion : Bool)
    (out : List (In6Addr × CtrlPkt)) : Inicial (conEspera n redNumero flagConexion out) :=
  ⟨h.primAddr, h.sinRecuperadas, h.sinSecundaria, h.sinEnlaces, h.sinMezcla, h.flagInit,
    h.primAddrFlag⟩

lemma Inicial.vaciar {s : Aspirante} (h : Inicial s.node) : Inicial s.vaciar.node :=
  ⟨h.primAddr, h.sinRecuperadas, h.sinSecundaria, h.sinEnlaces, h.sinMezcla, h.flagInit,
    h.primAddrFlag⟩

lemma Inicial.start {s : Aspirante} (h : Inicial s.node) (env : Env) : Inicial (s.start env).node :=
  h.conEspera _ _ _

lemma Inicial.pedirMejor {s : Aspirante} (h : Inicial s.node) (vPap : List CtrlPkt) :
    Inicial (s.pedirMejor vPap).node := by
  cases vPap with
  | nil => exact h
  | cons primera resto => exact h.conEspera _ _ _

lemma Inicial.guardarPap {s : Aspirante} (h : Inicial s.node) (msg : CtrlPkt) (vPap : List CtrlPkt) :
    Inicial (s.guardarPap msg vPap).node := by
  unfold Aspirante.guardarPap
  dsimp only
  split_ifs
  · exact Inicial.pedirMejor (s := { s with fase := .esperaPap (vPap ++ [msg]) }) h _
  · exact h
  · exact h

/-- The checks of `send_hb` find nothing to do, and one heartbeat is sent. -/
lemma Inicial.sendHb {n : Node} (h : Inicial n) (env : Env) :
    ∃ hb, hb.pktTypeF = .hb ∧ n.sendHb env false = n.send multicast hb := by
  have hsolo : ¬ n.estaSolo := fun hs => hs.2 h.primAddr
  have hnsl : n.checkNSLTable = n := by
    unfold Node.checkNSLTable
    rw [if_pos h.sinEnlaces.1, ← h.sinEnlaces.2]
  have hchecks : n.sendHbChecks env = n := by
    unfold Node.sendHbChecks Node.checkIfIAmOnly
    rw [if_neg hsolo, Node.checkNeighOfSecondaryAddress_of_not_sec h.sinSecundaria.1, hnsl, ite_self]
  unfold Node.sendHb
  dsimp only
  rw [hchecks]
  simp only [h.sinMezcla.1, h.sinMezcla.2, Bool.false_eq_true, if_false, Bool.not_false,
    Bool.and_self, if_true]
  rw [if_neg (by simp [Node.send, h.sinSecundaria.1])]
  exact ⟨_, rfl, rfl⟩

/-- The made-up heartbeat enters the parent, unless the parent is the root. -/
lemma Inicial.processHb {n n' : Node} (h : Inicial n) {env : Env} {hb : CtrlPkt}
    (hp : n.processHb env hb = some n') : ∃ t, n' = n.conTablas t n.rvTable n.out := by
  have hself : ∃ t, n = n.conTablas t n.rvTable n.out := ⟨n.neighTable, rfl⟩
  have hfar : ¬ (dist n.primAddr hb.primAddr ≠ 1 ∧ n.primAddrFlag) := by simp [h.primAddrFlag]
  rcases Node.detectorDeMezcla_cases env hb n with ⟨hini, -⟩ | ⟨r, hdet⟩
  · exact absurd hini.2.2 (by simp [h.flagInit])
  · unfold Node.processHb at hp
    rw [if_neg (by simp [h.sinMezcla.2]), if_neg (by simp [h.sinMezcla.1]), hdet] at hp
    dsimp only at hp
    split_ifs at hp
    · exact Option.some.inj hp ▸ hself
    · exact Option.some.inj hp ▸ hself
    · exact Option.some.inj hp ▸ hself
    · rw [Node.processHbVecino, if_neg hfar] at hp
      obtain ⟨m, hm, rfl⟩ := Option.map_eq_some_iff.mp hp
      have hroot : m.primAddr = root := by rw [Node.oirVecino_eq hm]; exact h.primAddr
      refine ⟨m.neighTable, ?_⟩
      rw [Node.detectorDeFragmentacion, if_pos hroot]
      exact Node.oirVecino_eq hm

/-- **What a confirmed joiner changes.** -/
lemma adoptar_eq {s : Aspirante} (h : Inicial s.node) {env : Env} {elegida : CtrlPkt} {n' : Node}
    (hn : s.adoptar env elegida = some n') :
    ∃ t hb, hb.pktTypeF = .hb ∧ n' = tomarPap elegida
      ((s.node.setIfAddr2 s.src elegida.adAddr.addr).conTablas t s.node.rvTable
        (s.node.out ++ [(multicast, hb)])) := by
  obtain ⟨m, hm, rfl⟩ := Option.map_eq_some_iff.mp hn
  have hif : Inicial (s.node.setIfAddr2 s.src elegida.adAddr.addr) :=
    ⟨h.primAddr, h.sinRecuperadas, h.sinSecundaria, h.sinEnlaces, h.sinMezcla, h.flagInit,
      h.primAddrFlag⟩
  obtain ⟨hb, htype, hhb⟩ := hif.sendHb env
  have hsend : Inicial ((s.node.setIfAddr2 s.src elegida.adAddr.addr).send multicast hb) :=
    ⟨h.primAddr, h.sinRecuperadas, h.sinSecundaria, h.sinEnlaces, h.sinMezcla, h.flagInit,
      h.primAddrFlag⟩
  rw [hhb] at hm
  obtain ⟨t, rfl⟩ := hsend.processHb hm
  exact ⟨t, hb, htype, rfl⟩

end Aspirante

namespace Estacion

/-- A control packet is read, in `get_prim_addr` or in the main loop. -/
def leer (env : Env) (msg : CtrlPkt) : Estacion → Option Estacion
  | .uniendose s => s.vaciar.leer env msg
  | .unida n => (Node.antopProcessPkt env (.ctrl msg) n.vaciar).map .unida

/-- What was sent in the last step. -/
def out : Estacion → List (In6Addr × CtrlPkt)
  | .uniendose s => s.node.out
  | .unida n => n.out

end Estacion

end Antop
