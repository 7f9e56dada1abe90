import Antop.GetPrimAddr

/-!
# Joins one at a time

A network that grows by one node at a time, with the handlers of both sides.

* `difundir` — some nodes of a network hear a packet, one after the other, and answer.
* `unirse` — one join: the `PAR` is heard by some nodes, the joiner collects their `PAP`s and chooses
  one, its `PAN` is heard by some nodes and the `PANC` of the chosen one is read.  It is `none` when
  the exchange is not completed in this way.
* `NodoUnido` — what holds of each node of such a network.
* `unirse_spec` — what a join does to the places of the network: the parent's mask grows by one and
  a node with the parent's slot is added.
-/

namespace Antop

open Node (antopProcessPkt)

/-- The nodes at the places `is` hear a packet, one after the other.  The result is the network
after that, with what they have answered. -/
def difundir (pkt : CtrlPkt) : List (ℕ × Env) → List Node → Option (List Node × List CtrlPkt)
  | [], red => some (red, [])
  | (k, env) :: is, red => do
      let n ← red[k]?
      let n' ← antopProcessPkt env (.ctrl pkt) n.vaciar
      let (red', resp) ← difundir pkt is (red.set k n')
      return (red', n'.out.map Prod.snd ++ resp)

/-- The first wait of a joiner that reads these packets and then nothing more.  It must end with a
`PAN`, and no packet may be left over to be taken for the `PANC`. -/
def recogerPaps (env : Env) : List CtrlPkt → Aspirante → Option Aspirante
  | [], s =>
      match s.fase with
      | .esperaPanc _ => some s
      | .esperaPap _ =>
          match s.vaciar.vencer env with
          | .uniendose s => some s
          | .unida _ => none
  | pap :: paps, s =>
      match s.fase with
      | .esperaPanc _ => none
      | .esperaPap _ =>
          match s.vaciar.leer env pap with
          | some (.uniendose s) => recogerPaps env paps s
          | _ => none

/-- Packets are read one after the other. -/
def leerTodos (env : Env) : List CtrlPkt → Estacion → Option Estacion
  | [], e => some e
  | p :: ps, e => (e.leer env p).bind (leerTodos env ps)

/-- What is given from outside in a join: the joiner, its environment at the three steps it takes,
and the places that hear its `PAR` and its `PAN`.  A place hears the `PAN` once. -/
structure Ingreso where
  hcDim : ℕ
  univAddr : String
  src : In6Addr
  envPar : Env
  envPap : Env
  envPanc : Env
  oyenPar : List (ℕ × Env)
  oyenPan : List (ℕ × Env)
  sinRepetir : (oyenPan.map Prod.fst).Nodup

/-- A complete join.  The new node stands at the end of the list. -/
def unirse (red : List Node) (i : Ingreso) : Option (List Node) := do
  let s := Aspirante.nuevo i.envPar i.hcDim i.univAddr i.src
  let (_, par) ← s.node.out.head?
  let (red, paps) ← difundir par i.oyenPar red
  let s ← recogerPaps i.envPap paps s
  let (_, pan) ← s.node.out.head?
  let (red, pancs) ← difundir pan i.oyenPan red
  match ← leerTodos i.envPanc pancs (.uniendose s) with
  | .unida n => some (red ++ [n])
  | .uniendose _ => none

/-- The network of a node that has heard nobody. -/
def redFundada (env : Env) (hcDim : ℕ) (univAddr : String) (src : In6Addr) : List Node :=
  [((Aspirante.nuevo env hcDim univAddr src).fundar env).arrancar env.clock]

/-! ## Places

All that a join depends on is where the nodes stand in the hypercube.
-/

/-- Where a node stands: its address and its masks, with the number of its network. -/
@[ext] structure Lugar where
  primAddr : In6Addr
  primMask : UChar
  primMaskInicial : UChar
  redNumero : UChar

namespace Lugar

/-- The place of a node that has given its next slot away. -/
def ceder (l : Lugar) : Lugar := { l with primMask := l.primMask + 1 }

/-- The place of the node that has got that slot. -/
def hijo (l : Lugar) : Lugar :=
  { primAddr := slotAddr l.primAddr l.primMask.toNat
    primMask := l.primMask + 1
    primMaskInicial := l.primMask + 1
    redNumero := l.redNumero }

end Lugar

/-- The place of a node. -/
def Node.lugar (n : Node) : Lugar :=
  { primAddr := n.primAddr, primMask := n.primMask, primMaskInicial := n.primMaskInicial
    redNumero := n.redNumero }

/-- **A network as joins build it**: the root, and then one slot after the other. -/
inductive Construida (hcDim : ℕ) : List Lugar → Prop
  | fundada (redNumero : UChar) :
      Construida hcDim
        [{ primAddr := root, primMask := 0, primMaskInicial := 0, redNumero := redNumero }]
  | ingreso {ls : List Lugar} {k : ℕ} {l : Lugar} (h : Construida hcDim ls) (hk : ls[k]? = some l)
      (hmask : l.primMask.toNat < hcDim) : Construida hcDim (ls.set k l.ceder ++ [l.hijo])

/-- What holds of a node of such a network besides its place. -/
structure Node.Unido (hcDim : ℕ) (n : Node) : Prop where
  dimension : n.hcDim = hcDim
  sinRecuperadas : n.rcvdAddr = [] ∧ n.rcvdOffered = none
  sinSecundaria : n.secAddrFlag = false ∧ n.secAddr = .zero
  sinEnlaces : n.nSLTable = [] ∧ n.flagNeighBySecond = false
  sinMezcla : n.flagMezcla = false ∧ n.flagFragmentacion = false

namespace Node

lemma Unido.vaciar {hcDim : ℕ} {n : Node} (h : n.Unido hcDim) : n.vaciar.Unido hcDim :=
  ⟨h.dimension, h.sinRecuperadas, h.sinSecundaria, h.sinEnlaces, h.sinMezcla⟩

lemma Unido.arrancar {hcDim : ℕ} {n : Node} (h : n.Unido hcDim) (clock : Timeval) :
    (n.arrancar clock).Unido hcDim :=
  ⟨h.dimension, h.sinRecuperadas, h.sinSecundaria, h.sinEnlaces, h.sinMezcla⟩

/-- The proposal of a node without recovered addresses is its next slot. -/
structure PapDe (n : Node) (pap : CtrlPkt) : Prop where
  tipo : pap.pktTypeF = .pap
  primAddr : pap.primAddr = n.primAddr
  redNumero : pap.adAddr.redNumero = n.redNumero
  ranura : pap.adAddr.mask ≠ 0 → n.primMask.toNat < n.hcDim
    ∧ pap.adAddr.addr = slotAddr n.primAddr n.primMask.toNat
    ∧ pap.adAddr.mask = n.primMask + 1 ∧ pap.primAddrLen = BitVec.ofNat 8 n.hcDim

lemma Unido.proposal {hcDim : ℕ} {n : Node} (h : n.Unido hcDim) (env : Env) :
    n.PapDe (n.proposal env).1 ∧ (n.proposal env).2 = n.rcvdOffered := by
  unfold Node.proposal
  rw [h.sinRecuperadas.1]
  dsimp only [List.getLast?_nil]
  split_ifs with hlleno
  · exact ⟨⟨rfl, rfl, rfl, fun hmask => absurd rfl hmask⟩, rfl⟩
  · exact ⟨⟨rfl, rfl, rfl, fun _ => ⟨not_le.mp hlleno, rfl, rfl, rfl⟩⟩, rfl⟩

/-- A `PAR` is answered with a proposal and changes nothing. -/
lemma Unido.recibirPar {hcDim : ℕ} {n n' : Node} (h : n.Unido hcDim) {env : Env} {par : CtrlPkt}
    (hpar : par.pktTypeF = .par) (hn : antopProcessPkt env (.ctrl par) n.vaciar = some n') :
    n'.Unido hcDim ∧ n'.lugar = n.lugar ∧ ∃ pap, n.PapDe pap ∧ n'.out.map Prod.snd = [pap] := by
  simp only [antopProcessPkt, hpar] at hn
  obtain rfl := Option.some.inj hn
  obtain ⟨hpap, hoffered⟩ := h.vaciar.proposal env
  refine ⟨⟨h.dimension, ⟨h.sinRecuperadas.1, ?_⟩, h.sinSecundaria, h.sinEnlaces, h.sinMezcla⟩, rfl,
    _, ⟨hpap.tipo, hpap.primAddr, hpap.redNumero, hpap.ranura⟩, rfl⟩
  exact hoffered.trans h.sinRecuperadas.2

/-- A `PAN` for the node is confirmed and counted, and any other is ignored. -/
lemma Unido.recibirPan {hcDim : ℕ} {n n' : Node} (h : n.Unido hcDim) {env : Env} {pan : CtrlPkt}
    (hpan : pan.pktTypeF = .pan) (hn : antopProcessPkt env (.ctrl pan) n.vaciar = some n') :
    n'.Unido hcDim ∧ n'.lugar = (if n.aceptaPan pan then n.lugar.ceder else n.lugar)
      ∧ ∀ p ∈ n'.out.map Prod.snd, n.aceptaPan pan ∧ p.pktTypeF = .panc
        ∧ p.adAddr.addr = pan.adAddr.addr := by
  simp only [antopProcessPkt, hpan] at hn
  by_cases hacepta : n.aceptaPan pan
  · have hred : ¬ pan.adAddr.redNumero ≠ n.vaciar.redNumero := not_not.mpr hacepta.1
    have hprim : n.vaciar.primAddr = pan.adAddr.addr := hacepta.2
    rw [if_neg hred, if_pos hprim] at hn
    obtain rfl := Option.some.inj hn
    have hoffered : ¬ n.vaciar.rcvdOffered = some pan.primAddr := by
      have : n.vaciar.rcvdOffered = none := h.sinRecuperadas.2
      simp [this]
    unfold sendPanc
    rw [if_neg hoffered, if_pos hacepta, storePrimMask_succ]
    refine ⟨⟨h.dimension, h.sinRecuperadas, h.sinSecundaria, h.sinEnlaces, h.sinMezcla⟩, rfl, ?_⟩
    intro p hp
    obtain rfl := List.mem_singleton.mp hp
    exact ⟨hacepta, rfl, rfl⟩
  · have hn' : n' = n.vaciar := by
      split_ifs at hn with hred hprim
      · exact (Option.some.inj hn).symm
      · exact absurd ⟨not_not.mp hred, hprim⟩ hacepta
      · exact (Option.some.inj hn).symm
    rw [hn', if_neg hacepta]
    exact ⟨h.vaciar, rfl, fun p hp => absurd hp (by simp [Node.vaciar])⟩

end Node

/-! ## A packet heard by several nodes -/

section Difundir

variable {hcDim : ℕ} {pkt : CtrlPkt} {is : List (ℕ × Env)} {red red' : List Node}
  {resp : List CtrlPkt}

/-- The first hearer. -/
lemma difundir_cons {k : ℕ} {env : Env}
    (h : difundir pkt ((k, env) :: is) red = some (red', resp)) :
    ∃ n n' resp', red[k]? = some n ∧ antopProcessPkt env (.ctrl pkt) n.vaciar = some n'
      ∧ difundir pkt is (red.set k n') = some (red', resp')
      ∧ resp = n'.out.map Prod.snd ++ resp' := by
  simp only [difundir, Option.bind_eq_bind, Option.bind_eq_some_iff] at h
  obtain ⟨n, hn, n', hn', ⟨_, resp'⟩, hrest, h⟩ := h
  obtain ⟨rfl, rfl⟩ := Prod.mk.inj (Option.some.inj h)
  exact ⟨n, n', resp', hn, hn', hrest, rfl⟩

/-- Changing one node of a network. -/
lemma forall_mem_set {P : Node → Prop} {k : ℕ} {n' : Node} (h : ∀ n ∈ red, P n) (hn' : P n') :
    ∀ n ∈ red.set k n', P n := by
  intro n hn
  rcases List.mem_or_eq_of_mem_set hn with hn | rfl
  · exact h n hn
  · exact hn'

/-- **A `PAR` in a network** changes no place, and each answer is the proposal of a node. -/
lemma difundir_par (hpkt : pkt.pktTypeF = .par) (hred : ∀ n ∈ red, n.Unido hcDim)
    (h : difundir pkt is red = some (red', resp)) :
    (∀ n ∈ red', n.Unido hcDim) ∧ red'.map Node.lugar = red.map Node.lugar
      ∧ ∀ pap ∈ resp, ∃ n ∈ red', n.PapDe pap := by
  induction is generalizing red resp with
  | nil =>
      obtain ⟨rfl, rfl⟩ := Prod.mk.inj (Option.some.inj h)
      exact ⟨hred, rfl, by simp⟩
  | cons i is ih =>
      obtain ⟨n, n', resp', hk, hn', hrest, rfl⟩ := difundir_cons h
      obtain ⟨hunido, hlugar, pap, hpap, hout⟩ :=
        (hred n (List.mem_of_getElem? hk)).recibirPar hpkt hn'
      obtain ⟨hred', hmap, hresp⟩ := ih (forall_mem_set hred hunido) hrest
      obtain ⟨hlt, hget⟩ := List.getElem?_eq_some_iff.mp hk
      have hset : (red.set i.1 n').map Node.lugar = red.map Node.lugar := by
        rw [List.map_set, hlugar, ← hget, ← List.getElem_map Node.lugar, List.set_getElem_self]
        simpa using hlt
      refine ⟨hred', hmap.trans hset, ?_⟩
      rw [hout]
      intro q hq
      rcases List.mem_append.mp hq with hq | hq
      · obtain rfl := List.mem_singleton.mp hq
        -- the node that answered is still there, at the same place
        have hmem : n'.lugar ∈ red'.map Node.lugar := by
          rw [hmap]
          exact List.mem_map_of_mem (List.mem_set hlt n')
        obtain ⟨m, hm, heq⟩ := List.mem_map.mp hmem
        rw [hlugar] at heq
        have hdims : m.hcDim = n.hcDim :=
          (hred' m hm).dimension.trans (hred n (List.mem_of_getElem? hk)).dimension.symm
        have hprim : m.primAddr = n.primAddr := congrArg Lugar.primAddr heq
        have hmask : m.primMask = n.primMask := congrArg Lugar.primMask heq
        have hrednum : m.redNumero = n.redNumero := congrArg Lugar.redNumero heq
        refine ⟨m, hm, hpap.tipo, hpap.primAddr.trans hprim.symm, hpap.redNumero.trans hrednum.symm, ?_⟩
        intro h0
        have hran := hpap.ranura h0
        rwa [← hprim, ← hmask, ← hdims] at hran
      · exact hresp q hq

/-- **A `PAN` in a network** that each place hears at most once: the nodes that take it as one for
themselves have given a slot away, and no other place changes. -/
lemma difundir_pan (hpkt : pkt.pktTypeF = .pan) (hred : ∀ n ∈ red, n.Unido hcDim)
    (hnodup : (is.map Prod.fst).Nodup) (h : difundir pkt is red = some (red', resp)) :
    (∀ n ∈ red', n.Unido hcDim)
      ∧ (∀ k : ℕ, (red'.map Node.lugar)[k]? = red[k]?.map fun n =>
          if k ∈ is.map Prod.fst ∧ n.aceptaPan pkt then n.lugar.ceder else n.lugar)
      ∧ ∀ p ∈ resp, (∃ k ∈ is.map Prod.fst, ∃ n, red[k]? = some n ∧ n.aceptaPan pkt)
        ∧ p.pktTypeF = .panc ∧ p.adAddr.addr = pkt.adAddr.addr := by
  induction is generalizing red resp with
  | nil =>
      obtain ⟨rfl, rfl⟩ := Prod.mk.inj (Option.some.inj h)
      exact ⟨hred, by simp, by simp⟩
  | cons i is ih =>
      obtain ⟨n, n', resp', hk, hn', hrest, rfl⟩ := difundir_cons h
      obtain ⟨hunido, hlugar, hout⟩ := (hred n (List.mem_of_getElem? hk)).recibirPan hpkt hn'
      obtain ⟨hlt, -⟩ := List.getElem?_eq_some_iff.mp hk
      rw [List.map_cons, List.nodup_cons] at hnodup
      obtain ⟨hred', hplaces, hresp⟩ := ih (forall_mem_set hred hunido) hnodup.2 hrest
      refine ⟨hred', fun k => ?_, fun p hp => ?_⟩
      · rw [hplaces k]
        by_cases hki : k = i.1
        · subst hki
          rw [List.getElem?_set_self hlt, hk]
          simp [hnodup.1, hlugar]
        · rw [List.getElem?_set_ne (Ne.symm hki)]
          simp only [List.map_cons, List.mem_cons, hki, false_or]
      · rcases List.mem_append.mp hp with hp | hp
        · obtain ⟨hacepta, hp⟩ := hout p hp
          exact ⟨⟨i.1, by simp, n, hk, hacepta⟩, hp⟩
        · obtain ⟨⟨k, hkis, m, hm, hacepta⟩, hp⟩ := hresp p hp
          have hki : i.1 ≠ k := fun heq => hnodup.1 (heq ▸ hkis)
          rw [List.getElem?_set_ne hki] at hm
          exact ⟨⟨k, by simp [hkis], m, hm, hacepta⟩, hp⟩

end Difundir

/-! ## The joiner -/

open Aspirante (Inicial)

/-- A joiner that has just sent its `PAN`. -/
structure Aspirante.Pide (elegida : CtrlPkt) (s : Aspirante) : Prop where
  fase : s.fase = .esperaPanc elegida
  inicial : Inicial s.node
  redNumero : s.node.redNumero = elegida.adAddr.redNumero
  out : s.node.out = [(multicast, Node.panPkt s.src elegida.primAddr elegida.adAddr.addr
    elegida.adAddr.redNumero)]

lemma Aspirante.pide_pedirMejor {s : Aspirante} (h : Inicial s.node) (hout : s.node.out = [])
    {vPap : List CtrlPkt} (hne : vPap ≠ []) : ∃ elegida ∈ vPap, (s.pedirMejor vPap).Pide elegida := by
  cases vPap with
  | nil => exact absurd rfl hne
  | cons primera resto =>
      refine ⟨elegir primera resto, elegir_mem primera resto, rfl, h.pedirMejor _, rfl, ?_⟩
      simp [Aspirante.pedirMejor, Aspirante.pedir, Node.sendPan, Node.send, hout]

/-- What a joiner has collected, or what it has chosen from that. -/
def Aspirante.Recoge (P : CtrlPkt → Prop) (s : Aspirante) : Prop :=
  (∃ vPap, s.fase = .esperaPap vPap ∧ Inicial s.node ∧ ∀ pap ∈ vPap, P pap ∧ esPap pap)
    ∨ ∃ elegida, s.Pide elegida ∧ P elegida ∧ esPap elegida

/-- A joiner without a new address is a node of a network of its own. -/
lemma Aspirante.Inicial.unido {n : Node} (h : Inicial n) : n.Unido n.hcDim :=
  ⟨rfl, h.sinRecuperadas, h.sinSecundaria, h.sinEnlaces, h.sinMezcla⟩

/-- **The handlers of a joiner.**  It answers a `PAR` with a proposal of its own, and takes no notice of the
other packets of the exchange, unless it takes a `PAN` as one for itself. -/
lemma Aspirante.Inicial.atender {n n' : Node} (h : Inicial n) {env : Env} {msg : CtrlPkt}
    (hunion : esDeUnion (.zero, msg)) (hno : ¬ (msg.pktTypeF = .pan ∧ n.aceptaPan msg))
    (hn : (Lectura.paquete env msg).atender n = some n') :
    ∃ out, n' = Aspirante.conEspera n n.redNumero n.flagConexion (n.out ++ out)
      ∧ (msg.pktTypeF ≠ .par → out = []) ∧ ∀ m ∈ out, n.PapDe m.2 := by
  have hcasos : msg.pktTypeF = .par ∨ msg.pktTypeF = .pap ∨ msg.pktTypeF = .pan
      ∨ msg.pktTypeF = .panc := of_decide_eq_true hunion
  have hnada (hn' : n' = n) : ∃ out,
      n' = Aspirante.conEspera n n.redNumero n.flagConexion (n.out ++ out)
        ∧ (msg.pktTypeF ≠ .par → out = []) ∧ ∀ m ∈ out, n.PapDe m.2 := by
    refine ⟨[], ?_, fun _ => rfl, by simp⟩
    rw [hn', List.append_nil]
    rfl
  rcases hcasos with hpar | hpap | hpan | hpanc
  · simp only [Lectura.atender, antopProcessPkt, hpar] at hn
    obtain ⟨hpap, hoffered⟩ := h.unido.proposal env
    refine ⟨[(msg.srcAddr, (n.proposal env).1)], ?_, fun hne => absurd hpar hne, ?_⟩
    · rw [← Option.some.inj hn, Node.sendPap]
      dsimp only
      rw [hoffered]
      rfl
    · intro m hm
      rw [List.mem_singleton.mp hm]
      exact hpap
  · simp only [Lectura.atender, antopProcessPkt, hpap] at hn
    exact hnada (Option.some.inj hn).symm
  · simp only [Lectura.atender, antopProcessPkt, hpan] at hn
    refine hnada ?_
    split_ifs at hn with hred hprim
    · exact (Option.some.inj hn).symm
    · exact absurd ⟨hpan, not_not.mp hred, hprim⟩ hno
    · exact (Option.some.inj hn).symm
  · simp only [Lectura.atender, antopProcessPkt, hpanc] at hn
    exact hnada (Option.some.inj hn).symm

/-- The same in the first wait. -/
lemma Aspirante.Inicial.recibir {n n' : Node} (h : Inicial n) {env : Env} {msg : CtrlPkt}
    (hunion : esDeUnion (.zero, msg)) (hno : ¬ (msg.pktTypeF = .pan ∧ n.aceptaPan msg))
    (hn : (Lectura.paquete env msg).recibir n = some n') :
    ∃ flag out, n' = Aspirante.conEspera n msg.adAddr.redNumero flag (n.out ++ out)
      ∧ (esPap msg → out = []) ∧ ∀ m ∈ out, n.PapDe m.2 := by
  obtain ⟨m, hm, rfl⟩ := Option.map_eq_some_iff.mp hn
  obtain ⟨out, rfl, hvacia, hpaps⟩ := h.atender hunion hno hm
  have hout : esPap msg → out = [] := fun hpap => hvacia (by simp [(of_decide_eq_true hpap).1])
  simp only [Lectura.msg]
  split_ifs
  · exact ⟨true, out, rfl, hout, hpaps⟩
  · exact ⟨n.flagConexion, out, rfl, hout, hpaps⟩

/-- What a joiner has collected after a packet of the exchange. -/
lemma Aspirante.recoge_guardarPap {P : CtrlPkt → Prop} {s : Aspirante} (h : Inicial s.node)
    {vPap : List CtrlPkt} (hv : ∀ pap ∈ vPap, P pap ∧ esPap pap) (hfase : s.fase = .esperaPap vPap)
    {msg : CtrlPkt} (hmsg : P msg) (hout : esPap msg → s.node.out = []) :
    (s.guardarPap msg vPap).Recoge P := by
  by_cases hpap : esPap msg
  · have hv' : ∀ pap ∈ vPap ++ [msg], P pap ∧ esPap pap := by
      intro pap hin
      rcases List.mem_append.mp hin with hin | hin
      · exact hv pap hin
      · exact List.mem_singleton.mp hin ▸ ⟨hmsg, hpap⟩
    have hini := h.guardarPap msg vPap
    unfold Aspirante.guardarPap at hini ⊢
    rw [if_pos hpap] at hini ⊢
    dsimp only at hini ⊢
    split_ifs at hini ⊢ with hlleno
    · obtain ⟨elegida, hin, hpide⟩ := Aspirante.pide_pedirMejor
        (s := { s with fase := .esperaPap (vPap ++ [msg]) }) h (hout hpap)
        (show vPap ++ [msg] ≠ [] by simp)
      exact Or.inr ⟨elegida, hpide, hv' elegida hin⟩
    · exact Or.inl ⟨vPap ++ [msg], rfl, hini, hv'⟩
  · unfold Aspirante.guardarPap
    rw [if_neg hpap]
    exact Or.inl ⟨vPap, hfase, h, hv⟩

/-- What a joiner keeps when it chooses, and what it sends. -/
lemma Aspirante.pedirMejor_frame (s : Aspirante) (vPap : List CtrlPkt) :
    (s.pedirMejor vPap).src = s.src ∧ (s.pedirMejor vPap).node.hcDim = s.node.hcDim
      ∧ ∀ m ∈ (s.pedirMejor vPap).node.out, m ∈ s.node.out ∨ m.2.pktTypeF = .pan := by
  cases vPap with
  | nil => exact ⟨rfl, rfl, fun m hm => Or.inl hm⟩
  | cons primera resto =>
      refine ⟨rfl, rfl, fun m hm => ?_⟩
      rcases List.mem_append.mp hm with hm | hm
      · exact Or.inl hm
      · exact Or.inr (List.mem_singleton.mp hm ▸ rfl)

/-- The same after a packet. -/
lemma Aspirante.guardarPap_frame (s : Aspirante) (msg : CtrlPkt) (vPap : List CtrlPkt) :
    (s.guardarPap msg vPap).src = s.src ∧ (s.guardarPap msg vPap).node.hcDim = s.node.hcDim
      ∧ ∀ m ∈ (s.guardarPap msg vPap).node.out, m ∈ s.node.out ∨ m.2.pktTypeF = .pan := by
  unfold Aspirante.guardarPap
  dsimp only
  split_ifs
  · exact pedirMejor_frame { s with fase := .esperaPap (vPap ++ [msg]) } _
  · exact ⟨rfl, rfl, fun m hm => Or.inl hm⟩
  · exact ⟨rfl, rfl, fun m hm => Or.inl hm⟩

/-- **A packet in the first wait.**  What the joiner sends are its own proposal and its `PAN`. -/
lemma Aspirante.leer_esperaPap {P : CtrlPkt → Prop} {s : Aspirante} (h : Inicial s.node)
    {vPap : List CtrlPkt} (hv : ∀ pap ∈ vPap, P pap ∧ esPap pap) (hfase : s.fase = .esperaPap vPap)
    {env : Env} {msg : CtrlPkt} (hmsg : P msg) (hunion : esDeUnion (.zero, msg))
    (hno : ¬ (msg.pktTypeF = .pan ∧ s.node.aceptaPan msg)) {e : Estacion}
    (he : s.vaciar.leer env msg = some e) :
    ∃ s', e = .uniendose s' ∧ s'.src = s.src ∧ s'.node.hcDim = s.node.hcDim ∧ s'.Recoge P
      ∧ ∀ m ∈ s'.node.out, s.node.PapDe m.2 ∨ m.2.pktTypeF = .pan := by
  have hfase' : s.vaciar.fase = .esperaPap vPap := hfase
  simp only [Aspirante.leer, hfase'] at he
  obtain ⟨n, hn, rfl⟩ := Option.map_eq_some_iff.mp he
  obtain ⟨flag, out, rfl, hout, hpaps⟩ := h.vaciar.recibir hunion hno hn
  obtain ⟨hsrc, hdim, henviado⟩ := guardarPap_frame (s.vaciar.conNodo (conEspera s.vaciar.node
    msg.adAddr.redNumero flag (s.vaciar.node.out ++ out))) msg vPap
  refine ⟨_, rfl, hsrc, hdim, recoge_guardarPap (s := s.vaciar.conNodo _) (h.vaciar.conEspera _ flag _) hv
    hfase hmsg hout, ?_⟩
  intro m hm
  rcases henviado m hm with hm | hm
  · obtain ⟨htipo, hprim, hred, hranura⟩ := hpaps m hm
    exact Or.inl ⟨htipo, hprim, hred, hranura⟩
  · exact Or.inr hm

/-- **The first wait** ends with a `PAN` for one of the `PAP`s read. -/
lemma recogerPaps_eq_some {P : CtrlPkt → Prop} {env : Env} {paps : List CtrlPkt} {s s' : Aspirante}
    (hs : s.Recoge P) (hpaps : ∀ pap ∈ paps, P pap ∧ pap.pktTypeF = .pap)
    (h : recogerPaps env paps s = some s') :
    ∃ elegida, s'.Pide elegida ∧ P elegida ∧ esPap elegida := by
  induction paps generalizing s with
  | nil =>
      rcases hs with ⟨vPap, hfase, hini, hv⟩ | ⟨elegida, hpide, helegida⟩
      · have hfase' : s.vaciar.fase = .esperaPap vPap := hfase
        simp only [recogerPaps, hfase, Aspirante.vencer, hfase'] at h
        cases vPap with
        | nil => simp at h
        | cons primera resto =>
            obtain rfl := Option.some.inj h
            obtain ⟨elegida, hin, hpide⟩ := Aspirante.pide_pedirMejor (s := s.vaciar) hini.vaciar rfl
              (List.cons_ne_nil primera resto)
            exact ⟨elegida, hpide, hv elegida hin⟩
      · rw [recogerPaps, hpide.fase] at h
        exact ⟨elegida, Option.some.inj h ▸ hpide, helegida⟩
  | cons pap paps ih =>
      rw [List.forall_mem_cons] at hpaps
      rcases hs with ⟨vPap, hfase, hini, hv⟩ | ⟨elegida, hpide, -⟩
      · obtain ⟨⟨hP, htipo⟩, hpaps⟩ := hpaps
        rw [recogerPaps, hfase] at h
        dsimp only at h
        cases he : s.vaciar.leer env pap with
        | none => simp [he] at h
        | some e =>
            obtain ⟨u, rfl, -, -, hrec, -⟩ := Aspirante.leer_esperaPap hini hv hfase hP
              (by simp [esDeUnion, htipo]) (by simp [htipo]) he
            rw [he] at h
            exact ih hrec hpaps h
      · rw [recogerPaps, hpide.fase] at h
        exact absurd h (by simp)

/-- The node a joiner becomes with the address of a `PAP`. -/
structure Node.TomaPap (elegida : CtrlPkt) (redNumero : UChar) (n : Node) : Prop where
  unido : n.Unido elegida.primAddrLen.toNat
  lugar : n.lugar = ⟨elegida.adAddr.addr, elegida.adAddr.mask, elegida.adAddr.mask, redNumero⟩

/-- A joiner that reads the `PANC` of the chosen node. -/
lemma Aspirante.tomaPap_adoptar {s : Aspirante} (h : Inicial s.node) {env : Env}
    {elegida : CtrlPkt} {n : Node} (hn : s.adoptar env elegida = some n) (clock : Timeval) :
    (n.arrancar clock).TomaPap elegida s.node.redNumero := by
  obtain ⟨t, hb, -, rfl⟩ := Aspirante.adoptar_eq h hn
  exact ⟨⟨rfl, h.sinRecuperadas, h.sinSecundaria, h.sinEnlaces, h.sinMezcla⟩, rfl⟩

/-- A node of the network does nothing on a `PANC`. -/
lemma leerTodos_unida {env : Env} {pancs : List CtrlPkt} {n m : Node} {elegida : CtrlPkt}
    {r : UChar} (hn : n.TomaPap elegida r) (hpancs : ∀ p ∈ pancs, p.pktTypeF = .panc)
    (h : leerTodos env pancs (.unida n) = some (.unida m)) : m.TomaPap elegida r := by
  induction pancs generalizing n with
  | nil =>
      obtain rfl : n = m := by simpa [leerTodos] using h
      exact hn
  | cons p pancs ih =>
      rw [List.forall_mem_cons] at hpancs
      have hleer : Estacion.leer env p (.unida n) = some (.unida n.vaciar) := by
        simp [Estacion.leer, antopProcessPkt, hpancs.1]
      rw [leerTodos, hleer, Option.bind_some] at h
      exact ih ⟨hn.unido.vaciar, hn.lugar⟩ hpancs.2 h

/-- **The second wait**: the joiner gets the address it has chosen, when it reads an answer. -/
lemma leerTodos_uniendose {env : Env} {pancs : List CtrlPkt} {s : Aspirante} {elegida : CtrlPkt}
    {m : Node} (hs : s.Pide elegida)
    (hpancs : ∀ p ∈ pancs, p.pktTypeF = .panc ∧ p.adAddr.addr = elegida.primAddr)
    (h : leerTodos env pancs (.uniendose s) = some (.unida m)) :
    pancs ≠ [] ∧ m.TomaPap elegida elegida.adAddr.redNumero := by
  cases pancs with
  | nil => simp [leerTodos] at h
  | cons p pancs =>
      rw [List.forall_mem_cons] at hpancs
      have hpanc : Aspirante.esPanc p elegida := by simp [Aspirante.esPanc, hpancs.1]
      have hfase : s.vaciar.fase = .esperaPanc elegida := hs.fase
      obtain ⟨e, he, hrest⟩ := Option.bind_eq_some_iff.mp h
      have hpropio : (Lectura.paquete env p).atender s.vaciar.node = some s.vaciar.node := by
        simp only [Lectura.atender, antopProcessPkt, hpancs.1.1]
      simp only [Estacion.leer, Aspirante.leer, hfase, hpropio, hpanc, if_true, Option.bind_eq_bind,
        Option.bind_some] at he
      obtain ⟨n, hn, rfl⟩ := Option.map_eq_some_iff.mp he
      have htoma := Aspirante.tomaPap_adoptar hs.inicial.vaciar hn env.clock
      have hred : s.vaciar.node.redNumero = elegida.adAddr.redNumero := hs.redNumero
      rw [hred] at htoma
      exact ⟨by simp, leerTodos_unida htoma (fun p hp => (hpancs.2 p hp).1) hrest⟩

/-! ## A whole join -/

lemma recoge_nuevo (P : CtrlPkt → Prop) (env : Env) (hcDim : ℕ) (univAddr : String)
    (src : In6Addr) : (Aspirante.nuevo env hcDim univAddr src).Recoge P :=
  Or.inl ⟨[], rfl, Aspirante.inicial_nuevo env hcDim univAddr src, by simp⟩

/-- Where the addresses are distinct, a node is found by its own. -/
lemma lugar_unico {red : List Node} (hdist : ((red.map Node.lugar).map Lugar.primAddr).Nodup)
    {j k : ℕ} {n m : Node} (hj : red[j]? = some n) (hk : red[k]? = some m)
    (h : n.primAddr = m.primAddr) : j = k := by
  obtain ⟨hjlt, rfl⟩ := List.getElem?_eq_some_iff.mp hj
  obtain ⟨hklt, rfl⟩ := List.getElem?_eq_some_iff.mp hk
  rw [List.map_map] at hdist
  have hinj := List.nodup_iff_injective_getElem.mp hdist
  refine congrArg Fin.val (@hinj ⟨j, by simpa using hjlt⟩ ⟨k, by simpa using hklt⟩ ?_)
  dsimp only
  rw [List.getElem_map, List.getElem_map]
  exact h

/-- **What a join does.**  The node whose `PAP` was chosen gives its next slot away, and the joiner
gets it. -/
theorem unirse_spec {hcDim : ℕ} (hdim : hcDim ≤ 64) {red red' : List Node} {i : Ingreso}
    (hred : ∀ n ∈ red, n.Unido hcDim) (hdist : ((red.map Node.lugar).map Lugar.primAddr).Nodup)
    (h : unirse red i = some red') :
    (∀ n ∈ red', n.Unido hcDim)
      ∧ ∃ (k : ℕ) (l : Lugar), (red.map Node.lugar)[k]? = some l ∧ l.primMask.toNat < hcDim
        ∧ red'.map Node.lugar = (red.map Node.lugar).set k l.ceder ++ [l.hijo] := by
  simp only [unirse, Option.bind_eq_bind, Option.bind_eq_some_iff] at h
  obtain ⟨⟨_, par⟩, hpar, ⟨red₁, paps⟩, hdif₁, s, hpaps, ⟨_, pan⟩, hpan, ⟨red₂, pancs⟩, hdif₂, e, he,
    hfin⟩ := h
  have hparType : par.pktTypeF = .par := by
    obtain rfl : _ = par := congrArg Prod.snd (Option.some.inj hpar)
    rfl
  obtain ⟨hred₁, hmap₁, hresp₁⟩ := difundir_par hparType hred hdif₁
  obtain ⟨elegida, hpide, ⟨n, hn, hpapde⟩, hesPap⟩ :=
    recogerPaps_eq_some (recoge_nuevo _ _ _ _ _)
      (fun pap hpap => ⟨hresp₁ pap hpap, (hresp₁ pap hpap).elim fun _ h => h.2.tipo⟩) hpaps
  rw [hpide.out] at hpan
  obtain rfl : _ = pan := congrArg Prod.snd (Option.some.inj hpan)
  obtain ⟨hred₂, hplaces, hresp₂⟩ := difundir_pan rfl hred₁ i.sinRepetir hdif₂
  cases e with
  | uniendose s => exact absurd hfin (by simp)
  | unida m =>
      obtain rfl := Option.some.inj hfin
      obtain ⟨hne, hm⟩ := leerTodos_uniendose hpide (fun p hp => (hresp₂ p hp).2) he
      obtain ⟨panc, hpanc⟩ := List.exists_mem_of_ne_nil pancs hne
      obtain ⟨⟨k, hkis, n', hk, hacepta⟩, -⟩ := hresp₂ panc hpanc
      -- the node that answers is the one that was chosen
      have hdist₁ : ((red₁.map Node.lugar).map Lugar.primAddr).Nodup := hmap₁ ▸ hdist
      obtain ⟨j, hj, hget⟩ := List.getElem_of_mem hn
      have hj : red₁[j]? = some n := List.getElem?_eq_some_iff.mpr ⟨hj, hget⟩
      have hjk : j = k :=
        lugar_unico hdist₁ hj hk (hpapde.primAddr.symm.trans hacepta.2.symm)
      subst hjk
      obtain rfl : n = n' := Option.some.inj (hj.symm.trans hk)
      have hmask : elegida.adAddr.mask ≠ 0 := (by simpa [esPap] using hesPap : _ ∧ _).2
      obtain ⟨hlt, haddr, hsucc, hlen⟩ := hpapde.ranura hmask
      have hdimn := (hred₁ n hn).dimension
      have hlen' : elegida.primAddrLen.toNat = hcDim := by
        rw [hlen, BitVec.toNat_ofNat, hdimn]
        omega
      have hlugar : m.lugar = n.lugar.hijo := by
        rw [hm.lugar, haddr, hsucc, hpapde.redNumero]
        rfl
      have hset : red₂.map Node.lugar = (red.map Node.lugar).set j n.lugar.ceder := by
        refine List.ext_getElem? fun x => ?_
        rw [hplaces x, ← hmap₁]
        by_cases hx : x = j
        · subst hx
          have hxlt : x < (red₁.map Node.lugar).length := by
            simpa using (List.getElem?_eq_some_iff.mp hj).1
          rw [hj, List.getElem?_set_self hxlt, Option.map_some, if_pos ⟨hkis, hacepta⟩]
        · rw [List.getElem?_set_ne (Ne.symm hx), List.getElem?_map]
          cases hget : red₁[x]? with
          | none => rfl
          | some y =>
              have hno : ¬ y.aceptaPan _ := fun hy =>
                hx (lugar_unico hdist₁ hget hj (hy.2.trans hacepta.2.symm))
              rw [Option.map_some, Option.map_some, if_neg fun hc => hno hc.2]
      refine ⟨?_, j, n.lugar, ?_, hdimn ▸ hlt, ?_⟩
      · intro x hx
        rcases List.mem_append.mp hx with hx | hx
        · exact hred₂ x hx
        · exact List.mem_singleton.mp hx ▸ hlen' ▸ hm.unido
      · rw [← hmap₁, List.getElem?_map, hj, Option.map_some]
      · rw [List.map_append, hset, List.map_singleton, hlugar]

end Antop
