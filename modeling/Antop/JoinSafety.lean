import Antop.AddressPartition

/-!
# Joins at the same time

Any number of nodes join a network at once.  `Red` is the network with the nodes that are joining it
and every message of the exchange that has been sent; a message stays where it is when it is read,
so that it can be lost, delayed, overtaken and duplicated.  `Red.step` lets one station read one
message, or lets the wait of a joiner end.

`send_panc` counts the next slot of the parent as given for every `PAN`, whichever address the `PAN`
names, and a `PANC` does not say which address it confirms.  So two joiners that were offered the
same slot both get it (`same_slot_twice`).  A joiner starts with the address of the root and runs the
same handlers, so that it answers a `PAR`, and confirms a `PAN` for the root, as the root does.

* `Red.Segura` — no address is confirmed to two joiners, and no two nodes have the same address.
* `Red.guarda` — what a step must meet: an accepted `PAN` is for the slot that is on offer, or
  repeats one that was confirmed to the same joiner, no joiner accepts one, and a `PANC` is taken for an
  address that was confirmed.
* `Red.Consistente` — the invariant: the blocks of the nodes and those that were confirmed are apart.
* `union_segura` — runs whose steps meet the guard are safe.
-/

namespace Antop

open PrefixBlock Transition
open Node (antopProcessPkt)
open Aspirante (Inicial)

/-- A `PAN` that was accepted: which parent has confirmed which address to which joiner. -/
structure Confirmada where
  padre : In6Addr
  direccion : In6Addr
  aspirante : In6Addr
deriving DecidableEq

/-- A station of the network, known by the address its interface had at the start. -/
structure Puesto where
  src : In6Addr
  estacion : Estacion

/-- The network, the nodes that are joining it, and the messages they have sent.  `confirmadas` is no
part of the program: it records the `PAN`s that were accepted. -/
structure Red where
  puestos : List Puesto
  mensajes : List (In6Addr × CtrlPkt)
  confirmadas : List Confirmada

/-- A station reads a message, or its wait ends. -/
inductive EventoRed
  | entrega (i k : ℕ) (env : Env)
  | vence (i : ℕ) (env : Env)

/-- The variables of a station, before or after it has joined. -/
def Estacion.node : Estacion → Node
  | .uniendose s => s.node
  | .unida n => n

/-- The record of a `PAN` that the station accepts. -/
def Estacion.confirma (msg : CtrlPkt) (e : Estacion) : List Confirmada :=
  if msg.pktTypeF = .pan ∧ e.node.aceptaPan msg then
    [{ padre := e.node.primAddr, direccion := msg.primAddr, aspirante := msg.srcAddr }]
  else []

/-- The end of a wait.  A joiner that has heard nobody founds a network of its own, which is no step
of this one. -/
def Estacion.vencer (env : Env) : Estacion → Option Estacion
  | .uniendose s =>
      match s.vaciar.vencer env with
      | .uniendose s => some (.uniendose s)
      | .unida _ => none
  | .unida _ => none

namespace Red

/-- The station at the place `i` has taken a step. -/
def conEstacion (i : ℕ) (src : In6Addr) (e : Estacion) (confirmadas : List Confirmada) (w : Red) :
    Red :=
  { puestos := w.puestos.set i { src := src, estacion := e }
    mensajes := w.mensajes ++ e.out.filter esDeUnion
    confirmadas := w.confirmadas ++ confirmadas }

/-- One step of the network. -/
def step (w : Red) : EventoRed → Option Red
  | .entrega i k env => do
      let p ← w.puestos[i]?
      let (dst, msg) ← w.mensajes[k]?
      if dst = multicast ∨ dst ∈ p.estacion.node.iface then
        let e ← p.estacion.leer env msg
        return w.conEstacion i p.src e (p.estacion.confirma msg)
      else none
  | .vence i env => do
      let p ← w.puestos[i]?
      let e ← p.estacion.vencer env
      return w.conEstacion i p.src e []

end Red

/-- The founder of a network and the nodes that are going to join it, each with its interface
address, its own `hc_dim` and its name. -/
structure Comienzo where
  fundador : In6Addr × ℕ × String
  aspirantes : List (In6Addr × ℕ × String)
  env : Env
  distintos : (fundador.1 :: aspirantes.map Prod.fst).Nodup
  dimension : ∀ a ∈ fundador :: aspirantes, a.2.1 ≤ 64

/-- The founder has its network, and every joiner has sent its first `PAR`. -/
def Comienzo.red (c : Comienzo) : Red :=
  let unidos := c.aspirantes.map fun a => Aspirante.nuevo c.env a.2.1 a.2.2 a.1
  { puestos :=
      { src := c.fundador.1
        estacion := .unida (((Aspirante.nuevo c.env c.fundador.2.1 c.fundador.2.2
          c.fundador.1).fundar c.env).arrancar c.env.clock) }
      :: unidos.map fun s => { src := s.src, estacion := .uniendose s }
    mensajes := unidos.flatMap fun s => s.node.out
    confirmadas := [] }

/-- Two joiners. -/
def Comienzo.dos : Comienzo where
  fundador := (.ofWords 0x80fe 0 0 0 0 0 0 1, 64, "r")
  aspirantes := [(.ofWords 0x80fe 0 0 0 0 0 0 2, 64, "x"), (.ofWords 0x80fe 0 0 0 0 0 0 3, 64, "y")]
  env := .zero
  distintos := by decide
  dimension := by decide

/-- The messages of `dos` in an order in which both get the first slot of the root: both `PAR`s are
answered before the first `PAN` is read. -/
def dosALaVez : List EventoRed :=
  [.entrega 0 0 .zero, .entrega 0 1 .zero, .entrega 1 2 .zero, .entrega 2 3 .zero,
    .vence 1 .zero, .vence 2 .zero, .entrega 0 4 .zero, .entrega 0 5 .zero,
    .entrega 1 6 .zero, .entrega 2 7 .zero]

/-! ## Safety and the guard -/

/-- The node at a station that has joined. -/
def Estacion.unido : Estacion → Option Node
  | .uniendose _ => none
  | .unida n => some n

/-- **Join safety**: no parent has confirmed one address to two joiners, and no two nodes have the
same primary address. -/
structure Red.Segura (w : Red) : Prop where
  confirmadas : ∀ c ∈ w.confirmadas, ∀ c' ∈ w.confirmadas,
    c.padre = c'.padre → c.direccion = c'.direccion → c.aspirante = c'.aspirante
  direcciones : ∀ (i j : ℕ) (p q : Puesto) (n m : Node),
    w.puestos[i]? = some p → w.puestos[j]? = some q → p.estacion.unido = some n →
      q.estacion.unido = some m → n.primAddr = m.primAddr → i = j

/-- The slot a node has on offer is the address a `PAN` names. -/
def Node.enOferta (msg : CtrlPkt) (n : Node) : Prop :=
  n.primMask.toNat < n.hcDim ∧ msg.primAddr = slotAddr n.primAddr n.primMask.toNat

/-- The guard of a message.  A `PAN` that is accepted is for the slot on offer, or it repeats one that
the same joiner has got, and a joiner accepts none; a `PANC` that is taken answers a choice that was
confirmed. -/
def Estacion.guarda (confirmadas : List Confirmada) (src : In6Addr) (msg : CtrlPkt) :
    Estacion → Prop
  | .unida n =>
      msg.pktTypeF = .pan → n.aceptaPan msg →
        n.enOferta msg ∨ ⟨n.primAddr, msg.primAddr, msg.srcAddr⟩ ∈ confirmadas
          ∧ n.primMask.toNat < 255
  | .uniendose s =>
      ¬ (msg.pktTypeF = .pan ∧ s.node.aceptaPan msg)
        ∧ match s.fase with
          | .esperaPap _ => True
          | .esperaPanc elegida => Aspirante.esPanc msg elegida →
              ⟨elegida.primAddr, elegida.adAddr.addr, src⟩ ∈ confirmadas

/-- The guard of a step. -/
def Red.guarda (w : Red) : EventoRed → Prop
  | .entrega i k _ => ∀ p ∈ w.puestos[i]?, ∀ m ∈ w.mensajes[k]?,
      p.estacion.guarda w.confirmadas p.src m.2
  | .vence _ _ => True

instance (msg : CtrlPkt) (n : Node) : Decidable (n.enOferta msg) := by
  unfold Node.enOferta
  infer_instance

instance (confirmadas : List Confirmada) (src : In6Addr) (msg : CtrlPkt) :
    ∀ e : Estacion, Decidable (e.guarda confirmadas src msg)
  | .unida n => inferInstanceAs (Decidable (msg.pktTypeF = .pan → n.aceptaPan msg →
      n.enOferta msg ∨ ⟨n.primAddr, msg.primAddr, msg.srcAddr⟩ ∈ confirmadas
        ∧ n.primMask.toNat < 255))
  | .uniendose ⟨_, n, .esperaPap _⟩ =>
      inferInstanceAs (Decidable (¬ (msg.pktTypeF = .pan ∧ n.aceptaPan msg) ∧ True))
  | .uniendose ⟨_, n, .esperaPanc elegida⟩ =>
      inferInstanceAs (Decidable (¬ (msg.pktTypeF = .pan ∧ n.aceptaPan msg) ∧
        (Aspirante.esPanc msg elegida → ⟨elegida.primAddr, elegida.adAddr.addr, src⟩ ∈ confirmadas)))

instance (w : Red) : ∀ e : EventoRed, Decidable (w.guarda e)
  | .entrega i k _ => inferInstanceAs (Decidable (∀ p ∈ w.puestos[i]?, ∀ m ∈ w.mensajes[k]?,
      p.estacion.guarda w.confirmadas p.src m.2))
  | .vence _ _ => inferInstanceAs (Decidable True)

/-! ## What a station does with a message -/

/-- A `PAP` offers a slot of the node it comes from. -/
def PapSana (pap : CtrlPkt) : Prop :=
  ∃ m < 64, pap.adAddr.addr = slotAddr pap.primAddr m ∧ pap.adAddr.mask.toNat = m + 1
    ∧ pap.primAddrLen.toNat ≤ 64

/-- The messages with an offer among those sent. -/
def MensajesSanos (ms : List (In6Addr × CtrlPkt)) : Prop := ∀ m ∈ ms, esPap m.2 → PapSana m.2

lemma Node.PapDe.sana {d : ℕ} (hd : d ≤ 64) {n : Node} (hn : n.Unido d) {pap : CtrlPkt}
    (h : n.PapDe pap) (hpap : esPap pap) : PapSana pap := by
  have hmask : pap.adAddr.mask ≠ 0 := (of_decide_eq_true hpap).2
  obtain ⟨hlt, haddr, hsucc, hlen⟩ := h.ranura hmask
  rw [hn.dimension] at hlt hlen
  refine ⟨n.primMask.toNat, lt_of_lt_of_le hlt hd, by rw [h.primAddr]; exact haddr, ?_, ?_⟩
  · rw [hsucc, toNat_succ (by omega)]
  · rw [hlen, BitVec.toNat_ofNat]
    omega

/-- What a joiner has collected: packets that, if they are offers at all, are slots. -/
abbrev OfertaSana (pap : CtrlPkt) : Prop := esPap pap → PapSana pap

/-- A station in order: a node grown by joins, or a joiner that has collected offers. -/
def Estacion.Sana (src : In6Addr) : Estacion → Prop
  | .unida n => ∃ d ≤ 64, n.Unido d
  | .uniendose s => s.src = src ∧ s.node.hcDim ≤ 64 ∧ s.Recoge OfertaSana

/-- **A node and a message of the exchange**: an accepted `PAN` moves the mask. -/
lemma unida_leer {d : ℕ} (hd : d ≤ 64) {n : Node} (hn : n.Unido d) {env : Env}
    {msg : CtrlPkt} (htype : esDeUnion (.zero, msg)) {e : Estacion}
    (h : Estacion.leer env msg (.unida n) = some e) :
    ∃ n', e = .unida n' ∧ n'.Unido d
      ∧ n'.lugar = (if msg.pktTypeF = .pan ∧ n.aceptaPan msg then n.lugar.ceder else n.lugar)
      ∧ MensajesSanos n'.out := by
  obtain ⟨n', hn', rfl⟩ := Option.map_eq_some_iff.mp h
  refine ⟨n', rfl, ?_⟩
  have hcases : msg.pktTypeF = .par ∨ msg.pktTypeF = .pap ∨ msg.pktTypeF = .pan
      ∨ msg.pktTypeF = .panc := of_decide_eq_true htype
  have hnada : ∀ m ∈ n.vaciar.out, esPap m.2 → PapSana m.2 := by simp [Node.vaciar]
  rcases hcases with hpar | hpap | hpan | hpanc
  · obtain ⟨hunido, hlugar, pap, hpap, hout⟩ := hn.recibirPar hpar hn'
    refine ⟨hunido, by rw [hlugar, if_neg (by simp [hpar])], fun m hm hes => ?_⟩
    have hm : m.2 ∈ n'.out.map Prod.snd := List.mem_map_of_mem hm
    rw [hout] at hm
    exact List.mem_singleton.mp hm ▸ hpap.sana hd hn (List.mem_singleton.mp hm ▸ hes)
  · simp only [antopProcessPkt, hpap] at hn'
    obtain rfl := Option.some.inj hn'
    exact ⟨hn.vaciar, by rw [if_neg (by simp [hpap])]; rfl, hnada⟩
  · obtain ⟨hunido, hlugar, hout⟩ := hn.recibirPan hpan hn'
    refine ⟨hunido, by simpa only [hpan, true_and] using hlugar, fun m hm hes => ?_⟩
    have hpanc := (hout m.2 (List.mem_map_of_mem hm)).2.1
    exact absurd (of_decide_eq_true hes).1 (by simp [hpanc])
  · simp only [antopProcessPkt, hpanc] at hn'
    obtain rfl := Option.some.inj hn'
    exact ⟨hn.vaciar, by rw [if_neg (by simp [hpanc])]; rfl, hnada⟩

/-- What a joiner sends: its own proposals, and packets that are no `PAP`. -/
lemma sanos_aspirante {s : Aspirante} (hdim : s.node.hcDim ≤ 64) (h : Inicial s.node)
    {ms : List (In6Addr × CtrlPkt)} (hms : ∀ m ∈ ms, s.node.PapDe m.2 ∨ m.2.pktTypeF ≠ .pap) :
    MensajesSanos ms := by
  intro m hm hes
  rcases hms m hm with hpap | hno
  · exact hpap.sana hdim h.unido hes
  · exact absurd (of_decide_eq_true hes).1 hno

/-- A joiner that goes back to `start`. -/
lemma recoge_start {P : CtrlPkt → Prop} {s : Aspirante} (h : Inicial s.node) (env : Env) :
    (s.start env).Recoge P := Or.inl ⟨[], rfl, h.start env, by simp⟩

/-- **A joiner and a message of the exchange** that is no `PAN` it accepts: it goes on, or it takes the
address it has chosen. -/
lemma uniendose_leer {s : Aspirante} (hs : s.Recoge OfertaSana) (hdim : s.node.hcDim ≤ 64) {env : Env}
    {msg : CtrlPkt} (hmsg : OfertaSana msg) (hunion : esDeUnion (.zero, msg))
    (hno : ¬ (msg.pktTypeF = .pan ∧ s.node.aceptaPan msg)) {e : Estacion}
    (h : Estacion.leer env msg (.uniendose s) = some e) :
    (∃ s', e = .uniendose s' ∧ s'.src = s.src ∧ s'.node.hcDim = s.node.hcDim ∧ s'.Recoge OfertaSana
        ∧ MensajesSanos s'.node.out)
      ∨ ∃ elegida n r, s.fase = .esperaPanc elegida ∧ Aspirante.esPanc msg elegida
        ∧ PapSana elegida ∧ e = .unida n ∧ n.TomaPap elegida r ∧ MensajesSanos n.out := by
  rcases hs with ⟨vPap, hfase, hini, hv⟩ | ⟨elegida, hpide, hsana, hes⟩
  · obtain ⟨s', rfl, hsrc, hdim', hrec, hout⟩ := Aspirante.leer_esperaPap hini hv hfase hmsg hunion hno h
    refine Or.inl ⟨s', rfl, hsrc, hdim', hrec, sanos_aspirante hdim hini fun m hm => ?_⟩
    exact (hout m hm).imp_right fun hpan => by simp [hpan]
  · have hfase : s.vaciar.fase = .esperaPanc elegida := hpide.fase
    simp only [Estacion.leer, Aspirante.leer, hfase, Option.bind_eq_bind, Option.bind_eq_some_iff] at h
    obtain ⟨n, hn, h⟩ := h
    obtain ⟨out, rfl, -, hpaps⟩ := hpide.inicial.vaciar.atender hunion hno hn
    have hpaps : ∀ m ∈ [] ++ out, s.node.PapDe m.2 := fun m hm =>
      ⟨(hpaps m hm).tipo, (hpaps m hm).primAddr, (hpaps m hm).redNumero, (hpaps m hm).ranura⟩
    have hini := hpide.inicial.vaciar.conEspera s.node.redNumero s.node.flagConexion ([] ++ out)
    by_cases hpanc : Aspirante.esPanc msg elegida
    · rw [if_pos hpanc] at h
      obtain ⟨n, hn, rfl⟩ := Option.map_eq_some_iff.mp h
      refine Or.inr ⟨elegida, _, _, hpide.fase, hpanc, hsana hes, rfl,
        Aspirante.tomaPap_adoptar hini hn env.clock, ?_⟩
      obtain ⟨t, hb, htype, rfl⟩ := Aspirante.adoptar_eq hini hn
      refine sanos_aspirante hdim hpide.inicial fun m hm => ?_
      rcases List.mem_append.mp hm with hm | hm
      · exact Or.inl (hpaps m hm)
      · exact Or.inr (by simp [List.mem_singleton.mp hm, htype])
    · rw [if_neg hpanc] at h
      obtain rfl := Option.some.inj h
      refine Or.inl ⟨_, rfl, rfl, rfl, recoge_start hini env, sanos_aspirante hdim hpide.inicial fun m hm => ?_⟩
      rcases List.mem_append.mp hm with hm | hm
      · exact Or.inl (hpaps m hm)
      · exact Or.inr (by simp [List.mem_singleton.mp hm])

/-- **A joiner whose wait ends.** -/
lemma uniendose_vencer {s : Aspirante} (hs : s.Recoge OfertaSana) (hdim : s.node.hcDim ≤ 64) {env : Env}
    {e : Estacion} (h : Estacion.vencer env (.uniendose s) = some e) :
    ∃ s', e = .uniendose s' ∧ s'.src = s.src ∧ s'.node.hcDim = s.node.hcDim ∧ s'.Recoge OfertaSana
      ∧ MensajesSanos s'.node.out := by
  rcases hs with ⟨vPap, hfase, hini, hv⟩ | ⟨elegida, hpide, -, -⟩
  · have hfase' : s.vaciar.fase = .esperaPap vPap := hfase
    simp only [Estacion.vencer, Aspirante.vencer, hfase'] at h
    cases vPap with
    | nil => simp at h
    | cons primera resto =>
        obtain rfl := Option.some.inj h
        obtain ⟨elegida, hin, hpide⟩ := Aspirante.pide_pedirMejor (s := s.vaciar) hini.vaciar rfl
          (List.cons_ne_nil primera resto)
        obtain ⟨hsrc, hdim', hout⟩ := s.vaciar.pedirMejor_frame (primera :: resto)
        refine ⟨_, rfl, hsrc, hdim', Or.inr ⟨elegida, hpide, hv elegida hin⟩,
          sanos_aspirante hdim hini fun m hm => ?_⟩
        rcases hout m hm with hm | hpan
        · exact absurd hm List.not_mem_nil
        · exact Or.inr (by simp [hpan])
  · have hfase' : s.vaciar.fase = .esperaPanc elegida := hpide.fase
    simp only [Estacion.vencer, Aspirante.vencer, hfase'] at h
    obtain rfl := Option.some.inj h
    refine ⟨_, rfl, rfl, rfl, recoge_start hpide.inicial.vaciar env,
      sanos_aspirante hdim hpide.inicial fun m hm => Or.inr ?_⟩
    have hm : m ∈ [] ++ [_] := hm
    simp [List.mem_singleton.mp hm]

/-! ## The invariant -/

/-- The place of a station that has joined. -/
def Estacion.lugar (e : Estacion) : Option Lugar := e.unido.map Node.lugar

namespace Red

/-- A block set aside: an address that was confirmed to the joiner `x`. -/
def Reservado (confirmadas : List Confirmada) (x : In6Addr) (b : Block) : Prop :=
  ∃ c ∈ confirmadas, c.aspirante = x ∧ ∃ m < 64, c.direccion = slotAddr c.padre m
    ∧ b = block c.direccion (m + 1)

/-- **The invariant.**  Who holds which block is given by `own`; the stations are known by their
interface addresses. -/
structure Consistente (w : Red) : Prop where
  sanas : ∀ p ∈ w.puestos, p.estacion.Sana p.src
  mensajes : MensajesSanos w.mensajes
  deUnion : ∀ m ∈ w.mensajes, esDeUnion m
  distintos : (w.puestos.map Puesto.src).Nodup
  ranura : ∀ c ∈ w.confirmadas, ∃ m < 64, c.direccion = slotAddr c.padre m
  reparto : ∃ own : In6Addr → Option Block,
    (∀ p ∈ w.puestos, own p.src = p.estacion.lugar.map Lugar.bloque)
      ∧ Apartados own (Reservado w.confirmadas)

namespace Consistente

variable {w : Red}

/-- Stations are told apart by their interface addresses. -/
lemma puesto_unico (h : w.Consistente) {i j : ℕ} {p q : Puesto} (hi : w.puestos[i]? = some p)
    (hj : w.puestos[j]? = some q) (hsrc : p.src = q.src) : i = j := by
  obtain ⟨hilt, rfl⟩ := List.getElem?_eq_some_iff.mp hi
  obtain ⟨hjlt, rfl⟩ := List.getElem?_eq_some_iff.mp hj
  have hinj := List.nodup_iff_injective_getElem.mp h.distintos
  refine congrArg Fin.val (@hinj ⟨i, by simpa using hilt⟩ ⟨j, by simpa using hjlt⟩ ?_)
  dsimp only
  rw [List.getElem_map, List.getElem_map]
  exact hsrc

/-- **The invariant gives safety.** -/
theorem segura (h : w.Consistente) : w.Segura := by
  obtain ⟨own, hown, hapart⟩ := h.reparto
  refine ⟨fun c hc c' hc' _ hdir => ?_, fun i j p q n m hi hj hn hm heq => ?_⟩
  · have hblock : ∀ c ∈ w.confirmadas, ∃ b, Holds own (Reservado w.confirmadas) c.aspirante b
        ∧ b.base = c.direccion.hostBit := by
      intro c hc
      obtain ⟨m, hm, haddr⟩ := h.ranura c hc
      have hres : Reservado w.confirmadas c.aspirante (block c.direccion (m + 1)) :=
        ⟨c, hc, rfl, m, hm, haddr, rfl⟩
      exact holds_base hres
    obtain ⟨b, hb, hbase⟩ := hblock c hc
    obtain ⟨b', hb', hbase'⟩ := hblock c' hc'
    rcases hapart _ _ _ _ hb hb' with ⟨heq, -⟩ | hno
    · exact heq
    · exact absurd (by rw [hbase, hbase', hdir]) hno.base_ne
  · have hp := hown p (List.mem_of_getElem? hi)
    have hq := hown q (List.mem_of_getElem? hj)
    simp only [Estacion.lugar, hn, hm, Option.map_some] at hp hq
    rcases hapart _ _ _ _ (Or.inl hp) (Or.inl hq) with ⟨hsrc, -⟩ | hno
    · exact h.puesto_unico hi hj hsrc
    · exact absurd heq (ne_of_apart hno)

/-- A station takes a step, and the blocks are dealt out anew. -/
lemma conEstacion (h : w.Consistente) {i : ℕ} {p : Puesto} (hi : w.puestos[i]? = some p)
    {e : Estacion} (he : e.Sana p.src) (hout : MensajesSanos e.out) {cs : List Confirmada}
    (hcs : ∀ c ∈ cs, ∃ m < 64, c.direccion = slotAddr c.padre m)
    (hreparto : ∀ own : In6Addr → Option Block, own p.src = p.estacion.lugar.map Lugar.bloque →
      Apartados own (Reservado w.confirmadas) →
        Apartados (Function.update own p.src (e.lugar.map Lugar.bloque))
          (Reservado (w.confirmadas ++ cs))) :
    (w.conEstacion i p.src e cs).Consistente := by
  have hpmem := List.mem_of_getElem? hi
  have hlt := (List.getElem?_eq_some_iff.mp hi).1
  have hsrc : (w.puestos.set i { src := p.src, estacion := e }).map Puesto.src = w.puestos.map Puesto.src := by
    rw [List.map_set, ← (List.getElem?_eq_some_iff.mp hi).2, ← List.getElem_map Puesto.src,
      List.set_getElem_self]
    simpa using hlt
  have hcases : ∀ q ∈ w.puestos.set i { src := p.src, estacion := e }, q = { src := p.src, estacion := e } ∨ q ∈ w.puestos ∧ q.src ≠ p.src := by
    intro q hq
    obtain ⟨j, hj⟩ := List.mem_iff_getElem?.mp hq
    by_cases hji : j = i
    · subst hji
      rw [List.getElem?_set_self hlt] at hj
      exact Or.inl (Option.some.inj hj).symm
    · rw [List.getElem?_set_ne (Ne.symm hji)] at hj
      exact Or.inr ⟨List.mem_of_getElem? hj, fun heq => hji (h.puesto_unico hj hi heq)⟩
  obtain ⟨own, hown, hapart⟩ := h.reparto
  refine ⟨?_, ?_, ?_, hsrc ▸ h.distintos, ?_, _, ?_, hreparto own (hown p hpmem) hapart⟩
  · intro q hq
    rcases hcases q hq with rfl | ⟨hq, -⟩
    · exact he
    · exact h.sanas q hq
  · intro m hm
    rcases List.mem_append.mp hm with hm | hm
    · exact h.mensajes m hm
    · exact hout m (List.mem_of_mem_filter hm)
  · intro m hm
    rcases List.mem_append.mp hm with hm | hm
    · exact h.deUnion m hm
    · exact (List.mem_filter.mp hm).2
  · intro c hc
    rcases List.mem_append.mp hc with hc | hc
    · exact h.ranura c hc
    · exact hcs c hc
  · intro q hq
    rcases hcases q hq with rfl | ⟨hq, hne⟩
    · exact Function.update_self _ _ _
    · rw [Function.update_of_ne hne]
      exact hown q hq

/-- A step after which the station stands where it did and nothing was confirmed. -/
lemma conEstacion_quieta (h : w.Consistente) {i : ℕ} {p : Puesto} (hi : w.puestos[i]? = some p)
    {e : Estacion} (he : e.Sana p.src) (hout : MensajesSanos e.out)
    (hlugar : e.lugar = p.estacion.lugar) : (w.conEstacion i p.src e []).Consistente := by
  refine h.conEstacion hi he hout (by simp) fun own hown hapart => ?_
  rw [hlugar, ← hown, Function.update_eq_self, List.append_nil]
  exact hapart

end Consistente

/-- A joiner reads a message. -/
lemma Consistente.leer_uniendose {w : Red} (h : w.Consistente) {i : ℕ} {p : Puesto}
    (hi : w.puestos[i]? = some p) {s : Aspirante} (hp : p.estacion = .uniendose s) {env : Env}
    {msg : CtrlPkt} (hmsg : OfertaSana msg) (htype : esDeUnion (.zero, msg))
    (hg : p.estacion.guarda w.confirmadas p.src msg)
    {e : Estacion} (he : p.estacion.leer env msg = some e) :
    (w.conEstacion i p.src e (p.estacion.confirma msg)).Consistente := by
  have hsana := h.sanas p (List.mem_of_getElem? hi)
  rw [hp] at hsana hg he ⊢
  obtain ⟨hno, hg⟩ := hg
  have hnada : (Estacion.uniendose s).confirma msg = [] := if_neg hno
  rw [hnada]
  rcases uniendose_leer hsana.2.2 hsana.2.1 hmsg htype hno he with ⟨s', rfl, hsrc, hdim, hrec, hout⟩ |
    ⟨elegida, n, r, hfase, hpanc, ⟨m, hm, haddr, hmask, hlen⟩, rfl, htoma, hout⟩
  · exact h.conEstacion_quieta (e := .uniendose s') hi
      ⟨hsrc.trans hsana.1, hdim.trans_le hsana.2.1, hrec⟩ hout (by rw [hp]; rfl)
  · simp only [hfase] at hg
    refine h.conEstacion (e := .unida n) hi ⟨_, hlen, htoma.unido⟩ hout (by simp) ?_
    intro own hown hapart
    have hbloque : n.lugar.bloque = block elegida.adAddr.addr (m + 1) := by
      rw [htoma.lugar, Lugar.bloque, hmask]
    rw [List.append_nil, Estacion.lugar, Estacion.unido, Option.map_some, Option.map_some, hbloque]
    exact hapart.take (by rw [hown, hp]; rfl) ⟨_, hg hpanc, rfl, m, hm, haddr, rfl⟩

/-- A node of the network reads a message. -/
lemma Consistente.leer_unida {w : Red} (h : w.Consistente) {i : ℕ} {p : Puesto}
    (hi : w.puestos[i]? = some p) {n : Node} (hp : p.estacion = .unida n) {env : Env}
    {msg : CtrlPkt} (htype : esDeUnion (.zero, msg))
    (hg : p.estacion.guarda w.confirmadas p.src msg)
    {e : Estacion} (he : p.estacion.leer env msg = some e) :
    (w.conEstacion i p.src e (p.estacion.confirma msg)).Consistente := by
  have hsana := h.sanas p (List.mem_of_getElem? hi)
  rw [hp] at hsana hg he ⊢
  obtain ⟨d, hd, hn⟩ := hsana
  obtain ⟨n', rfl, hunido, hlugar, hout⟩ := unida_leer hd hn htype he
  by_cases hpan : msg.pktTypeF = .pan ∧ n.aceptaPan msg
  · rw [if_pos hpan] at hlugar
    have hconfirma : (Estacion.unida n).confirma msg = [⟨n.primAddr, msg.primAddr, msg.srcAddr⟩] :=
      if_pos hpan
    rw [hconfirma]
    have hce : n'.lugar.bloque = n.lugar.ceder.bloque := by rw [hlugar]
    rcases hg hpan.1 hpan.2 with ⟨hlt, hoferta⟩ | ⟨hrepe, hlt⟩
    · -- the slot on offer is split off
      have hm : n.primMask.toNat < 64 := by rw [hn.dimension] at hlt; omega
      have hm255 : n.primMask.toNat < 255 := by omega
      refine h.conEstacion (e := .unida n') hi ⟨d, hd, hunido⟩ hout ?_ fun own hown hapart => ?_
      · intro c hc
        obtain rfl := List.mem_singleton.mp hc
        exact ⟨_, hm, hoferta⟩
      · rw [hp] at hown
        rw [Estacion.lugar, Estacion.unido, Option.map_some, Option.map_some, hce,
          Lugar.bloque_ceder hm255]
        refine hapart.split (y := msg.srcAddr) hown fun z b hz => ?_
        obtain ⟨c, hc, hz, k, hk, hdir, rfl⟩ := hz
        rcases List.mem_append.mp hc with hc | hc
        · exact Or.inl ⟨c, hc, hz, k, hk, hdir, rfl⟩
        · obtain rfl := List.mem_singleton.mp hc
          obtain rfl := slotAddr_inj hk hm (hdir.symm.trans hoferta)
          refine Or.inr ⟨hz.symm, ?_⟩
          rw [hoferta, block_slotAddr _ hm]
          rfl
    · -- a repeated confirmation gives nothing new away, and the next slot is lost
      refine h.conEstacion (e := .unida n') hi ⟨d, hd, hunido⟩ hout ?_ fun own hown hapart => ?_
      · intro c hc
        obtain rfl := List.mem_singleton.mp hc
        exact h.ranura _ hrepe
      · rw [hp] at hown
        rw [Estacion.lugar, Estacion.unido, Option.map_some, Option.map_some, hce,
          Lugar.bloque_ceder hlt]
        refine hapart.shrink hown fun z b hz => ?_
        obtain ⟨c, hc, hrest⟩ := hz
        rcases List.mem_append.mp hc with hc | hc
        · exact ⟨c, hc, hrest⟩
        · obtain rfl := List.mem_singleton.mp hc
          exact ⟨_, hrepe, hrest⟩
  · rw [if_neg hpan] at hlugar
    have hnada : (Estacion.unida n).confirma msg = [] := if_neg hpan
    rw [hnada]
    exact h.conEstacion_quieta (e := .unida n') hi ⟨d, hd, hunido⟩ hout (by rw [hp]; exact congrArg some hlugar)

/-- **One step.** -/
theorem Consistente.step {w w' : Red} (h : w.Consistente) {ev : EventoRed} (hg : w.guarda ev)
    (hs : w.step ev = some w') : w'.Consistente := by
  cases ev with
  | entrega i k env =>
      simp only [Red.step, Option.bind_eq_bind, Option.bind_eq_some_iff] at hs
      obtain ⟨p, hi, ⟨dst, msg⟩, hk, hs⟩ := hs
      split_ifs at hs with hoye
      obtain ⟨e, he, hs⟩ := Option.bind_eq_some_iff.mp hs
      obtain rfl := Option.some.inj hs
      have hmem : (dst, msg) ∈ w.mensajes := List.mem_of_getElem? hk
      have hg : p.estacion.guarda w.confirmadas p.src msg := hg p hi (dst, msg) hk
      have htype : esDeUnion (.zero, msg) := h.deUnion (dst, msg) hmem
      cases hp : p.estacion with
      | uniendose s => exact hp ▸ h.leer_uniendose hi hp (h.mensajes _ hmem) htype hg he
      | unida n => exact hp ▸ h.leer_unida hi hp htype hg he
  | vence i env =>
      simp only [Red.step, Option.bind_eq_bind, Option.bind_eq_some_iff] at hs
      obtain ⟨p, hi, e, he, hs⟩ := hs
      obtain rfl := Option.some.inj hs
      have hsana := h.sanas p (List.mem_of_getElem? hi)
      cases hp : p.estacion with
      | unida n => simp [hp, Estacion.vencer] at he
      | uniendose s =>
          rw [hp] at hsana he
          obtain ⟨s', rfl, hsrc, hdim, hrec, hout⟩ := uniendose_vencer hsana.2.2 hsana.2.1 he
          exact h.conEstacion_quieta (e := .uniendose s') hi
            ⟨hsrc.trans hsana.1, hdim.trans_le hsana.2.1, hrec⟩ hout (by rw [hp]; rfl)

/-- The beginning. -/
lemma consistente_comienzo (c : Comienzo) : c.red.Consistente := by
  have hpuestos : ∀ p ∈ c.red.puestos.tail, ∃ a ∈ c.aspirantes,
      p = ⟨a.1, .uniendose (Aspirante.nuevo c.env a.2.1 a.2.2 a.1)⟩ := by
    intro p hp
    simp only [Comienzo.red, List.tail_cons, List.map_map, List.mem_map] at hp
    obtain ⟨a, ha, rfl⟩ := hp
    exact ⟨a, ha, rfl⟩
  have hmensajes : ∀ m ∈ c.red.mensajes, m.2.pktTypeF = .par := by
    intro m hm
    simp only [Comienzo.red, List.mem_flatMap, List.mem_map] at hm
    obtain ⟨_, ⟨a, -, rfl⟩, hm⟩ := hm
    exact List.mem_singleton.mp hm ▸ rfl
  have hdistintos : (c.red.puestos.map Puesto.src).Nodup := by
    simpa [Comienzo.red, Function.comp_def, Aspirante.nuevo, Aspirante.start] using c.distintos
  refine ⟨?_, ?_, ?_, hdistintos, by simp [Comienzo.red], _, ?_,
    apartados_single c.fundador.1 (block root 0) (by simp [Reservado, Comienzo.red])⟩
  · rintro p (_ | ⟨_, hp⟩)
    · exact ⟨c.fundador.2.1, c.dimension _ List.mem_cons_self, rfl, ⟨rfl, rfl⟩, ⟨rfl, rfl⟩, ⟨rfl, rfl⟩,
        rfl, rfl⟩
    · obtain ⟨a, ha, rfl⟩ := hpuestos p hp
      exact ⟨rfl, c.dimension a (List.mem_cons_of_mem _ ha), recoge_nuevo _ _ _ _ _⟩
  · intro m hm hes
    exact absurd (of_decide_eq_true hes).1 (by simp [hmensajes m hm])
  · exact fun m hm => by simp [esDeUnion, hmensajes m hm]
  · rintro p (_ | ⟨_, hp⟩)
    · exact Function.update_self _ _ _
    · obtain ⟨a, ha, rfl⟩ := hpuestos p hp
      have hne : a.1 ≠ c.fundador.1 := fun heq =>
        (List.nodup_cons.mp c.distintos).1 (heq ▸ List.mem_map_of_mem ha)
      exact Function.update_of_ne hne _ _

end Red

/-! ## Runs -/

/-- **Join safety.**  Along a run in which every accepted `PAN` is for the slot on offer, or repeats
one of the same joiner, no joiner accepts a `PAN`, and every `PANC` is taken for a confirmed choice, no
address is confirmed to two joiners and no two nodes have the same address. -/
theorem union_segura (c : Comienzo) (evs : List EventoRed)
    (hg : ∀ t ∈ steps Red.step c.red evs, t.1.guarda t.2.1) :
    ∀ w ∈ states Red.step c.red evs, w.Segura := fun w hw =>
  Red.Consistente.segura (invariant_of_guard (fun _ _ _ h hg hs => h.step hg hs)
    (Red.consistente_comienzo c) hg w hw)

/-- Two joiners, one after the other, the first with a `PAN` that is read twice. -/
theorem union_segura_dos :
    ∃ w ∈ states Red.step Comienzo.dos.red
        [.entrega 0 0 .zero, .entrega 1 2 .zero, .vence 1 .zero, .entrega 0 3 .zero,
          .entrega 0 3 .zero, .entrega 1 4 .zero, .entrega 0 1 .zero, .entrega 2 6 .zero,
          .vence 2 .zero, .entrega 0 7 .zero, .entrega 2 8 .zero],
      (∀ p ∈ w.puestos, p.estacion.unido ≠ none) ∧ w.Segura := by
  obtain ⟨w, hw, hnodos⟩ : ∃ w ∈ states Red.step Comienzo.dos.red
      [.entrega 0 0 .zero, .entrega 1 2 .zero, .vence 1 .zero, .entrega 0 3 .zero,
        .entrega 0 3 .zero, .entrega 1 4 .zero, .entrega 0 1 .zero, .entrega 2 6 .zero,
        .vence 2 .zero, .entrega 0 7 .zero, .entrega 2 8 .zero],
      ∀ p ∈ w.puestos, p.estacion.unido.isSome := by decide +kernel
  refine ⟨w, hw, ?_, union_segura Comienzo.dos _ (by decide +kernel) w hw⟩
  intro p hp
  exact Option.isSome_iff_ne_none.mp (hnodos p hp)

/-- Both joiners are offered the first slot of the root, both ask for it and both get it. -/
theorem same_slot_twice :
    ¬ ∀ (c : Comienzo) (evs : List EventoRed), ∀ w ∈ states Red.step c.red evs, w.Segura := by
  intro h
  have hw : ∃ w ∈ states Red.step Comienzo.dos.red dosALaVez,
      (∃ p ∈ w.puestos[1]?, ∃ q ∈ w.puestos[2]?, ∃ n ∈ p.estacion.unido, ∃ m ∈ q.estacion.unido,
        n.primAddr = m.primAddr) := by decide +kernel
  obtain ⟨w, hw, p, hp, q, hq, n, hn, m, hm, heq⟩ := hw
  exact absurd ((h Comienzo.dos dosALaVez w hw).direcciones 1 2 p q n m hp hq hn hm heq) (by decide)

end Antop
