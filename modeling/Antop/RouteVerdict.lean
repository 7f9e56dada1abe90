import Antop.ReverseEntry
import Antop.RvRoute

/-!
# The verdict on a packet

`route` says what becomes of a packet: `RV_DROP` when `rv_route` has consumed it, and else `RV_ACCEPT`,
after the routes for it have been set up.  `print_pkt` drops a packet that arrives when it is told so.

* `EntornoRoute`, `EstadoRoute` — what `route` reads from elsewhere, and what it changes.
* `route` — the function.  It is `none` where a function it calls does not return, and the verdict is
  `none` where it comes to its end without a `return`.
* `sinReturn` — the packets for which it does.
* `route_cases` — what it can do.
* `veredicto_iff` — when the verdict is right.
-/

namespace Antop

/-! ## The packet and the state -/

/-- `NF_IP6_PRE_ROUTING`. -/
def nfIp6PreRouting : UChar := 0

/-- A packet with the address it comes from. -/
structure PaqueteIp extends PaqueteRv where
  fromAddr : In6Addr

namespace PaqueteIp

/-- What `send_to_next_neighbor` reads of it. -/
def paquete (pkt : PaqueteIp) : Ruteo.Paquete :=
  { src := pkt.src, dst := pkt.dst, fromAddr := pkt.fromAddr, udp := pkt.conOpcion.tipo
    udpSinOpcion := pkt.sinOpcion.tipo }

/-- The byte at `UDP_PKT_OFF_aux`. -/
def tipo (n : Node) (pkt : PaqueteIp) : UChar := (pkt.trama n.primAddr).tipo

end PaqueteIp

/-- What `route` reads from elsewhere: what `rt_table_dump` answers where the reverse entry is looked for,
in `return_from`, where the destination is looked for, and at the end; the metrics of the routes, which
are never set; where `malloc` finds no memory; what stands in `rt->gtw` after later dumps have written over
it; and what the functions it calls read. -/
structure EntornoRoute where
  hook : UChar
  rv : MemoriaRv
  reversa : List RtRouteParam
  metric : ℕ → ℤ
  sinMemoria : ℕ → Bool
  vuelta : List RtRouteParam
  salida : List RtRouteParam
  gtwTras : ℕ → In6Addr
  siguiente : ℕ → Ruteo.EntornoRuta
  union : List RtRouteParam
  info : Ruteo.MemInfo
  clock : Timeval

/-- The variables that `route` changes, with the bytes of the packet and, which is no variable of the
daemon, what `rv_route` has said. -/
structure EstadoRoute where
  ruteo : Ruteo
  rv : EstadoRv
  cabecera : Cabecera
  dichos : List ℤ

namespace EstadoRoute

variable (env : EntornoRoute) (n : Node) (pkt : PaqueteIp)

/-! ## The functions -/

/-- `return_from`. -/
def returnFrom (s : EstadoRoute) : EstadoRoute :=
  let ruteo := env.vuelta.foldl (fun r rt =>
    if rt.dst = pkt.dst then r.delRtRoute ⟨rt.dst, rt.gtw, 128, maxTtl⟩ else r) s.ruteo
  { s with ruteo := ruteo.addRtRoute ⟨pkt.dst, pkt.fromAddr, 128, maxTtl⟩ env.clock }

/-- The packet is marked, gets its hop back and is returned. -/
def devolver (s : EstadoRoute) : EstadoRoute :=
  { s with cabecera := s.cabecera.devuelta }.returnFrom env pkt

/-- The call of `send_to_next_neighbor` with the number `k`. -/
def sendToNextNeighbor (k : ℕ) (s : EstadoRoute) : Option EstadoRoute :=
  (s.ruteo.sendToNextNeighborPkt { env.siguiente k with primAddr := n.primAddr } pkt.paquete s.cabecera).map
    fun p => { s with cabecera := p.1, ruteo := p.2 }

/-- A rendezvous packet for another node is shown to `rv_route`; whether the answer is `RV_DROP`. -/
def consultarRv (s : EstadoRoute) : Option (Bool × EstadoRoute) :=
  if pkt.tipo n ∈ Ruteo.tiposRv ∧ pkt.dst ≠ n.primAddr then
    (rvRoute env.rv n pkt.toPaqueteRv s.rv).map fun p =>
      (decide (p.1 = rvDrop), { s with rv := p.2, dichos := s.dichos ++ [p.1] })
  else some (false, s)

/-- The packet has come further than the route at the position `i` says, and the auxiliary entry of that
route is for it: the packet is in a loop. -/
def enBucle (distance : ℤ) (i : ℕ) (s : EstadoRoute) : Bool :=
  (s.ruteo.rtInfo.find? fun e => e.routeId.toNat = i).any fun e =>
    decide (e.src = pkt.dst ∧ env.metric i < distance)

/-- The loop that looks for the reverse entry, with the destination and the gateway of `reverse_entry`; no
answer means `return RV_ACCEPT`. -/
def buscarEntrada (distance : ℤ) : List RtRouteParam → ℕ → Option (In6Addr × In6Addr) → EstadoRoute →
    EstadoRoute × Option (Option (In6Addr × In6Addr))
  | [], _, reverseEntry, s => (s, some reverseEntry)
  | rt :: rts, i, reverseEntry, s =>
      if rt.dst = pkt.src then
        if s.enBucle env pkt distance i then (s.devolver env pkt, none)
        else if env.sinMemoria i then (s, none)
        else
          -- `reverse_entry` is the old route, and keeps its gateway
          buscarEntrada distance rts (i + 1) (some (rt.dst, rt.gtw)) { s with
            ruteo := (s.ruteo.delRtRoute { rt with mask := 128 }).addRtRoute
              ⟨rt.dst, pkt.fromAddr, 128, distance⟩ env.clock }
      else buscarEntrada distance rts (i + 1) reverseEntry s

/-- The reverse entry is inserted or updated.  `needs_join` is set exactly when there is one then: the
loop over the routes only ends with `rt == NULL`. -/
def entradaReversa (s : EstadoRoute) : EstadoRoute × Option (Option (In6Addr × In6Addr)) :=
  let srcNeigh := s.ruteo.neighTable.any fun it => it.primAddr = pkt.src
  if pkt.fromAddr ≠ n.primAddr ∧ srcNeigh = false ∧ env.hook = nfIp6PreRouting then
    let distance := maxTtl - s.cabecera.ttl.toNat
    match buscarEntrada env pkt distance env.reversa 0 none s with
    | (s, some none) =>
        if env.sinMemoria env.reversa.length then (s, none)
        else ({ s with ruteo := s.ruteo.addRtRoute ⟨pkt.src, pkt.fromAddr, 128, distance⟩ env.clock },
          some (some (pkt.src, pkt.fromAddr)))
    | (s, reverseEntry) => (s, reverseEntry)
  else (s, some none)

/-- The loop over the neighbours, from the one at the position `k` on, with the value of `rt->gtw`. -/
def recorrerVecinos : List Neighbor → ℕ → In6Addr → EstadoRoute → Option EstadoRoute
  | [], _, _, s => some s
  | it :: its, k, gtw, s =>
      if it.primAddr = gtw ∧ it.available = false then
        (s.sendToNextNeighbor env n pkt (k + 1)).bind (recorrerVecinos its (k + 1) (env.gtwTras (k + 1)))
      else recorrerVecinos its (k + 1) gtw s

/-- There is a route to the destination: the packet is returned when the route leads back, and sent to the
next neighbour when its gateway is not available. -/
def seguirRuta (rt : RtRouteParam) (s : EstadoRoute) : Option EstadoRoute :=
  if rt.gtw = pkt.fromAddr ∧ env.hook = nfIp6PreRouting then
    recorrerVecinos env n pkt s.ruteo.neighTable 0 (env.gtwTras 0) (s.devolver env pkt)
  else recorrerVecinos env n pkt s.ruteo.neighTable 0 rt.gtw s

/-- The end of `route`: the reverse entry is added to `rt_info`.  A value is returned only when it is not
found. -/
def unir : Option (In6Addr × In6Addr) → EstadoRoute → Option (Option ℤ × EstadoRoute)
  | none, s => some (none, s)
  | some reverseEntry, s =>
      match env.union.findIdx? fun rt => rt.dst = reverseEntry.1 ∧ rt.gtw = reverseEntry.2 with
      | some i =>
          (s.ruteo.addRtInfo env.info reverseEntry.1 (some pkt.src) (BitVec.ofNat 8 i)).map fun p =>
            (none, { s with ruteo := p.1 })
      | none => some (some rvAccept, s)

/-- `route` for a packet that is not consumed, with the verdict. -/
def encaminar (s : EstadoRoute) : Option (Option ℤ × EstadoRoute) :=
  match s.entradaReversa env n pkt with
  | (s, none) => some (some rvAccept, s)
  | (s, some reverseEntry) =>
      if pkt.dst = n.primAddr then some (some rvAccept, s)
      else
        match env.salida.find? fun rt => rt.dst = pkt.dst ∧ rt.gtw ≠ pkt.dst with
        | none => (s.sendToNextNeighbor env n pkt 0).map fun s => (some rvAccept, s)
        | some rt => (s.seguirRuta env n pkt rt).bind (unir env pkt reverseEntry)

/-- `route`. -/
def route (s : EstadoRoute) : Option (Option ℤ × EstadoRoute) :=
  if 0 < pkt.tipo n ∧ pkt.tipo n < 5 then some (some rvAccept, s)
  else if pkt.dst = n.primAddr ∧ pkt.src = n.primAddr then some (some rvAccept, s)
  else if pkt.dst.s6Addr16 0 ≠ n.primAddr.s6Addr16 0 then some (some rvAccept, s)
  else if pkt.src = n.primAddr ∧ env.hook = nfIp6PreRouting then some (some rvAccept, s.devolver env pkt)
  else
    (s.consultarRv env n pkt).bind fun p =>
      if p.1 then some (some rvDrop, p.2) else p.2.encaminar env n pkt

/-- `*accept`, as `print_pkt` sets it after a call of `route` with the verdict.  Where there is none, it
compares what stands in the place of one. -/
def printPktAccept (hook : UChar) (basura : ℤ) (verdict : Option ℤ) : Bool :=
  !decide (hook = nfIp6PreRouting ∧ verdict.getD basura = rvDrop)

/-! ## The ways out -/

/-- The packets that are let through at once: those of the negotiation of an address, those that the node
sends to itself or for another network, and those that have come back to it. -/
def pasaDirecto : Prop :=
  (0 < pkt.tipo n ∧ pkt.tipo n < 5) ∨ (pkt.dst = n.primAddr ∧ pkt.src = n.primAddr)
    ∨ pkt.dst.s6Addr16 0 ≠ n.primAddr.s6Addr16 0
    ∨ (pkt.src = n.primAddr ∧ env.hook = nfIp6PreRouting)

instance : Decidable (pasaDirecto env n pkt) := inferInstanceAs (Decidable (_ ∨ _ ∨ _ ∨ _))

/-- The packets that `rv_route` is asked about. -/
def preguntaRv : Prop := pkt.tipo n ∈ Ruteo.tiposRv ∧ pkt.dst ≠ n.primAddr

instance : Decidable (preguntaRv n pkt) := inferInstanceAs (Decidable (_ ∧ _))

/-- Those it consumes. -/
def consumible : Prop := preguntaRv n pkt ∧ n.responde pkt.dst ∧ ¬ n.soloRecupera pkt.dst

instance : Decidable (consumible n pkt) := inferInstanceAs (Decidable (_ ∧ _ ∧ _))

/-- A packet that arrives from another node and whose source is no neighbour gets a reverse entry. -/
def pideReversa (s : EstadoRoute) : Prop :=
  pkt.fromAddr ≠ n.primAddr ∧ (s.ruteo.neighTable.any fun it => it.primAddr = pkt.src) = false
    ∧ env.hook = nfIp6PreRouting

instance (s : EstadoRoute) : Decidable (s.pideReversa env n pkt) :=
  inferInstanceAs (Decidable (_ ∧ _ ∧ _))

/-- The route at the position `i` ends the search for the reverse entry: the packet is in a loop, or there
is no memory. -/
def detiene (distance : ℤ) (i : ℕ) (s : EstadoRoute) : Prop :=
  s.enBucle env pkt distance i = true ∨ env.sinMemoria i = true

instance (distance : ℤ) (i : ℕ) (s : EstadoRoute) : Decidable (s.detiene env pkt distance i) :=
  inferInstanceAs (Decidable (_ ∨ _))

/-- The packet is let through while its reverse entry is set up. -/
def seDetiene (s : EstadoRoute) : Prop :=
  s.pideReversa env n pkt
    ∧ ((∃ p ∈ env.reversa.zipIdx, p.1.dst = pkt.src
        ∧ s.detiene env pkt (maxTtl - s.cabecera.ttl.toNat) p.2)
      ∨ (∀ rt ∈ env.reversa, rt.dst ≠ pkt.src) ∧ env.sinMemoria env.reversa.length = true)

instance (s : EstadoRoute) : Decidable (s.seDetiene env n pkt) :=
  inferInstanceAs (Decidable (_ ∧ (_ ∨ _)))

/-- The reverse entry: the last route to the source, with its old gateway, or the one that is added. -/
def reverseEntry : In6Addr × In6Addr :=
  ((env.reversa.filter fun rt => rt.dst = pkt.src).getLast?).elim (pkt.src, pkt.fromAddr) fun rt =>
    (rt.dst, rt.gtw)

/-- There is a route to the destination that has a gateway. -/
def hayRuta : Prop := ∃ rt ∈ env.salida, rt.dst = pkt.dst ∧ rt.gtw ≠ pkt.dst

instance : Decidable (hayRuta env pkt) := inferInstanceAs (Decidable (∃ rt ∈ env.salida, _))

/-- The last search for the reverse entry, when there is one, finds it. -/
def seUne (s : EstadoRoute) : Prop :=
  s.pideReversa env n pkt →
    ∃ rt ∈ env.union, rt.dst = (reverseEntry env pkt).1 ∧ rt.gtw = (reverseEntry env pkt).2

instance (s : EstadoRoute) : Decidable (s.seUne env n pkt) :=
  inferInstanceAs (Decidable (_ → ∃ rt ∈ env.union, _))

/-- A packet that is not consumed comes to the end of the function. -/
def llegaAlFinal (s : EstadoRoute) : Prop :=
  ¬ s.seDetiene env n pkt ∧ pkt.dst ≠ n.primAddr ∧ hayRuta env pkt ∧ s.seUne env n pkt

instance (s : EstadoRoute) : Decidable (s.llegaAlFinal env n pkt) :=
  inferInstanceAs (Decidable (_ ∧ _ ∧ _ ∧ _))

/-- **The packets without a verdict**: none of the `return` statements stands on their way. -/
def sinReturn (s : EstadoRoute) : Prop :=
  ¬ pasaDirecto env n pkt ∧ ¬ consumible n pkt ∧ s.llegaAlFinal env n pkt

instance (s : EstadoRoute) : Decidable (s.sinReturn env n pkt) :=
  inferInstanceAs (Decidable (_ ∧ _ ∧ _))

/-- `send_to_next_neighbor` returns each time it is called for a packet that gets past its reverse entry. -/
def vecinosVuelven (s : EstadoRoute) : Prop :=
  match env.salida.find? fun rt => rt.dst = pkt.dst ∧ rt.gtw ≠ pkt.dst with
  | none => (s.sendToNextNeighbor env n pkt 0).isSome
  | some rt => (s.seguirRuta env n pkt rt).isSome

/-- The state after `rv_route` has been asked and has not consumed the packet. -/
def trasRv (s : EstadoRoute) : EstadoRoute :=
  { s with dichos := s.dichos ++ if preguntaRv n pkt then [rvAccept] else [] }

/-- **The functions that `route` calls return**: none of them reads a null pointer or runs over the end of
a buffer. -/
def vuelven (s : EstadoRoute) : Prop :=
  pasaDirecto env n pkt
    ∨ consumible n pkt ∧ (procesarRv env.rv (pkt.trama n.primAddr) s.rv).isSome
    ∨ ¬ consumible n pkt ∧ (s.seDetiene env n pkt ∨ pkt.dst = n.primAddr
      ∨ ((s.trasRv n pkt).entradaReversa env n pkt).1.vecinosVuelven env n pkt)

/-! ## What the parts do -/

variable {env n pkt} {s s' : EstadoRoute}

/-- What a part leaves as it is. -/
structure Conserva (s s' : EstadoRoute) : Prop where
  rv : s'.rv = s.rv
  dichos : s'.dichos = s.dichos

lemma Conserva.refl (s : EstadoRoute) : Conserva s s := ⟨rfl, rfl⟩

lemma Conserva.trans {u : EstadoRoute} (h : Conserva s s') (h' : Conserva s' u) : Conserva s u :=
  ⟨h'.rv.trans h.rv, h'.dichos.trans h.dichos⟩

lemma conserva_devolver (s : EstadoRoute) : Conserva s (s.devolver env pkt) := ⟨rfl, rfl⟩

lemma conserva_sendToNextNeighbor {k : ℕ} (h : s.sendToNextNeighbor env n pkt k = some s') :
    Conserva s s' := by
  obtain ⟨p, -, rfl⟩ := Option.map_eq_some_iff.mp h
  exact ⟨rfl, rfl⟩

lemma conserva_recorrerVecinos {its : List Neighbor} {k : ℕ} {gtw : In6Addr}
    (h : s.recorrerVecinos env n pkt its k gtw = some s') : Conserva s s' := by
  induction its generalizing k gtw s with
  | nil => exact Option.some.inj h ▸ Conserva.refl s
  | cons it its ih =>
      unfold recorrerVecinos at h
      split_ifs at h
      · obtain ⟨u, hu, h⟩ := Option.bind_eq_some_iff.mp h
        exact (conserva_sendToNextNeighbor hu).trans (ih h)
      · exact ih h

lemma conserva_seguirRuta {rt : RtRouteParam} (h : s.seguirRuta env n pkt rt = some s') :
    Conserva s s' := by
  unfold seguirRuta at h
  split_ifs at h
  · exact (conserva_devolver s).trans (conserva_recorrerVecinos h)
  · exact conserva_recorrerVecinos h

/-- **The end of `route`.** -/
lemma unir_eq_some {reverseEntry : Option (In6Addr × In6Addr)} {v : Option ℤ}
    (h : unir env pkt reverseEntry s = some (v, s')) :
    Conserva s s' ∧ v = if ∀ e ∈ reverseEntry, ∃ rt ∈ env.union, rt.dst = e.1 ∧ rt.gtw = e.2 then none
      else some rvAccept := by
  unfold unir at h
  split at h
  · obtain ⟨rfl, rfl⟩ := Prod.mk.inj (Option.some.inj h)
    exact ⟨Conserva.refl s, by simp⟩
  · rename_i e
    cases hidx : env.union.findIdx? fun rt => rt.dst = e.1 ∧ rt.gtw = e.2 with
    | some i =>
        rw [hidx] at h
        obtain ⟨p, -, heq⟩ := Option.map_eq_some_iff.mp h
        obtain ⟨rfl, rfl⟩ := Prod.mk.inj heq
        obtain ⟨hlt, hrt, -⟩ := List.findIdx?_eq_some_iff_getElem.mp hidx
        refine ⟨⟨rfl, rfl⟩, (if_pos ?_).symm⟩
        rintro e' ⟨⟩
        exact ⟨_, List.getElem_mem hlt, of_decide_eq_true hrt⟩
    | none =>
        rw [hidx] at h
        obtain ⟨rfl, rfl⟩ := Prod.mk.inj (Option.some.inj h)
        refine ⟨Conserva.refl s, (if_neg fun hall => ?_).symm⟩
        obtain ⟨rt, hrt, hmatch⟩ := hall e rfl
        have hno := List.findIdx?_eq_none_iff.mp hidx rt hrt
        exact of_decide_eq_false hno hmatch

/-- **The search for the reverse entry** ends at the first route to the source where the packet is in a
loop or there is no memory; otherwise the last of these routes is the entry. -/
lemma buscarEntrada_eq (env : EntornoRoute) (pkt : PaqueteIp) (distance : ℤ) (rts : List RtRouteParam)
    (i : ℕ) (entrada : Option (In6Addr × In6Addr)) (s : EstadoRoute) :
    Conserva s (buscarEntrada env pkt distance rts i entrada s).1
      ∧ (buscarEntrada env pkt distance rts i entrada s).2
        = if ∃ p ∈ rts.zipIdx i, p.1.dst = pkt.src ∧ s.detiene env pkt distance p.2 then none
          else some (((rts.filter fun rt => rt.dst = pkt.src).getLast?).elim entrada fun rt =>
            some (rt.dst, rt.gtw)) := by
  induction rts generalizing i entrada s with
  | nil => exact ⟨Conserva.refl s, by simp [buscarEntrada]⟩
  | cons rt rts ih =>
      unfold buscarEntrada
      rw [List.zipIdx_cons]
      simp only [List.mem_cons, exists_eq_or_imp]
      by_cases hsrc : rt.dst = pkt.src
      · rw [if_pos hsrc]
        by_cases hbucle : s.enBucle env pkt distance i = true
        · rw [if_pos hbucle, if_pos (Or.inl ⟨hsrc, Or.inl hbucle⟩)]
          exact ⟨conserva_devolver s, rfl⟩
        by_cases hmem : env.sinMemoria i = true
        · rw [if_neg hbucle, if_pos hmem, if_pos (Or.inl ⟨hsrc, Or.inr hmem⟩)]
          exact ⟨Conserva.refl s, rfl⟩
        rw [if_neg hbucle, if_neg hmem]
        obtain ⟨hcons, hres⟩ := ih (i + 1) (some (rt.dst, rt.gtw)) { s with
          ruteo := (s.ruteo.delRtRoute { rt with mask := 128 }).addRtRoute
            ⟨rt.dst, pkt.fromAddr, 128, distance⟩ env.clock }
        refine ⟨⟨hcons.rv, hcons.dichos⟩, ?_⟩
        rw [hres]
        have hno : ¬ (rt.dst = pkt.src ∧ s.detiene env pkt distance i) := fun h => h.2.elim hbucle hmem
        -- the routes that are changed are not looked at, only the auxiliary entries
        refine if_congr (or_iff_right hno).symm rfl (congrArg some ?_)
        rw [List.filter_cons_of_pos (by simpa using hsrc), List.getLast?_cons]
        cases (rts.filter fun rt => rt.dst = pkt.src).getLast? <;> rfl
      · rw [if_neg hsrc]
        obtain ⟨hcons, hres⟩ := ih (i + 1) entrada s
        refine ⟨hcons, ?_⟩
        rw [hres, List.filter_cons_of_neg (by simpa using hsrc)]
        exact if_congr (or_iff_right fun h => hsrc h.1).symm rfl rfl

/-- **The reverse entry.** -/
lemma entradaReversa_eq (env : EntornoRoute) (n : Node) (pkt : PaqueteIp) (s : EstadoRoute) :
    Conserva s (s.entradaReversa env n pkt).1
      ∧ (s.entradaReversa env n pkt).2
        = if s.seDetiene env n pkt then none
          else some (if s.pideReversa env n pkt then some (reverseEntry env pkt) else none) := by
  unfold entradaReversa
  dsimp only
  by_cases hpide : s.pideReversa env n pkt
  · rw [if_pos (show _ ∧ _ ∧ _ from hpide), if_pos hpide]
    obtain ⟨hcons, hres⟩ := buscarEntrada_eq env pkt (maxTtl - s.cabecera.ttl.toNat) env.reversa 0 none s
    generalize buscarEntrada env pkt (maxTtl - s.cabecera.ttl.toNat) env.reversa 0 none s = r at hcons hres
    obtain ⟨u, r⟩ := r
    dsimp only at hcons hres
    by_cases hdet : ∃ p ∈ env.reversa.zipIdx, p.1.dst = pkt.src
        ∧ s.detiene env pkt (maxTtl - s.cabecera.ttl.toNat) p.2
    · rw [if_pos hdet] at hres
      subst hres
      exact ⟨hcons, (if_pos ⟨hpide, Or.inl hdet⟩).symm⟩
    · rw [if_neg hdet] at hres
      subst hres
      cases hlast : (env.reversa.filter fun rt => rt.dst = pkt.src).getLast? with
      | some rt =>
          have hsome : ¬ ∀ rt ∈ env.reversa, rt.dst ≠ pkt.src := by
            intro hall
            have hmem := List.mem_of_getLast? hlast
            rw [List.mem_filter, decide_eq_true_eq] at hmem
            exact hall rt hmem.1 hmem.2
          refine ⟨hcons, ?_⟩
          rw [if_neg fun h => h.2.elim hdet fun h => hsome h.1, reverseEntry, hlast]
          rfl
      | none =>
          have hnone : ∀ rt ∈ env.reversa, rt.dst ≠ pkt.src := by
            simpa [List.getLast?_eq_none_iff, List.filter_eq_nil_iff] using hlast
          dsimp only [Option.elim]
          by_cases hmem : env.sinMemoria env.reversa.length = true
          · rw [if_pos hmem, if_pos ⟨hpide, Or.inr ⟨hnone, hmem⟩⟩]
            exact ⟨hcons, rfl⟩
          · rw [if_neg hmem, if_neg fun h => h.2.elim hdet fun h => hmem h.2, reverseEntry, hlast]
            exact ⟨⟨hcons.rv, hcons.dichos⟩, rfl⟩
  · rw [if_neg (show ¬ (_ ∧ _ ∧ _) from hpide), if_neg hpide, if_neg fun h => hpide h.1]
    exact ⟨Conserva.refl s, rfl⟩

lemma hayRuta_iff :
    hayRuta env pkt ↔ (env.salida.find? fun rt => rt.dst = pkt.dst ∧ rt.gtw ≠ pkt.dst).isSome := by
  simp [hayRuta, List.find?_isSome]

/-- **A packet that is not consumed**: it goes through when the search for its reverse entry says so or it
has come to its destination, and is routed otherwise. -/
lemma encaminar_eq (env : EntornoRoute) (n : Node) (pkt : PaqueteIp) (s : EstadoRoute) :
    s.encaminar env n pkt =
      let u := (s.entradaReversa env n pkt).1
      if s.seDetiene env n pkt ∨ pkt.dst = n.primAddr then some (some rvAccept, u)
      else
        match env.salida.find? fun rt => rt.dst = pkt.dst ∧ rt.gtw ≠ pkt.dst with
        | none => (u.sendToNextNeighbor env n pkt 0).map fun s => (some rvAccept, s)
        | some rt => (u.seguirRuta env n pkt rt).bind
            (unir env pkt (if s.pideReversa env n pkt then some (reverseEntry env pkt) else none)) := by
  obtain ⟨-, hres⟩ := entradaReversa_eq env n pkt s
  unfold encaminar
  generalize s.entradaReversa env n pkt = r at hres
  obtain ⟨u, r⟩ := r
  dsimp only at hres ⊢
  by_cases hdet : s.seDetiene env n pkt
  · rw [if_pos hdet] at hres
    rw [if_pos (Or.inl hdet), hres]
  · rw [if_neg hdet] at hres
    rw [hres]
    dsimp only
    by_cases hdst : pkt.dst = n.primAddr
    · rw [if_pos hdst, if_pos (Or.inr hdst)]
    · rw [if_neg hdst, if_neg (not_or.mpr ⟨hdet, hdst⟩)]

/-- What it says when it returns. -/
lemma encaminar_eq_some {v : Option ℤ} (h : s.encaminar env n pkt = some (v, s')) :
    Conserva s s' ∧ (v = if s.llegaAlFinal env n pkt then none else some rvAccept)
      ∧ (s.seDetiene env n pkt ∨ pkt.dst = n.primAddr
        ∨ (s.entradaReversa env n pkt).1.vecinosVuelven env n pkt) := by
  obtain ⟨hcons, -⟩ := entradaReversa_eq env n pkt s
  rw [encaminar_eq] at h
  dsimp only at h
  by_cases hpasa : s.seDetiene env n pkt ∨ pkt.dst = n.primAddr
  · rw [if_pos hpasa] at h
    obtain ⟨rfl, rfl⟩ := Prod.mk.inj (Option.some.inj h)
    refine ⟨hcons, (if_neg fun hfin => ?_).symm, or_assoc.mp (Or.inl hpasa)⟩
    exact hpasa.elim hfin.1 hfin.2.1
  rw [if_neg hpasa] at h
  cases hfind : env.salida.find? fun rt => rt.dst = pkt.dst ∧ rt.gtw ≠ pkt.dst with
  | none =>
      have hno : ¬ hayRuta env pkt := by
        rw [hayRuta_iff, hfind]
        exact Bool.false_ne_true
      rw [hfind] at h
      obtain ⟨w, hw, heq⟩ := Option.map_eq_some_iff.mp h
      obtain ⟨rfl, rfl⟩ := Prod.mk.inj heq
      refine ⟨hcons.trans (conserva_sendToNextNeighbor hw), (if_neg fun hfin => hno hfin.2.2.1).symm,
        Or.inr (Or.inr ?_)⟩
      rw [vecinosVuelven, hfind]
      exact Option.isSome_of_eq_some hw
  | some rt =>
      have hhay : hayRuta env pkt := by
        rw [hayRuta_iff, hfind]
        rfl
      rw [hfind] at h
      obtain ⟨w, hw, hun⟩ := Option.bind_eq_some_iff.mp h
      obtain ⟨hcons', hv⟩ := unir_eq_some hun
      refine ⟨(hcons.trans (conserva_seguirRuta hw)).trans hcons', ?_, Or.inr (Or.inr ?_)⟩
      · obtain ⟨hdet, hdst⟩ := not_or.mp hpasa
        rw [hv]
        refine if_congr ⟨fun hall => ⟨hdet, hdst, hhay, fun hpide => ?_⟩, fun hfin e he => ?_⟩ rfl rfl
        · exact hall _ (by rw [if_pos hpide]; rfl)
        · split_ifs at he with hpide
          · obtain rfl := Option.mem_some_iff.mp he
            exact hfin.2.2.2 hpide
          · exact absurd he (Option.not_mem_none e)
      · rw [vecinosVuelven, hfind]
        exact Option.isSome_of_eq_some hw

/-- It returns, but for the end of the function. -/
lemma isSome_encaminar (hv : s.seDetiene env n pkt ∨ pkt.dst = n.primAddr
      ∨ (s.entradaReversa env n pkt).1.vecinosVuelven env n pkt)
    (hfin : ¬ s.llegaAlFinal env n pkt) : (s.encaminar env n pkt).isSome := by
  rw [encaminar_eq]
  dsimp only
  by_cases hpasa : s.seDetiene env n pkt ∨ pkt.dst = n.primAddr
  · rw [if_pos hpasa]
    rfl
  rw [if_neg hpasa]
  have hvuelven := (or_assoc.mpr hv).resolve_left hpasa
  cases hfind : env.salida.find? fun rt => rt.dst = pkt.dst ∧ rt.gtw ≠ pkt.dst with
  | none =>
      rw [vecinosVuelven, hfind] at hvuelven
      rw [Option.isSome_map]
      exact hvuelven
  | some rt =>
      have hhay : hayRuta env pkt := by
        rw [hayRuta_iff, hfind]
        rfl
      rw [vecinosVuelven, hfind] at hvuelven
      obtain ⟨w, hw⟩ := Option.isSome_iff_exists.mp hvuelven
      obtain ⟨hdet, hdst⟩ := not_or.mp hpasa
      have hno : ¬ s.seUne env n pkt := fun hune => hfin ⟨hdet, hdst, hhay, hune⟩
      have hpide : s.pideReversa env n pkt := by
        by_contra hpide
        exact hno fun h => absurd h hpide
      have hidx : (env.union.findIdx? fun rt =>
          rt.dst = (reverseEntry env pkt).1 ∧ rt.gtw = (reverseEntry env pkt).2) = none := by
        rw [List.findIdx?_eq_none_iff]
        intro rt hrt
        exact decide_eq_false fun hmatch => hno fun _ => ⟨rt, hrt, hmatch⟩
      dsimp only
      rw [hw, Option.bind_some, if_pos hpide, unir, hidx]
      rfl

/-- **What `rv_route` is asked**: it consumes the packet, or has accepted it if it has been asked at all. -/
lemma consultarRv_eq (env : EntornoRoute) (n : Node) (pkt : PaqueteIp) (s : EstadoRoute) :
    s.consultarRv env n pkt =
      if consumible n pkt then
        (procesarRv env.rv (pkt.trama n.primAddr) s.rv).map fun rv =>
          (true, { s with rv := rv, dichos := s.dichos ++ [rvDrop] })
      else some (false, s.trasRv n pkt) := by
  unfold consultarRv
  by_cases hask : preguntaRv n pkt
  · rw [if_pos (show _ ∧ _ from hask), rvRoute_eq]
    by_cases hown : n.responde pkt.dst ∧ ¬ n.soloRecupera pkt.dst
    · rw [if_pos hown, if_pos ⟨hask, hown⟩, Option.map_map]
      rfl
    · rw [if_neg hown, if_neg fun h => hown h.2, trasRv, if_pos hask]
      rfl
  · rw [if_neg (show ¬ (_ ∧ _) from hask), if_neg fun h => hask h.1, trasRv, if_neg hask, List.append_nil]

lemma route_of_pasaDirecto (h : pasaDirecto env n pkt) (s : EstadoRoute) :
    ∃ s', s.route env n pkt = some (some rvAccept, s') ∧ s'.dichos = s.dichos := by
  unfold route
  split_ifs with h₁ h₂ h₃ h₄
  · exact ⟨s, rfl, rfl⟩
  · exact ⟨s, rfl, rfl⟩
  · exact ⟨s, rfl, rfl⟩
  · exact ⟨_, rfl, (conserva_devolver s).dichos⟩
  · rcases h with h | h | h | h
    · exact absurd h h₁
    · exact absurd h h₂
    · exact absurd h h₃
    · exact absurd h h₄

/-- **What `route` does**: it lets the packet through at once, `rv_route` consumes it, or it is routed. -/
lemma route_cases (env : EntornoRoute) (n : Node) (pkt : PaqueteIp) (s : EstadoRoute) :
    pasaDirecto env n pkt ∧ (∃ s', s.route env n pkt = some (some rvAccept, s') ∧ s'.dichos = s.dichos)
      ∨ ¬ pasaDirecto env n pkt ∧ consumible n pkt
        ∧ (s.route env n pkt = (procesarRv env.rv (pkt.trama n.primAddr) s.rv).map fun rv =>
          (some rvDrop, { s with rv := rv, dichos := s.dichos ++ [rvDrop] }))
      ∨ ¬ pasaDirecto env n pkt ∧ ¬ consumible n pkt
        ∧ s.route env n pkt = (s.trasRv n pkt).encaminar env n pkt := by
  by_cases hpasa : pasaDirecto env n pkt
  · exact Or.inl ⟨hpasa, route_of_pasaDirecto hpasa s⟩
  have hroute : s.route env n pkt = (s.consultarRv env n pkt).bind fun p =>
      if p.1 then some (some rvDrop, p.2) else p.2.encaminar env n pkt := by
    unfold pasaDirecto at hpasa
    simp only [not_or] at hpasa
    rw [route, if_neg hpasa.1, if_neg hpasa.2.1, if_neg hpasa.2.2.1, if_neg hpasa.2.2.2]
  rw [hroute, consultarRv_eq]
  by_cases hcons : consumible n pkt
  · refine Or.inr (Or.inl ⟨hpasa, hcons, ?_⟩)
    rw [if_pos hcons, Option.bind_map, Option.map_eq_bind]
    rfl
  · refine Or.inr (Or.inr ⟨hpasa, hcons, ?_⟩)
    rw [if_neg hcons]
    rfl

/-! ## The verdict -/

/-- `rv_route` has consumed the packet in this call. -/
def Consumido (s s' : EstadoRoute) : Prop := s'.dichos = s.dichos ++ [rvDrop]

/-- The verdict on a packet: there is one, it is `RV_DROP` exactly when `rv_route` has consumed the packet,
and no other packet is dropped by `print_pkt`. -/
structure Veredicto (env : EntornoRoute) (n : Node) (pkt : PaqueteIp) (s : EstadoRoute) : Prop where
  vuelve : ∃ v s', s.route env n pkt = some (some v, s') ∧ (v = rvAccept ∨ v = rvDrop)
    ∧ (v = rvDrop ↔ Consumido s s')
  accept : ∀ basura v s', s.route env n pkt = some (v, s') →
    printPktAccept env.hook basura v = false → Consumido s s'

/-- A verdict that is given is right in `print_pkt`, too. -/
lemma veredicto_of_route {v : ℤ} (h : s.route env n pkt = some (some v, s')) (hv : v = rvAccept ∨ v = rvDrop)
    (hcons : v = rvDrop ↔ Consumido s s') : Veredicto env n pkt s := by
  refine ⟨⟨v, s', h, hv, hcons⟩, fun basura w u hu hacc => ?_⟩
  obtain ⟨rfl, rfl⟩ := Prod.mk.inj (Option.some.inj (h.symm.trans hu))
  have hdrop : env.hook = nfIp6PreRouting ∧ v = rvDrop := by simpa [printPktAccept] using hacc
  exact hcons.mp hdrop.2

/-- A packet that `rv_route` has not consumed. -/
lemma not_consumido_of_accept (h : s'.dichos = s.dichos ∨ s'.dichos = s.dichos ++ [rvAccept]) :
    ¬ Consumido s s' := by
  unfold Consumido
  rcases h with h | h
  · simp [h]
  · rw [h, List.append_cancel_left_eq]
    decide

/-- **The verdict** is right exactly when the functions that `route` calls return and the packet does not
come to the end of it. -/
theorem veredicto_iff (env : EntornoRoute) (n : Node) (pkt : PaqueteIp) (s : EstadoRoute) :
    Veredicto env n pkt s ↔ s.vuelven env n pkt ∧ ¬ s.sinReturn env n pkt := by
  have hacepta {u : EstadoRoute} (hu : s.route env n pkt = some (some rvAccept, u))
      (hd : u.dichos = s.dichos ∨ u.dichos = s.dichos ++ [rvAccept]) : Veredicto env n pkt s :=
    veredicto_of_route hu (Or.inl rfl)
      (iff_of_false rvAccept_ne_rvDrop (not_consumido_of_accept hd))
  rcases route_cases env n pkt s with ⟨hpasa, s', hroute, hd⟩ | ⟨hpasa, hcons, hroute⟩ | ⟨hpasa, hcons, hroute⟩
  · exact iff_of_true (hacepta hroute (Or.inl hd)) ⟨Or.inl hpasa, fun h => h.1 hpasa⟩
  · constructor
    · intro h
      obtain ⟨v, s', hv, -⟩ := h.vuelve
      rw [hroute] at hv
      refine ⟨Or.inr (Or.inl ⟨hcons, ?_⟩), fun h => h.2.1 hcons⟩
      rw [← Option.isSome_map, hv]
      rfl
    · rintro ⟨hv, -⟩
      have hproc := ((hv.resolve_left hpasa).resolve_right fun h => h.1 hcons).2
      obtain ⟨rv, hrv⟩ := Option.isSome_iff_exists.mp hproc
      rw [hrv] at hroute
      exact veredicto_of_route hroute (Or.inr rfl) (iff_of_true rfl rfl)
  · -- the packet is only routed
    constructor
    · intro h
      obtain ⟨v, s', hv, -⟩ := h.vuelve
      rw [hroute] at hv
      obtain ⟨-, hverd, hvuelven⟩ := encaminar_eq_some hv
      refine ⟨Or.inr (Or.inr ⟨hcons, hvuelven⟩), fun hsin => ?_⟩
      rw [if_pos (show (s.trasRv n pkt).llegaAlFinal env n pkt from hsin.2.2)] at hverd
      exact absurd hverd (by simp)
    · rintro ⟨hv, hsin⟩
      have hvuelven := ((hv.resolve_left hpasa).resolve_left fun h => hcons h.1).2
      have hfin : ¬ (s.trasRv n pkt).llegaAlFinal env n pkt := fun h => hsin ⟨hpasa, hcons, h⟩
      obtain ⟨⟨v, s'⟩, hres⟩ := Option.isSome_iff_exists.mp (isSome_encaminar hvuelven hfin)
      obtain ⟨hconserva, hverd, -⟩ := encaminar_eq_some hres
      rw [if_neg hfin] at hverd
      subst hverd
      refine hacepta (hroute.trans hres) ?_
      rw [hconserva.dichos, trasRv]
      split_ifs
      · exact Or.inr rfl
      · exact Or.inl (List.append_nil _)

/-- A packet from a neighbour that arrives at a node with a route to its destination. -/
def paqueteVecino : PaqueteIp :=
  { src := Ruteo.vecinoNum 16, dst := Ruteo.destino, conOpcion := ⟨0, paqueteUsado, []⟩
    sinOpcion := ⟨0, paqueteUsado, []⟩, fromAddr := Ruteo.vecinoNum 16 }

/-- The route leads to another neighbour. -/
def entornoConRuta : EntornoRoute :=
  { hook := nfIp6PreRouting, rv := ⟨.filled 20 0, .filled 20 0, paqueteUsado⟩
    reversa := [], metric := fun _ => 0, sinMemoria := fun _ => false, vuelta := []
    salida := [⟨Ruteo.destino, Ruteo.vecinoNum 3, 128, 1⟩], gtwTras := fun _ => .zero
    siguiente := fun _ => Ruteo.entorno, union := [], info := Ruteo.memoriaGtw, clock := ⟨0, 0⟩ }

/-- `route` has no verdict on it. -/
theorem routed_without_verdict :
    ¬ ∀ (env : EntornoRoute) (n : Node) (pkt : PaqueteIp) (s : EstadoRoute), Veredicto env n pkt s := by
  intro h
  obtain ⟨v, s', hv, -⟩ :=
    (h entornoConRuta .hijo paqueteVecino ⟨Ruteo.tresVecinos, ⟨[], [], []⟩, ⟨0, 9⟩, []⟩).vuelve
  have hnone : (route entornoConRuta .hijo paqueteVecino
      ⟨Ruteo.tresVecinos, ⟨[], [], []⟩, ⟨0, 9⟩, []⟩).map Prod.fst = some none := by decide
  rw [hv] at hnone
  exact absurd hnone (by simp)

end EstadoRoute

end Antop
