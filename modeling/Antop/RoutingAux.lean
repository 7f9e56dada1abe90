import Antop.Rendezvous
import Antop.TimerLinks

/-!
# The auxiliary routing table

For each destination the daemon routes packets to, `rt_info` has an entry with the neighbours that
have been tried; the routes themselves are in the table of the kernel.  Entries and routes go again
when their timers expire.

* `Ruteo` — the neighbour table, `rt_info`, the routes of the kernel and the timers of both.
* `addRtRoute`, `delRtRoute`, `delRtRoute2` — the routes of the kernel, a set.
* `addRtInfo`, `delRtInfo`, `clearVb` — the entries.
* `sendToNextNeighbor` — the choice of the neighbour that a packet goes to.
* `Ruteo.step` — one of these, a change of the neighbour table, or the expiry of a timer.

Memory that is read before it is written has any value: `gtw` in a new entry, `gtw` and `distance` in
the parameters of its timer, and what stands in the stack where `add_rt_info` takes the address of its
pointer `dst` for that of the destination.
-/

namespace Antop

/-- `MAX_NEIGHBORS`. -/
def maxNeighbors : ℕ := 128

/-- `T_VB`. -/
def tVb : ℤ := 1400

/-- `T_ROUTE`. -/
def tRoute : ℤ := 3000

/-- `MAX_TTL`. -/
def maxTtl : ℤ := 10

/-- `NEIGHBORS_BEFORE_PARENT`. -/
def neighborsBeforeParent : ℕ := 2

/-- `struct rt_route_param`; the kernel has its routes under the same four values. -/
structure RtRouteParam where
  dst : In6Addr
  gtw : In6Addr
  mask : UChar
  distance : ℤ
deriving DecidableEq

/-- `struct rt_aux_info`.  `id` is the address of the entry, and `probados` the neighbours that were
tried for its destination, or delivered a packet for it, since its bitmap was cleared. -/
structure RtAuxInfo where
  id : ℕ
  src : In6Addr
  dst : In6Addr
  gtw : In6Addr
  visitedBitmap : Fin maxNeighbors → Bool
  count : ℕ
  routeId : UChar
  probados : List In6Addr

/-- The timers: two of them are parts of an entry, and `add_rt_route` allocates others. -/
inductive RtTimerId
  | vbT (entry : ℕ)
  | routeT (entry : ℕ)
  | rtRouteT (n : ℕ)
deriving DecidableEq

/-- The entry a timer is a part of. -/
def RtTimerId.entry : RtTimerId → Option ℕ
  | .vbT i => some i
  | .routeT i => some i
  | .rtRouteT _ => none

/-- A queued timer with the data of its handler. -/
structure RtTimer where
  id : RtTimerId
  data : RtRouteParam
  timeout : Timeval

/-- The variables of the routing.  `altas` holds the calls of `add_rt_route` with their times, the
latest first, and `now` the time of the last `timer_timeout`. -/
structure Ruteo where
  neighTable : List Neighbor
  rtInfo : List RtAuxInfo
  kernel : Finset RtRouteParam
  tq : List RtTimer
  expiredTQ : List RtTimer
  mallocs : ℕ
  altas : List (RtRouteParam × Timeval)
  now : Timeval

namespace Ruteo

/-! ## Timers -/

/-- The place of a new timer: before the first one with a later deadline. -/
def insertar (t : RtTimer) : List RtTimer → List RtTimer
  | [] => [t]
  | curr :: rest =>
      if timevalDiff t.timeout curr.timeout < 0 then t :: curr :: rest else curr :: insertar t rest

/-- `timer_add_msec` for a timer that is not in use. -/
def armar (id : RtTimerId) (data : RtRouteParam) (msec : ℤ) (clock : Timeval) (s : Ruteo) : Ruteo :=
  { s with tq := insertar { id := id, data := data, timeout := (Arma.mk id msec clock).timeout } s.tq }

/-- The first loop of `timer_timeout`, which does not run while the handlers of an earlier one do. -/
def cortar (now : Timeval) (s : Ruteo) : Ruteo :=
  if s.expiredTQ = [] then
    { s with
      tq := s.tq.dropWhile fun t => timevalDiff t.timeout now ≤ 0
      expiredTQ := s.tq.takeWhile fun t => timevalDiff t.timeout now ≤ 0, now := now }
  else s

/-! ## Entries and routes -/

/-- A new bitmap. -/
def RtAuxInfo.limpiar (e : RtAuxInfo) : RtAuxInfo :=
  { e with visitedBitmap := fun _ => false, probados := [] }

/-- `clear_vb`: the first entry for the destination. -/
def clearVb (dst : In6Addr) (s : Ruteo) : Ruteo :=
  { s with rtInfo := s.rtInfo.replaceF fun e => if e.dst = dst then some (RtAuxInfo.limpiar e) else none }

/-- `del_rt_info`: the first entry with the destination and the gateway. -/
def delRtInfo (dst gtw : In6Addr) (s : Ruteo) : Ruteo :=
  { s with rtInfo := s.rtInfo.eraseP fun e => e.dst = dst ∧ e.gtw = gtw }

/-- `add_rt_route`. -/
def addRtRoute (r : RtRouteParam) (clock : Timeval) (s : Ruteo) : Ruteo :=
  { s with
    kernel := insert r s.kernel, altas := (r, clock) :: s.altas
    mallocs := s.mallocs + 1 }.armar (.rtRouteT s.mallocs) r tRoute clock

/-- `del_rt_route`. -/
def delRtRoute (r : RtRouteParam) (s : Ruteo) : Ruteo := { s with kernel := s.kernel.erase r }

/-- `del_rt_route2`, the handler of the route timers. -/
def delRtRoute2 (r : RtRouteParam) (s : Ruteo) : Ruteo := (s.delRtRoute r).delRtInfo r.dst r.gtw

/-- What `add_rt_info` does not set before it is used, and the times at which it arms its timers. -/
structure MemInfo where
  trasDst : In6Addr
  gtw : In6Addr
  paramGtw : In6Addr
  paramDistance : ℤ
  clockVb : Timeval
  clockRoute : Timeval

/-- The entry for a destination: the old one under a new destination, which begins anew when it
changes. -/
def RtAuxInfo.actualizar (dst : In6Addr) (src : Option In6Addr) (e : RtAuxInfo) : RtAuxInfo :=
  { e with dst := dst, src := src.getD e.src, probados := if e.dst = dst then e.probados else [] }

/-- The entry `add_rt_info` appends. -/
def nuevaInfo (m : MemInfo) (dst : In6Addr) (src : Option In6Addr) (id : UChar) (n : ℕ) : RtAuxInfo :=
  { id := n, src := src.getD .zero, dst := dst, gtw := m.gtw, visitedBitmap := fun _ => false, count := 0
    routeId := id, probados := [] }

/-- `add_rt_info`, with the entry it returns.  All entries but the last are compared with what stands
at `&dst`; without any entry it reads a null pointer. -/
def addRtInfo (m : MemInfo) (dst : In6Addr) (src : Option In6Addr) (id : UChar) (s : Ruteo) :
    Option (Ruteo × ℕ) :=
  if s.rtInfo = [] then none
  else
    match s.rtInfo.dropLast.find? fun e => e.dst = m.trasDst with
    | some e =>
        some ({ s with
          rtInfo := s.rtInfo.replaceF fun e =>
            if e.dst = m.trasDst then some (RtAuxInfo.actualizar dst src e) else none }.clearVb dst, e.id)
    | none =>
        let n := s.mallocs
        let s := { s with rtInfo := s.rtInfo ++ [nuevaInfo m dst src id n], mallocs := n + 1 }
        let s := s.armar (.vbT n) ⟨dst, .zero, 0, 0⟩ tVb m.clockVb
        some (s.armar (.routeT n) ⟨dst, m.paramGtw, 128, m.paramDistance⟩ tRoute m.clockRoute, n)

/-! ## `send_to_next_neighbor` -/

/-- A packet: its addresses, the last hop, and the bytes that stand where a rendezvous packet has its
type, with and without the option header. -/
structure Paquete where
  src : In6Addr
  dst : In6Addr
  fromAddr : In6Addr
  udp : UChar
  udpSinOpcion : UChar

/-- What the function reads from elsewhere: the own address, what `rt_table_dump` answers each time,
the times, and memory nobody has written. -/
structure EntornoRuta where
  primAddr : In6Addr
  volcado : ℕ → List RtRouteParam
  clock : Timeval
  info : MemInfo
  mem : SinIniciar

/-- `a1`, the gateway of a route without one. -/
def sinGtw : In6Addr := .ofWords 0x0120 0xb80d 0 0 0 0 0 0

/-- The search for the route with the shortest distance, from position `aux` on. -/
def mejorRuta (dst : In6Addr) : List RtRouteParam → ℕ → Option ℕ → ℤ → Option ℕ
  | [], _, best, _ => best
  | rt :: rts, aux, best, minDist =>
      if rt.distance < minDist ∧ rt.dst = dst then mejorRuta dst rts (aux + 1) (some aux) rt.distance
      else mejorRuta dst rts (aux + 1) best minDist

/-- The last position of a route to `dst`. -/
def ultimaRuta (dst : In6Addr) : List RtRouteParam → ℕ → Option ℕ → Option ℕ
  | [], _, rtId => rtId
  | rt :: rts, i, rtId => ultimaRuta dst rts (i + 1) (if rt.dst = dst then some i else rtId)

/-- A route to the destination, that has a gateway. -/
def hayRuta (env : EntornoRuta) (pkt : Paquete) : Prop :=
  ∃ rt ∈ env.volcado 0, rt.dst = pkt.dst ∧ rt.gtw ≠ pkt.dst

instance (env : EntornoRuta) (pkt : Paquete) : Decidable (hayRuta env pkt) :=
  inferInstanceAs (Decidable (∃ rt ∈ env.volcado 0, rt.dst = pkt.dst ∧ rt.gtw ≠ pkt.dst))

/-- The state after a route has been added where there is none, with `rt_id`, and `best` where there is
one; the function returns when it does not find the route it has added. -/
def rutaPara (env : EntornoRuta) (pkt : Paquete) (s : Ruteo) : Ruteo × Option (Option ℕ × Option ℕ) :=
  if hayRuta env pkt then
    let best := mejorRuta pkt.dst (env.volcado 1) 0 none (maxTtl + 1)
    (s, some (best, best))
  else
    (s.addRtRoute ⟨pkt.dst, sinGtw, 128, maxTtl⟩ env.clock,
      (ultimaRuta pkt.dst (env.volcado 1) 0 none).map fun rtId => (some rtId, none))

/-- `rt_info_aux`: the entry with the number of the route, or a new one. -/
def infoPara (env : EntornoRuta) (pkt : Paquete) (rtId best : Option ℕ) (s : Ruteo) :
    Option (Ruteo × ℕ) :=
  match best.bind fun best => s.rtInfo.find? fun e => e.routeId.toNat = best with
  | some e => some (s, e.id)
  | none => s.addRtInfo env.info pkt.dst none (rtId.elim (BitVec.ofInt 8 (-1)) (BitVec.ofNat 8))

/-- A position of the bitmap is set, for the neighbour `addr` that is there. -/
def RtAuxInfo.marcar (i : Fin maxNeighbors) (dst addr : In6Addr) (e : RtAuxInfo) : RtAuxInfo :=
  { e with
    visitedBitmap := Function.update e.visitedBitmap i true
    probados := if e.dst = dst then addr :: e.probados else e.probados }

/-- `visited_bitmap[i] = 1` in the entry `info`; behind the bitmap the write is not its own. -/
def marcar (info i : ℕ) (dst addr : In6Addr) (s : Ruteo) : Option Ruteo :=
  if h : i < maxNeighbors then
    some { s with rtInfo := s.rtInfo.map fun e =>
      if e.id = info then RtAuxInfo.marcar ⟨i, h⟩ dst addr e else e }
  else none

/-- The neighbour the packet came from counts as visited. -/
def marcarOrigen (pkt : Paquete) (info : ℕ) (s : Ruteo) : Option Ruteo :=
  match s.neighTable.findIdx? fun it => it.primAddr = pkt.fromAddr with
  | none => some s
  | some i => (s.marcar info i pkt.dst pkt.fromAddr).map fun s =>
      { s with rtInfo := s.rtInfo.map fun e => if e.id = info then { e with count := e.count + 1 } else e }

/-- The neighbours that are available and not visited, with their positions. -/
def porVisitar (e : RtAuxInfo) (s : Ruteo) : List (Fin maxNeighbors × Neighbor) :=
  (List.finRange maxNeighbors).filterMap fun i =>
    match s.neighTable[i.val]? with
    | some it => if it.available ∧ e.visitedBitmap i = false then some (i, it) else none
    | none => none

/-- All have been visited: the routes to the destination lead back to where the packet came from. -/
def devolver (env : EntornoRuta) (pkt : Paquete) (s : Ruteo) : Ruteo :=
  (env.volcado 3).foldl (fun s rt =>
    if rt.dst = pkt.dst then
      (s.addRtRoute { rt with gtw := pkt.fromAddr, mask := 128 } env.clock).delRtRoute rt
    else s) s

/-- `RV_REG`, `RV_ADDR_LOOKUP` and `RV_ADDR_SOLVE`. -/
def tiposRv : List UChar := [9, 10, 11]

/-- Whether the packet is one of the rendezvous. -/
def esRv (env : EntornoRuta) (pkt : Paquete) : Bool :=
  (if pkt.src ≠ env.primAddr then pkt.udpSinOpcion else pkt.udp) ∈ tiposRv

/-- The distance of a neighbour to the destination. -/
def distancia (env : EntornoRuta) (pkt : Paquete) (it : Neighbor) : ℕ :=
  if esRv env pkt then distWMask { env.mem with primMask := it.primMask } pkt.dst it.primAddr
  else dist pkt.dst it.primAddr

/-- The search for the neighbour closest to the destination. -/
def masCercano (env : EntornoRuta) (pkt : Paquete) (its : List (Fin maxNeighbors × Neighbor)) :
    Option (Fin maxNeighbors) × ℕ :=
  its.foldl (fun p c =>
    let d := distancia env pkt c.2
    if d < p.2 ∨ d = p.2 ∧ checkAddrSpace pkt.dst c.2.primAddr c.2.primMask = 0 then (some c.1, d) else p)
    (none, 10000)

/-- `nh_idx`: among the first ones the closest neighbour, then the parent, then the others. -/
def elegirVecino (env : EntornoRuta) (pkt : Paquete) (e : RtAuxInfo) (s : Ruteo) :
    Option (Fin maxNeighbors) :=
  if e.count < neighborsBeforeParent then (masCercano env pkt (s.porVisitar e)).1
  else (s.porVisitar e).head?.map Prod.fst

/-- The route to the chosen neighbour is installed, if the one in its place is for the destination. -/
def instalar (env : EntornoRuta) (pkt : Paquete) (info : ℕ) (rtId : Option ℕ) (nhIdx : Fin maxNeighbors)
    (s : Ruteo) : Option Ruteo := do
  let rt ← (← rtId.map fun i => (env.volcado 4)[i]?)
  if rt.dst ≠ pkt.dst then return s
  else
    let it ← s.neighTable[nhIdx.val]?
    let s := (s.delRtRoute rt).addRtRoute { rt with gtw := it.primAddr, mask := 128 } env.clock
    s.marcar info nhIdx pkt.dst it.primAddr

/-- `send_to_next_neighbor`, as far as it changes the routing: the packet itself and the table of
source addresses are left out. -/
def sendToNextNeighbor (env : EntornoRuta) (pkt : Paquete) (s : Ruteo) : Option Ruteo :=
  if s.neighTable = [] then some s
  else
    match s.rutaPara env pkt with
    | (s, none) => some s
    | (s, some (rtId, best)) => do
        let (s, info) ← s.infoPara env pkt rtId best
        let s ← s.marcarOrigen pkt info
        let e ← s.rtInfo.find? fun e => e.id = info
        if s.porVisitar e = [] then return s.devolver env pkt
        else
          match s.elegirVecino env pkt e with
          | none => return s
          | some nhIdx => s.instalar env pkt info rtId nhIdx

/-! ## Runs -/

/-- The handler of a timer. -/
def atender (t : RtTimer) (s : Ruteo) : Ruteo :=
  match t.id with
  | .vbT _ => s.clearVb t.data.dst
  | .routeT _ => s.delRtRoute2 t.data
  | .rtRouteT _ => s.delRtRoute2 t.data

/-- What happens to the routing: the calls of its functions, the changes of the neighbour table, and
`timer_timeout` with the handlers it runs, one `fire` each. -/
inductive Evento
  | addRtRoute (r : RtRouteParam) (clock : Timeval)
  | delRtRoute (r : RtRouteParam)
  | addRtInfo (m : MemInfo) (dst : In6Addr) (src : Option In6Addr) (id : UChar)
  | clearVb (dst : In6Addr)
  | delRtRoute2 (r : RtRouteParam)
  | sendToNextNeighbor (env : EntornoRuta) (pkt : Paquete)
  | addNeighbor (msg : CtrlPkt) (secFlag : Bool)
  | deleteNeighbor (addr : In6Addr)
  | timeout (now : Timeval)
  | fire

/-- The neighbour table after `init_neigh_table`, when it is missing, and `add_neighbor`. -/
def addNeighbor (msg : CtrlPkt) (secFlag : Bool) (s : Ruteo) : Option Ruteo :=
  if s.neighTable = [] then some { s with neighTable := [newNeighbor msg secFlag] }
  else (addNeighborTable msg secFlag s.neighTable).map fun t => { s with neighTable := t }

/-- The neighbour table after `delete_neighbor`. -/
def deleteNeighbor (addr : In6Addr) (s : Ruteo) : Ruteo :=
  { s with neighTable := (deleteEntry addr (s.neighTable, [])).1 }

/-- An event other than `fire`. -/
def llamar (s : Ruteo) : Evento → Option Ruteo
  | .addRtRoute r clock => some (s.addRtRoute r clock)
  | .delRtRoute r => some (s.delRtRoute r)
  | .addRtInfo m dst src id => (s.addRtInfo m dst src id).map Prod.fst
  | .clearVb dst => some (s.clearVb dst)
  | .delRtRoute2 r => some (s.delRtRoute2 r)
  | .sendToNextNeighbor env pkt => s.sendToNextNeighbor env pkt
  | .addNeighbor msg secFlag => s.addNeighbor msg secFlag
  | .deleteNeighbor addr => some (s.deleteNeighbor addr)
  | .timeout now => some (s.cortar now)
  | .fire => some s

/-- One step.  While `timer_timeout` runs its handlers, nothing else happens. -/
def step (s : Ruteo) (ev : Evento) : Option Ruteo :=
  match s.expiredTQ with
  | [] => s.llamar ev
  | tmp :: rest =>
      match ev with
      | .fire => some (atender tmp { s with expiredTQ := rest })
      | _ => some s

/-- The routing as `rt_info_init` leaves it: the entries are those of the kernel's routes, without
timers. -/
structure Inicial (s : Ruteo) : Prop where
  ids : (s.rtInfo.map RtAuxInfo.id).Nodup
  mallocs : ∀ e ∈ s.rtInfo, e.id < s.mallocs
  limpias : ∀ e ∈ s.rtInfo, ∀ i, e.visitedBitmap i = false
  tq : s.tq = []
  expiredTQ : s.expiredTQ = []
  altas : s.altas = []

/-- **What a step can do.** -/
lemma step_cases {s s' : Ruteo} {ev : Evento} (h : s.step ev = some s') :
    s.expiredTQ = [] ∧ ev ≠ .fire ∧ s.llamar ev = some s'
      ∨ (∃ tmp rest, s.expiredTQ = tmp :: rest ∧ ev = .fire
        ∧ s' = atender tmp { s with expiredTQ := rest })
      ∨ (s.expiredTQ = [] ↔ ev = .fire) ∧ s' = s := by
  unfold step at h
  cases hexp : s.expiredTQ with
  | nil =>
      rw [hexp] at h
      by_cases hev : ev = .fire
      · subst hev
        exact Or.inr (Or.inr ⟨by simp, (Option.some.inj h).symm⟩)
      · exact Or.inl ⟨rfl, hev, h⟩
  | cons tmp rest =>
      rw [hexp] at h
      cases ev with
      | fire => exact Or.inr (Or.inl ⟨tmp, rest, rfl, rfl, (Option.some.inj h).symm⟩)
      | _ => exact Or.inr (Or.inr ⟨by simp, (Option.some.inj h).symm⟩)

/-- What `instalar` can do. -/
lemma instalar_cases {s s' : Ruteo} {env : EntornoRuta} {pkt : Paquete} {info : ℕ} {rtId : Option ℕ}
    {nhIdx : Fin maxNeighbors} (h : s.instalar env pkt info rtId nhIdx = some s') :
    s' = s ∨ ∃ rt r it, s.neighTable[nhIdx.val]? = some it
      ∧ ((s.delRtRoute rt).addRtRoute r env.clock).marcar info nhIdx pkt.dst it.primAddr = some s' := by
  unfold instalar at h
  obtain ⟨o, -, h⟩ := Option.bind_eq_some_iff.mp h
  obtain ⟨rt, -, h⟩ := Option.bind_eq_some_iff.mp h
  dsimp only at h
  split_ifs at h
  · exact Or.inl (Option.some.inj h).symm
  · obtain ⟨it, hit, h⟩ := Option.bind_eq_some_iff.mp h
    exact Or.inr ⟨rt, _, it, hit, h⟩

/-- **What `send_to_next_neighbor` can do.** -/
lemma sendToNextNeighbor_cases {s s' : Ruteo} {env : EntornoRuta} {pkt : Paquete}
    (h : s.sendToNextNeighbor env pkt = some s') :
    s.neighTable = [] ∧ s' = s
      ∨ s.neighTable ≠ [] ∧ s.rutaPara env pkt = (s', none)
      ∨ s.neighTable ≠ [] ∧ ∃ u rtId best v info w, s.rutaPara env pkt = (u, some (rtId, best))
        ∧ u.infoPara env pkt rtId best = some (v, info) ∧ v.marcarOrigen pkt info = some w
        ∧ (s' = w ∨ s' = w.devolver env pkt
          ∨ ∃ nhIdx e, w.elegirVecino env pkt e = some nhIdx
            ∧ w.instalar env pkt info rtId nhIdx = some s') := by
  unfold sendToNextNeighbor at h
  split_ifs at h with hnil
  · exact Or.inl ⟨hnil, (Option.some.inj h).symm⟩
  · split at h
    · rename_i u heq
      obtain rfl := Option.some.inj h
      exact Or.inr (Or.inl ⟨hnil, heq⟩)
    · rename_i u rtId best heq
      obtain ⟨⟨v, info⟩, hv, h⟩ := Option.bind_eq_some_iff.mp h
      obtain ⟨w, hw, h⟩ := Option.bind_eq_some_iff.mp h
      obtain ⟨e, -, h⟩ := Option.bind_eq_some_iff.mp h
      refine Or.inr (Or.inr ⟨hnil, u, rtId, best, v, info, w, heq, hv, hw, ?_⟩)
      split_ifs at h
      · exact Or.inr (Or.inl (Option.some.inj h).symm)
      · cases hch : w.elegirVecino env pkt e with
        | none =>
            rw [hch] at h
            exact Or.inl (Option.some.inj h).symm
        | some nhIdx =>
            rw [hch] at h
            exact Or.inr (Or.inr ⟨nhIdx, e, hch, h⟩)

end Ruteo

end Antop
