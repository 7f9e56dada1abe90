import Antop.NextHop

/-!
# The reverse entry

When all neighbours have been visited, `send_to_next_neighbor` looks for the reverse entry of the packet:
a route to its source whose auxiliary entry names its destination as source.  The `for` that looks for
the auxiliary entry has no semicolon, and what should be done with the entry it finds is its body: it is
done with those it passes over.

* `Cabecera` — the bytes of the packet that change.
* `buscarAux`, `buscarInversa` — the two loops; `devolverPkt` — the branch.
* `pasaPorAlto` — a route for which an entry that is passed over names the destination.
* `buscarInversa_eq` — what the search does, `devolverPkt_snd` — the packet goes where it came from.
* `retrocede_iff` — when that is right.
-/

namespace Antop

/-! ## The packet -/

/-- The bytes of a packet that change on its way: the flags and the hop count. -/
structure Cabecera where
  flags : UChar
  ttl : UChar
deriving DecidableEq

/-- `MASK_IR`. -/
def maskIr : UChar := 1

namespace Cabecera

/-- `set_returned`. -/
def setReturned (c : Cabecera) : Cabecera := { c with flags := c.flags ||| maskIr }

/-- The packet is marked as returned and gets its hop back. -/
def devuelta (c : Cabecera) : Cabecera := { c.setReturned with ttl := c.ttl + 1 }

/-- `n` times. -/
def devueltaVeces (c : Cabecera) (n : ℕ) : Cabecera :=
  { flags := if n = 0 then c.flags else c.flags ||| maskIr, ttl := c.ttl + BitVec.ofNat 8 n }

/-- The flag is set. -/
def returned (c : Cabecera) : Prop := c.flags ||| maskIr = c.flags

instance (c : Cabecera) : Decidable c.returned := inferInstanceAs (Decidable (_ = _))

@[simp] lemma devueltaVeces_zero (c : Cabecera) : c.devueltaVeces 0 = c := by
  simp [devueltaVeces]

lemma devuelta_devueltaVeces (c : Cabecera) (n : ℕ) : c.devuelta.devueltaVeces n = c.devueltaVeces (n + 1) := by
  have hor : c.flags ||| maskIr ||| maskIr = c.flags ||| maskIr := by
    rw [BitVec.or_assoc, BitVec.or_self]
  have httl : c.ttl + 1 + BitVec.ofNat 8 n = c.ttl + BitVec.ofNat 8 (n + 1) := by
    rw [BitVec.ofNat_add, BitVec.add_assoc, BitVec.add_comm (1 : UChar)]
    rfl
  unfold devueltaVeces devuelta setReturned
  dsimp only
  rw [hor, httl, if_neg (Nat.succ_ne_zero n), ite_self]

lemma flags_devueltaVeces_iff (c : Cabecera) (n : ℕ) :
    (c.devueltaVeces n).flags = c.flags ↔ n = 0 ∨ c.returned := by
  unfold devueltaVeces returned
  by_cases hn : n = 0
  · simp [hn]
  · simp [hn]

lemma flags_devueltaVeces_or_iff (c : Cabecera) (n : ℕ) :
    (c.devueltaVeces n).flags = c.flags ||| maskIr ↔ 0 < n ∨ c.returned := by
  unfold devueltaVeces returned
  by_cases hn : n = 0
  · simp [hn, eq_comm]
  · simp [hn, Nat.pos_of_ne_zero hn]

lemma ttl_devueltaVeces_iff (c : Cabecera) (n : ℕ) :
    (c.devueltaVeces n).ttl = c.ttl ↔ 256 ∣ n := by
  have hlt := c.ttl.isLt
  unfold devueltaVeces
  rw [← BitVec.toNat_inj, BitVec.toNat_add, BitVec.toNat_ofNat]
  omega

end Cabecera

namespace Ruteo

variable {env : EntornoRuta} {pkt : Paquete}

/-! ## The search -/

/-- The inner loop, and its body: the header, and `nh` once it is set. -/
def buscarAux (pkt : Paquete) (rt : RtRouteParam) (i : ℕ) :
    List RtAuxInfo → Cabecera × Option In6Addr → Cabecera × Option In6Addr
  | [], p => p
  | e :: es, p =>
      if e.routeId.toNat = i then p
      else if e.src = pkt.dst then (p.1.devuelta, some rt.gtw)
      else buscarAux pkt rt i es p

/-- The search over the routes, with what is left of them when it ends.  The `break` only leaves the
inner loop. -/
def buscarInversa (pkt : Paquete) (rtInfo : List RtAuxInfo) :
    List RtRouteParam → ℕ → Cabecera × Option In6Addr → List RtRouteParam × Cabecera × Option In6Addr
  | [], _, p => ([], p)
  | rt :: rts, i, p =>
      buscarInversa pkt rtInfo rts (i + 1) <|
        if rt.dst = pkt.src ∧ rt.mask ≠ 64 then buscarAux pkt rt i rtInfo p else p

/-- The branch of `send_to_next_neighbor` for a packet whose neighbours have all been visited, with the
header and `nh`. -/
def devolverPkt (env : EntornoRuta) (pkt : Paquete) (c : Cabecera) (s : Ruteo) :
    Cabecera × Option In6Addr × Ruteo :=
  let (rt, c, nh) := buscarInversa pkt s.rtInfo (env.volcado 2) 0 (c, none)
  let nh := if rt = [] then some pkt.fromAddr else nh
  (c, nh, (env.volcado 3).foldl (fun s rt =>
    if rt.dst = pkt.dst then
      (s.addRtRoute { rt with gtw := nh.getD .zero, mask := 128 } env.clock).delRtRoute rt
    else s) s)

/-- `instalar`, with the hop that the packet takes. -/
def instalarPkt (env : EntornoRuta) (pkt : Paquete) (info : ℕ) (rtId : Option ℕ) (nhIdx : Fin maxNeighbors)
    (c : Cabecera) (s : Ruteo) : Option (Cabecera × Ruteo) := do
  let rt ← (← rtId.map fun i => (env.volcado 4)[i]?)
  let s ← s.instalar env pkt info rtId nhIdx
  return (if rt.dst ≠ pkt.dst then c else { c with ttl := c.ttl - 1 }, s)

/-- `send_to_next_neighbor`, with the header of the packet. -/
def sendToNextNeighborPkt (env : EntornoRuta) (pkt : Paquete) (c : Cabecera) (s : Ruteo) :
    Option (Cabecera × Ruteo) :=
  if s.neighTable = [] then some (c, s)
  else
    match s.rutaPara env pkt with
    | (s, none) => some (c, s)
    | (s, some (rtId, best)) => do
        let (s, info) ← s.infoPara env pkt rtId best
        let s ← s.marcarOrigen pkt info
        let e ← s.rtInfo.find? fun e => e.id = info
        if s.porVisitar e = [] then
          let (c, _, s) := devolverPkt env pkt c s
          return (c, s)
        else
          match s.elegirVecino env pkt e with
          | none => return (c, s)
          | some nhIdx => s.instalarPkt env pkt info rtId nhIdx c

/-! ## What the search does -/

/-- A route to the source for which an auxiliary entry in front of its own names the destination. -/
def pasaPorAlto (pkt : Paquete) (rtInfo : List RtAuxInfo) (rt : RtRouteParam) (i : ℕ) : Bool :=
  decide (rt.dst = pkt.src ∧ rt.mask ≠ 64)
    && (rtInfo.takeWhile fun e => e.routeId.toNat ≠ i).any fun e => e.src = pkt.dst

/-- How many such routes there are, from the position `i` on. -/
def pasadas (pkt : Paquete) (rtInfo : List RtAuxInfo) (rts : List RtRouteParam) (i : ℕ) : ℕ :=
  (rts.zipIdx i).countP fun p => pasaPorAlto pkt rtInfo p.1 p.2

lemma buscarAux_fst (pkt : Paquete) (rt : RtRouteParam) (i : ℕ) (rtInfo : List RtAuxInfo)
    (p : Cabecera × Option In6Addr) :
    (buscarAux pkt rt i rtInfo p).1
      = if (rtInfo.takeWhile fun e => e.routeId.toNat ≠ i).any fun e => e.src = pkt.dst then p.1.devuelta
        else p.1 := by
  induction rtInfo with
  | nil => rfl
  | cons e rtInfo ih =>
      rw [buscarAux]
      by_cases hid : e.routeId.toNat = i
      · simp [hid]
      · by_cases hsrc : e.src = pkt.dst
        · simp [hid, hsrc]
        · rw [if_neg hid, if_neg hsrc, ih]
          simp [hid, hsrc]

/-- **The search** always comes to the end of the routes, and marks the packet once for each route for
which it passes over an entry with the destination. -/
lemma buscarInversa_eq (pkt : Paquete) (rtInfo : List RtAuxInfo) (rts : List RtRouteParam) (i : ℕ)
    (p : Cabecera × Option In6Addr) :
    (buscarInversa pkt rtInfo rts i p).1 = []
      ∧ (buscarInversa pkt rtInfo rts i p).2.1 = p.1.devueltaVeces (pasadas pkt rtInfo rts i) := by
  induction rts generalizing i p with
  | nil => simp [buscarInversa, pasadas]
  | cons rt rts ih =>
      obtain ⟨hend, hc⟩ := ih (i + 1) (if rt.dst = pkt.src ∧ rt.mask ≠ 64 then buscarAux pkt rt i rtInfo p
        else p)
      refine ⟨hend, ?_⟩
      rw [buscarInversa, hc, pasadas, pasadas, List.zipIdx_cons, List.countP_cons]
      by_cases hrt : rt.dst = pkt.src ∧ rt.mask ≠ 64
      · rw [if_pos hrt, buscarAux_fst]
        by_cases hany : ((rtInfo.takeWhile fun e => e.routeId.toNat ≠ i).any fun e => e.src = pkt.dst) = true
        · have hpasa : pasaPorAlto pkt rtInfo rt i = true := by
            rw [pasaPorAlto, decide_eq_true hrt, hany]
            rfl
          rw [if_pos hany, if_pos hpasa, Cabecera.devuelta_devueltaVeces]
        · have hpasa : ¬ pasaPorAlto pkt rtInfo rt i = true := by
            rw [pasaPorAlto, Bool.and_eq_true]
            exact fun h => hany h.2
          rw [if_neg hany, if_neg hpasa]
          rfl
      · have hpasa : ¬ pasaPorAlto pkt rtInfo rt i = true := by
          rw [pasaPorAlto, decide_eq_false hrt]
          exact Bool.false_ne_true
        rw [if_neg hrt, if_neg hpasa]
        rfl

/-- **The packet goes where it came from**, whatever has been found. -/
lemma devolverPkt_snd (env : EntornoRuta) (pkt : Paquete) (c : Cabecera) (s : Ruteo) :
    (devolverPkt env pkt c s).2 = (some pkt.fromAddr, s.devolver env pkt) := by
  have hend := (buscarInversa_eq pkt s.rtInfo (env.volcado 2) 0 (c, none)).1
  unfold devolverPkt
  dsimp only
  rw [hend, if_pos rfl]
  rfl

lemma devolverPkt_fst (env : EntornoRuta) (pkt : Paquete) (c : Cabecera) (s : Ruteo) :
    (devolverPkt env pkt c s).1 = c.devueltaVeces (pasadas pkt s.rtInfo (env.volcado 2) 0) :=
  (buscarInversa_eq pkt s.rtInfo (env.volcado 2) 0 (c, none)).2

lemma map_instalarPkt (env : EntornoRuta) (pkt : Paquete) (info : ℕ) (rtId : Option ℕ)
    (nhIdx : Fin maxNeighbors) (c : Cabecera) (s : Ruteo) :
    (s.instalarPkt env pkt info rtId nhIdx c).map Prod.snd = s.instalar env pkt info rtId nhIdx := by
  unfold instalarPkt
  cases hid : rtId.map fun i => (env.volcado 4)[i]? with
  | none => simp [instalar, hid]
  | some o =>
      cases o with
      | none => simp [instalar, hid]
      | some rt => cases s.instalar env pkt info rtId nhIdx <;> rfl

/-- The routing changes as it does without the header. -/
lemma map_sendToNextNeighborPkt (env : EntornoRuta) (pkt : Paquete) (c : Cabecera) (s : Ruteo) :
    (s.sendToNextNeighborPkt env pkt c).map Prod.snd = s.sendToNextNeighbor env pkt := by
  unfold sendToNextNeighborPkt sendToNextNeighbor
  split_ifs
  · rfl
  generalize s.rutaPara env pkt = r
  obtain ⟨u, _ | ⟨rtId, best⟩⟩ := r
  · rfl
  dsimp only
  cases u.infoPara env pkt rtId best with
  | none => rfl
  | some p =>
      simp only [Option.bind_eq_bind, Option.bind_some]
      cases p.1.marcarOrigen pkt p.2 with
      | none => rfl
      | some w =>
          simp only [Option.bind_some]
          cases w.rtInfo.find? fun e => e.id = p.2 with
          | none => rfl
          | some e =>
              simp only [Option.bind_some]
              split_ifs
              · exact congrArg (fun q => some q.2) (devolverPkt_snd env pkt c w)
              · cases w.elegirVecino env pkt e with
                | none => rfl
                | some nhIdx => exact map_instalarPkt _ _ _ _ _ _ _

/-! ## What it should do -/

/-- The route at the position `i` is the reverse one of the packet. -/
def esInversa (pkt : Paquete) (rtInfo : List RtAuxInfo) (rt : RtRouteParam) (i : ℕ) : Prop :=
  (rt.dst = pkt.src ∧ rt.mask ≠ 64) ∧ ∃ e ∈ rtInfo, e.routeId.toNat = i ∧ e.src = pkt.dst

instance (pkt : Paquete) (rtInfo : List RtAuxInfo) (rt : RtRouteParam) (i : ℕ) :
    Decidable (esInversa pkt rtInfo rt i) := inferInstanceAs (Decidable (_ ∧ ∃ e ∈ rtInfo, _))

/-- The gateways of the reverse routes. -/
def gtwInversas (pkt : Paquete) (rtInfo : List RtAuxInfo) (rts : List RtRouteParam) : List In6Addr :=
  (rts.zipIdx.filter fun p => esInversa pkt rtInfo p.1 p.2).map fun p => p.1.gtw

/-- With a reverse route the packet is marked and goes to its gateway; without one it goes back to where
it came from, as it is. -/
structure Retrocede (env : EntornoRuta) (pkt : Paquete) (c : Cabecera) (s : Ruteo) : Prop where
  inversa : gtwInversas pkt s.rtInfo (env.volcado 2) ≠ [] →
    (devolverPkt env pkt c s).1.flags = c.flags ||| maskIr
      ∧ ∃ gtw ∈ gtwInversas pkt s.rtInfo (env.volcado 2), (devolverPkt env pkt c s).2.1 = some gtw
  ninguna : gtwInversas pkt s.rtInfo (env.volcado 2) = [] →
    (devolverPkt env pkt c s).2.1 = some pkt.fromAddr
      ∧ (devolverPkt env pkt c s).1.flags = c.flags ∧ (devolverPkt env pkt c s).1.ttl = c.ttl

/-- **The reverse entry** is used rightly exactly in two cases.  With a reverse route, some entry that the
search passes over must mark the packet, unless it is marked already, and a reverse route must lead where
the packet came from; without one, the entries passed over must not change the packet. -/
theorem retrocede_iff (env : EntornoRuta) (pkt : Paquete) (c : Cabecera) (s : Ruteo) :
    Retrocede env pkt c s ↔
      (gtwInversas pkt s.rtInfo (env.volcado 2) ≠ [] →
          (0 < pasadas pkt s.rtInfo (env.volcado 2) 0 ∨ c.returned)
            ∧ pkt.fromAddr ∈ gtwInversas pkt s.rtInfo (env.volcado 2))
        ∧ (gtwInversas pkt s.rtInfo (env.volcado 2) = [] →
          (pasadas pkt s.rtInfo (env.volcado 2) 0 = 0 ∨ c.returned)
            ∧ 256 ∣ pasadas pkt s.rtInfo (env.volcado 2) 0) := by
  have hfrom : (devolverPkt env pkt c s).2.1 = some pkt.fromAddr := by rw [devolverPkt_snd]
  rw [← c.flags_devueltaVeces_iff, ← c.flags_devueltaVeces_or_iff, ← c.ttl_devueltaVeces_iff,
    ← devolverPkt_fst]
  constructor
  · intro h
    refine ⟨fun hrev => ?_, fun hno => (h.ninguna hno).2⟩
    obtain ⟨hflags, gtw, hgtw, hnh⟩ := h.inversa hrev
    rw [hfrom] at hnh
    exact ⟨hflags, Option.some.inj hnh ▸ hgtw⟩
  · rintro ⟨hinv, hno⟩
    refine ⟨fun hrev => ?_, fun h => ⟨hfrom, hno h⟩⟩
    obtain ⟨hflags, hgtw⟩ := hinv hrev
    exact ⟨hflags, pkt.fromAddr, hgtw, hfrom⟩

/-- The route to the source of the packet, and its gateway. -/
def entornoInversa : EntornoRuta :=
  { entorno with volcado := fun _ => [⟨vecinoNum 17, vecinoNum 3, 128, 1⟩] }

/-- The auxiliary entry of that route names the destination of the packet. -/
def conInversa : Ruteo :=
  { tresVecinos with rtInfo := [nuevaInfo memoriaGtw (vecinoNum 17) (some destino) 0 0] }

/-- The packet is not marked. -/
theorem reverse_entry_skipped :
    ¬ ∀ (env : EntornoRuta) (pkt : Paquete) (c : Cabecera) (s : Ruteo), Retrocede env pkt c s := by
  intro h
  have hflags := ((h entornoInversa paquete ⟨0, 9⟩ conInversa).inversa (by decide)).1
  revert hflags
  decide

end Ruteo

end Antop
