import Antop.Library.Descent
import Antop.MaskedDistance
import Antop.NewDestination
import Antop.RouteVerdict

/-!
# Routing in a hypercube

A node that has no route for a packet sends it to the neighbour that is closest to the destination.  Where the
addresses fill a hypercube and each node has the neighbours across its edges, one of them is always closer.

* `Cubo`, `distHasta` — the addresses that agree behind the first host bits, and the distance in these.
* `Vecindad` — the neighbours of a node in the cube.
* `Paso`, `Paso.Listo` — a node when `route` is called, and what is asked of it; `Paso.Salto`,
  **`Paso.exists_route`** — what the call does in the hook `PRE_ROUTING`.
* `Paso.Reenvia`, **`Paso.exists_route_forward`** — the call in the hook `FORWARD`, which comes after the kernel has
  found its route.
* `Transito`, `Transito.salta`, `Transito.entrega`, `Transito.atiende` — a node that the packet passes, where it goes
  then, and where its way ends.
* `Transito.EnCamino`, `Transito.arrives_of_salta` — the way as a whole.
* **`entrega_en_cubo`** — a packet comes to its destination after as many hops as bits are different.
* **`registro_en_cubo`** — a packet of the rendezvous comes to the node that has its destination in its block.
-/

namespace Antop

/-! ## The cube -/

/-- The addresses agree but for the first `k` host bits. -/
def Cubo (k : ℕ) (b a : In6Addr) : Prop := ∀ p < 128, (p < 64 ∨ 64 + k ≤ p) → a.bit p = b.bit p

instance (k : ℕ) (b a : In6Addr) : Decidable (Cubo k b a) :=
  inferInstanceAs (Decidable (∀ p < 128, (p < 64 ∨ 64 + k ≤ p) → a.bit p = b.bit p))

/-- In how many of the first `w` host bits two addresses are different. -/
def distHasta (w : ℕ) (dst neigh : In6Addr) : ℕ :=
  (List.range w).countP fun p => dst.hostBit p != neigh.hostBit p

section Cubo

variable {a b dst : In6Addr} {i k w : ℕ}

lemma Cubo.refl (k : ℕ) (a : In6Addr) : Cubo k a a := fun _ _ _ => rfl

lemma Cubo.symm (h : Cubo k b a) : Cubo k a b := fun p hp hout => (h p hp hout).symm

lemma Cubo.hostBit_eq (h : Cubo k b a) {p : ℕ} (hkp : k ≤ p) (hp : p < 64) : a.hostBit p = b.hostBit p :=
  h (64 + p) (by omega) (.inr (by omega))

/-- An edge of the cube. -/
lemma Cubo.slotAddr (h : Cubo k b a) (hik : i < k) (hi : i < 64) : Cubo k b (slotAddr a i) := by
  intro p hp hout
  rw [bit_slotAddr a hi, if_neg (by omega)]
  exact h p hp hout

/-- The first word is that of the network. -/
lemma Cubo.s6Addr16_zero (h : Cubo k b a) : a.s6Addr16 0 = b.s6Addr16 0 := by
  refine htons_injective (BitVec.eq_of_getMsbD_eq fun p hp => ?_)
  have hbit := h p (by omega) (.inl (by omega))
  rw [In6Addr.bit, In6Addr.bit, show p / 16 = 0 by omega, show p % 16 = p by omega] at hbit
  exact hbit

/-- The distance is taken in the cube. -/
lemma dist_eq_distHasta (h : Cubo k dst a) (hk : k ≤ 64) : dist dst a = distHasta k dst a := by
  obtain ⟨r, hr⟩ := Nat.exists_eq_add_of_le hk
  have hdetras : ((List.range r).countP fun p => dst.hostBit (k + p) != a.hostBit (k + p)) = 0 := by
    refine BitCount.countP_eq_zero_iff.mpr fun p hp => ?_
    rw [h.hostBit_eq (by omega) (by omega), bne_self_eq_false]
  rw [dist_eq_countP, hr, BitCount.countP_add, hdetras, Nat.add_zero, distHasta]

lemma dist_eq_distHasta_word : dist dst a = distHasta 64 dst a := dist_eq_countP dst a

/-- There is one address at the distance zero. -/
lemma Cubo.eq_of_distHasta (h : Cubo k dst a) (hzero : distHasta k dst a = 0) : a = dst := by
  refine In6Addr.ext_bit fun p hp => ?_
  by_cases hout : p < 64 ∨ 64 + k ≤ p
  · exact h p hp hout
  · push Not at hout
    have hbit := BitCount.countP_eq_zero_iff.mp hzero (p - 64) (by omega)
    rw [bne_eq_false_iff_eq, In6Addr.hostBit, In6Addr.hostBit, Nat.add_sub_of_le hout.1] at hbit
    exact hbit.symm

/-- Some bit is different. -/
lemma exists_of_distHasta_pos (h : 0 < distHasta k dst a) : ∃ i < k, dst.hostBit i ≠ a.hostBit i := by
  by_contra hno
  push Not at hno
  have hzero : distHasta k dst a = 0 := by
    refine BitCount.countP_eq_zero_iff.mpr fun p hp => ?_
    rw [hno p hp, bne_self_eq_false]
  omega

/-- **An edge towards the destination.** -/
lemma distHasta_slotAddr (hi : i < 64) (hiw : i < w) (hdif : dst.hostBit i ≠ a.hostBit i) :
    distHasta w dst (slotAddr a i) + 1 = distHasta w dst a := by
  refine BitCount.countP_add_one hiw (bne_iff_ne.mpr hdif) ?_ fun p hp => ?_
  · rw [hostBit_slotAddr a hi, if_pos rfl, Bool.eq_not_of_ne hdif, bne_self_eq_false]
  · rw [hostBit_slotAddr a hi, if_neg hp]

/-- The other edges lead to nowhere closer. -/
lemma distHasta_le_slotAddr (hi : i < 64) (hsame : i < w → dst.hostBit i = a.hostBit i) :
    distHasta w dst a ≤ distHasta w dst (slotAddr a i) := by
  refine List.countP_mono_left fun p hp hdif => ?_
  rw [hostBit_slotAddr a hi]
  split_ifs with heq
  · subst heq
    rw [hsame (List.mem_range.mp hp), bne_self_eq_false] at hdif
    exact absurd hdif Bool.false_ne_true
  · exact hdif

end Cubo

/-- The table of a node with the address `a`: the neighbours across the edges of the cube are there, and all that are
there are one bit away, and available. -/
structure Vecindad (k : ℕ) (a : In6Addr) (neighTable : List Neighbor) : Prop where
  lado : ∀ i < k, ∃ it ∈ neighTable, it.primAddr = slotAddr a i
  disponible : ∀ it ∈ neighTable, it.available = true
  uno : ∀ it ∈ neighTable, ∃ i < 64, it.primAddr = slotAddr a i
  mascara : ∀ it ∈ neighTable, it.primMask.toNat ≤ 64
  cabe : neighTable.length ≤ maxNeighbors

/-! ## A node -/

namespace EstadoRoute

variable {env : EntornoRoute} {n : Node} {pkt : PaqueteIp} {s u : EstadoRoute}

/-- The search for the reverse entry, when it comes to its end, changes the routes to the source. -/
lemma mantiene_buscarEntrada (hsrc : pkt.src ≠ pkt.dst) {distance : ℤ} {rts : List RtRouteParam} {i : ℕ}
    {entrada : Option (In6Addr × In6Addr)} {r : Option (In6Addr × In6Addr)}
    (h : buscarEntrada env pkt distance rts i entrada s = (u, some r)) :
    Ruteo.Mantiene pkt.dst s.ruteo u.ruteo ∧ u.cabecera = s.cabecera := by
  induction rts generalizing i entrada s with
  | nil =>
      obtain ⟨rfl, -⟩ := Prod.mk.inj h
      exact ⟨Ruteo.Mantiene.refl _, rfl⟩
  | cons rt rts ih =>
      unfold buscarEntrada at h
      split_ifs at h with hrt hbucle hmem
      · cases h
      · cases h
      · have hne : rt.dst ≠ pkt.dst := hrt ▸ hsrc
        have hdel : Ruteo.Mantiene pkt.dst s.ruteo (s.ruteo.delRtRoute { rt with mask := 128 }) :=
          Ruteo.mantiene_delRtRoute hne
        have hadd : Ruteo.Mantiene pkt.dst (s.ruteo.delRtRoute { rt with mask := 128 })
            ((s.ruteo.delRtRoute { rt with mask := 128 }).addRtRoute ⟨rt.dst, pkt.fromAddr, 128, distance⟩
              env.clock) :=
          Ruteo.mantiene_addRtRoute (r := ⟨rt.dst, pkt.fromAddr, 128, distance⟩) hne env.clock
        obtain ⟨hmant, hcab⟩ := ih h
        exact ⟨(hdel.trans hadd).trans hmant, hcab⟩
      · exact ih h

lemma mantiene_entradaReversa (hsrc : pkt.src ≠ pkt.dst) (hdet : ¬ s.seDetiene env n pkt) :
    Ruteo.Mantiene pkt.dst s.ruteo (s.entradaReversa env n pkt).1.ruteo
      ∧ (s.entradaReversa env n pkt).1.cabecera = s.cabecera := by
  unfold entradaReversa
  dsimp only
  by_cases hpide : s.pideReversa env n pkt
  · rw [if_pos (show _ ∧ _ ∧ _ from hpide)]
    have hres := (buscarEntrada_eq env pkt (maxTtl - s.cabecera.ttl.toNat) env.reversa 0 none s).2
    rw [if_neg fun hbucle => hdet ⟨hpide, Or.inl hbucle⟩] at hres
    cases hbusca : buscarEntrada env pkt (maxTtl - s.cabecera.ttl.toNat) env.reversa 0 none s with
    | mk u r =>
        rw [hbusca] at hres
        subst hres
        obtain ⟨hmant, hcab⟩ := mantiene_buscarEntrada hsrc hbusca
        split
        · rename_i v heq
          obtain ⟨rfl, -⟩ := Prod.mk.inj heq
          split_ifs
          · exact ⟨hmant, hcab⟩
          · exact ⟨hmant.trans (Ruteo.mantiene_addRtRoute hsrc env.clock), hcab⟩
        · rename_i v w _ heq
          obtain ⟨rfl, -⟩ := Prod.mk.inj heq
          exact ⟨hmant, hcab⟩
  · rw [if_neg (show ¬ (_ ∧ _ ∧ _) from hpide)]
    exact ⟨Ruteo.Mantiene.refl _, rfl⟩

/-- Nothing is sent where all neighbours are available. -/
lemma recorrerVecinos_eq_self {its : List Neighbor} (hav : ∀ it ∈ its, it.available = true) (j : ℕ) (gtw : In6Addr)
    (s : EstadoRoute) : s.recorrerVecinos env n pkt its j gtw = some s := by
  induction its generalizing j with
  | nil => rfl
  | cons it its ih =>
      obtain ⟨hit, hits⟩ := List.forall_mem_cons.mp hav
      have hno : ¬ (it.primAddr = gtw ∧ it.available = false) := by
        rw [hit]
        exact fun h => Bool.false_ne_true h.2.symm
      rw [recorrerVecinos, if_neg hno]
      exact ih hits (j + 1)

/-- A packet that is neither let through at once nor consumed is routed. -/
lemma route_eq_encaminar (hpasa : ¬ pasaDirecto env n pkt) (hcons : ¬ consumible n pkt) (s : EstadoRoute) :
    s.route env n pkt = (s.trasRv n pkt).encaminar env n pkt := by
  rcases route_cases env n pkt s with hcase | hcase | hcase
  · exact absurd hcase.1 hpasa
  · exact absurd hcase.2.1 hcons
  · exact hcase.2.2

/-- In the other hooks there is no reverse entry, and nothing is returned. -/
lemma encaminar_of_hook (hhook : env.hook ≠ nfIp6PreRouting) (hdst : pkt.dst ≠ n.primAddr) (s : EstadoRoute) :
    s.encaminar env n pkt =
      match env.salida.find? fun rt => rt.dst = pkt.dst ∧ rt.gtw ≠ pkt.dst with
      | none => (s.sendToNextNeighbor env n pkt 0).map fun s => (some rvAccept, s)
      | some rt => (s.recorrerVecinos env n pkt s.ruteo.neighTable 0 rt.gtw).map fun s => (none, s) := by
  have hrev : s.entradaReversa env n pkt = (s, some none) := if_neg fun hpide => hhook hpide.2.2
  rw [encaminar, hrev]
  dsimp only
  rw [if_neg hdst]
  cases env.salida.find? fun rt => rt.dst = pkt.dst ∧ rt.gtw ≠ pkt.dst with
  | none => rfl
  | some rt =>
      dsimp only
      rw [seguirRuta, if_neg fun hvuelta => hhook hvuelta.2, Option.map_eq_bind]
      rfl

end EstadoRoute

/-- A node when a packet is shown to it: what the calls find, its address and its neighbours, and its variables. -/
structure Paso where
  env : EntornoRoute
  nodo : Node
  estado : EstadoRoute

/-- `NF_IP6_FORWARD`. -/
def nfIp6Forward : UChar := 2

namespace Paso

/-- The node in a hook, with the header of the packet. -/
def con (hook : UChar) (c : Cabecera) (p : Paso) : Paso :=
  { p with env := { p.env with hook := hook }, estado := { p.estado with cabecera := c } }

/-- The call of `route` in a hook. -/
def encamina (hook : UChar) (pkt : PaqueteIp) (c : Cabecera) (p : Paso) : Option (Option ℤ × EstadoRoute) :=
  (p.con hook c).estado.route (p.con hook c).env p.nodo pkt

/-- What `send_to_next_neighbor` reads from elsewhere. -/
def siguiente (p : Paso) : Ruteo.EntornoRuta := { p.env.siguiente 0 with primAddr := p.nodo.primAddr }

/-- The node with the address `a` is one of the cube, and the packet is one to route: it is not for the node, is not
in a loop, and is the first one for its destination. -/
structure Listo (k : ℕ) (pkt : PaqueteIp) (a : In6Addr) (p : Paso) : Prop where
  prim : p.nodo.primAddr = a
  vecindad : Vecindad k a p.estado.ruteo.neighTable
  pasa : ¬ EstadoRoute.pasaDirecto p.env p.nodo pkt
  sinBucle : ¬ p.estado.seDetiene p.env p.nodo pkt
  fresco : Ruteo.Fresco p.siguiente pkt.paquete p.estado.ruteo
  salida : Ruteo.Volcado pkt.dst p.env.salida p.estado.ruteo.kernel

/-- The distance to the neighbours is that in the first `w` host bits. -/
def Mide (w : ℕ) (pkt : PaqueteIp) (p : Paso) : Prop :=
  ∀ it ∈ p.estado.ruteo.neighTable, Ruteo.distancia p.siguiente pkt.paquete it = distHasta w pkt.dst it.primAddr

/-- An edge leads from `a` towards the destination of the packet, and not to where it says it comes from. -/
def Lado (k w : ℕ) (pkt : PaqueteIp) (a : In6Addr) (i : ℕ) : Prop :=
  i < k ∧ i < w ∧ i < 64 ∧ pkt.dst.hostBit i ≠ a.hostBit i ∧ slotAddr a i ≠ pkt.fromAddr

/-- What the call does: the only route to the destination leads over the edge `i`, towards it. -/
structure Salto (w : ℕ) (pkt : PaqueteIp) (a : In6Addr) (p : Paso) (i : ℕ) (s' : EstadoRoute) : Prop where
  menor : i < w
  palabra : i < 64
  distinto : pkt.dst.hostBit i ≠ a.hostBit i
  cabecera : s'.cabecera = { p.estado.cabecera with ttl := p.estado.cabecera.ttl - 1 }
  rutas : ∀ r, r.dst = pkt.dst → (r ∈ s'.ruteo.kernel ↔ r = ⟨pkt.dst, slotAddr a i, 128, maxTtl⟩)
  neighTable : s'.ruteo.neighTable = p.estado.ruteo.neighTable
  distintas : s'.ruteo.Distintas
  destinos : s'.ruteo.rtInfo.map RtAuxInfo.dst = p.estado.ruteo.rtInfo.map RtAuxInfo.dst ++ [pkt.dst]

/-- The neighbour across an edge is one that can be chosen. -/
lemma Listo.exists_vecino {k w l : ℕ} {pkt : PaqueteIp} {a : In6Addr} {p : Paso} (h : p.Listo k pkt a)
    (hl : Lado k w pkt a l) :
    ∃ x ∈ p.estado.ruteo.neighTable, x.primAddr = slotAddr a l ∧ x.available = true ∧ x.primAddr ≠ pkt.fromAddr := by
  obtain ⟨x, hx, haddr⟩ := h.vecindad.lado l hl.1
  exact ⟨x, hx, haddr, h.vecindad.disponible x hx, haddr ▸ hl.2.2.2.2⟩

/-- **One hop.**  `route` accepts the packet, and then the only route to its destination leads across an edge of the
cube, towards the destination. -/
theorem exists_route {k w l : ℕ} {pkt : PaqueteIp} {a : In6Addr} {p : Paso} (h : p.Listo k pkt a) (hmide : p.Mide w pkt)
    (hsrc : pkt.src ≠ pkt.dst) (hdst : pkt.dst ≠ a) (hcons : ¬ EstadoRoute.consumible p.nodo pkt)
    (hl : Lado k w pkt a l) :
    ∃ s' i, p.estado.route p.env p.nodo pkt = some (some rvAccept, s') ∧ p.Salto w pkt a i s' := by
  have hroute := EstadoRoute.route_eq_encaminar h.pasa hcons p.estado
  have hsin : ¬ (p.estado.trasRv p.nodo pkt).seDetiene p.env p.nodo pkt := h.sinBucle
  obtain ⟨hmant, hcab⟩ := EstadoRoute.mantiene_entradaReversa hsrc hsin
  have hno : p.env.salida.find? (fun rt => rt.dst = pkt.dst ∧ rt.gtw ≠ pkt.dst) = none := by
    refine List.find?_eq_none.mpr fun rt hrt => ?_
    rw [decide_eq_true_eq]
    rintro ⟨hrtdst, -⟩
    exact h.fresco.kernel rt ((h.salida rt hrtdst).mp hrt) hrtdst
  rw [EstadoRoute.encaminar_eq] at hroute
  dsimp only at hroute
  rw [if_neg (not_or.mpr ⟨hsin, h.prim ▸ hdst⟩), hno] at hroute
  dsimp only at hroute
  generalize ((p.estado.trasRv p.nodo pkt).entradaReversa p.env p.nodo pkt).1 = u at hmant hcab hroute
  have htab : u.ruteo.neighTable = p.estado.ruteo.neighTable := hmant.neighTable
  have hfresco := hmant.fresco h.fresco
  -- the neighbour across the edge can be chosen, and so one that is as close as it is chosen
  obtain ⟨x, hx, hxaddr, hxav, hxfrom⟩ := h.exists_vecino hl
  have hxdist := distHasta_slotAddr hl.2.2.1 hl.2.1 hl.2.2.2.1
  obtain ⟨q, it, hq, hit, hmejor, hinst, hrutas⟩ := hfresco.exists_siguiente (htab.symm ▸ h.vecindad.mascara)
    (htab.symm ▸ h.vecindad.cabe) ⟨x, htab.symm ▸ hx, hxav, hxfrom⟩ u.cabecera
  have hitdist := hmejor x (htab.symm ▸ hx) hxav hxfrom
  rw [hmide it (htab ▸ hit), hmide x hx, hxaddr] at hitdist
  obtain ⟨i, hi64, hiaddr⟩ := h.vecindad.uno it (htab ▸ hit)
  rw [hiaddr] at hitdist hrutas
  have hidif : i < w ∧ pkt.dst.hostBit i ≠ a.hostBit i := by
    by_contra hsame
    have hle : distHasta w pkt.dst a ≤ distHasta w pkt.dst (slotAddr a i) := by
      refine distHasta_le_slotAddr hi64 fun hiw => ?_
      by_contra hne
      exact hsame ⟨hiw, hne⟩
    omega
  have hsend : u.sendToNextNeighbor p.env p.nodo pkt 0 = some { u with cabecera := q.1, ruteo := q.2 } := by
    exact congrArg (Option.map _) hq
  rw [hsend] at hroute
  refine ⟨_, i, hroute, hidif.1, hi64, hidif.2, ?_, hrutas, hinst.neighTable.trans htab,
    hinst.crece.distintas hfresco.distintas, ?_⟩
  · exact hinst.cabecera.trans (by rw [hcab]; rfl)
  · exact hinst.destinos.trans (by rw [hmant.rtInfo]; rfl)

section Encamina

variable {pkt : PaqueteIp} {p : Paso}

/-- A node accepts what has come to it. -/
lemma exists_encamina (hprim : p.nodo.primAddr = pkt.dst) (c : Cabecera) :
    ∃ s', p.encamina nfIp6PreRouting pkt c = some (some rvAccept, s') := by
  rcases EstadoRoute.route_cases (p.con nfIp6PreRouting c).env p.nodo pkt (p.con nfIp6PreRouting c).estado with
    ⟨-, s', hs', -⟩ | ⟨-, hcons, -⟩ | ⟨-, -, hroute⟩
  · exact ⟨s', hs'⟩
  · exact absurd hprim.symm hcons.1.2
  · rw [EstadoRoute.encaminar_eq] at hroute
    dsimp only at hroute
    rw [if_pos (show _ ∨ pkt.dst = p.nodo.primAddr from Or.inr hprim.symm)] at hroute
    exact ⟨_, hroute⟩

/-- `send_to_next_neighbor` and `route` read the same byte. -/
lemma esRv_eq (p : Paso) (pkt : PaqueteIp) :
    Ruteo.esRv p.siguiente pkt.paquete = decide (pkt.tipo p.nodo ∈ Ruteo.tiposRv) := by
  unfold Ruteo.esRv PaqueteIp.tipo PaqueteRv.trama
  rw [apply_ite TramaRv.tipo]
  rfl

lemma mide_of_comun (h : pkt.tipo p.nodo ∉ Ruteo.tiposRv) : p.Mide 64 pkt := by
  intro it _
  rw [Ruteo.distancia, esRv_eq, if_neg (by rw [decide_eq_true_eq]; exact h)]
  exact dist_eq_countP _ _

lemma mide_of_rv {mask : UChar} (hmask : mask.toNat ≤ 64) (h : pkt.tipo p.nodo ∈ Ruteo.tiposRv)
    (htab : ∀ it ∈ p.estado.ruteo.neighTable, it.primMask = mask) : p.Mide mask.toNat pkt := by
  intro it hit
  rw [Ruteo.distancia, esRv_eq, if_pos (by rw [decide_eq_true_eq]; exact h), htab it hit]
  exact distWMask_eq_countP hmask

end Encamina

/-! ## The hook `FORWARD` -/

/-- The node `q` that hands the packet on is the node `p` that has accepted it in the state `s'`.  What has happened in
between does not touch the routes to its destination, and the dumps are right. -/
structure Reenvia (pkt : PaqueteIp) (p : Paso) (s' : EstadoRoute) (q : Paso) : Prop where
  prim : q.nodo.primAddr = p.nodo.primAddr
  ajeno : EstadoRoute.consumible q.nodo pkt → EstadoRoute.consumible p.nodo pkt
  neighTable : q.estado.ruteo.neighTable = p.estado.ruteo.neighTable
  rutas : ∀ r, r.dst = pkt.dst → (r ∈ q.estado.ruteo.kernel ↔ r ∈ s'.ruteo.kernel)
  salida : Ruteo.Volcado pkt.dst q.env.salida q.estado.ruteo.kernel
  abierto : Ruteo.Abierto q.siguiente pkt.paquete q.estado.ruteo

/-- In another hook nothing more is let through at once. -/
lemma Reenvia.pasa {pkt : PaqueteIp} {p q : Paso} {s' : EstadoRoute} {hook : UChar} (h : Reenvia pkt p s' q)
    (hhook : hook ≠ nfIp6PreRouting) (c : Cabecera) (hpasa : ¬ EstadoRoute.pasaDirecto p.env p.nodo pkt) :
    ¬ EstadoRoute.pasaDirecto (q.con hook c).env q.nodo pkt := by
  rintro (htipo | hpropio | hred | ⟨-, hpre⟩)
  · rw [PaqueteIp.tipo, h.prim] at htipo
    exact hpasa (Or.inl htipo)
  · rw [h.prim] at hpropio
    exact hpasa (Or.inr (Or.inl hpropio))
  · rw [h.prim] at hred
    exact hpasa (Or.inr (Or.inr (Or.inl hred)))
  · exact hhook hpre

/-- **The second call** returns, and leaves the packet as it is where the route to its destination has a gateway. -/
theorem exists_route_forward {k w l i : ℕ} {pkt : PaqueteIp} {a : In6Addr} {p q : Paso} {s' : EstadoRoute}
    (hq : Reenvia pkt p s' q) (h : p.Listo k pkt a) (hdst : pkt.dst ≠ a)
    (hcons : ¬ EstadoRoute.consumible p.nodo pkt) (hl : Lado k w pkt a l) (hs : p.Salto w pkt a i s') (c : Cabecera) :
    ∃ v u, q.encamina nfIp6Forward pkt c = some (v, u) ∧ (slotAddr a i ≠ pkt.dst → u.cabecera = c) := by
  have hhook : nfIp6Forward ≠ nfIp6PreRouting := by decide
  obtain ⟨u, hu⟩ : ∃ u, u = (q.con nfIp6Forward c).estado.trasRv q.nodo pkt := ⟨_, rfl⟩
  have hcab : u.cabecera = c := by rw [hu]; rfl
  have hruteo : u.ruteo = q.estado.ruteo := by rw [hu]; rfl
  have htab : u.ruteo.neighTable = p.estado.ruteo.neighTable := by rw [hruteo, hq.neighTable]
  have hprim : pkt.dst ≠ q.nodo.primAddr := by rw [hq.prim, h.prim]; exact hdst
  have hroute : q.encamina nfIp6Forward pkt c = u.encaminar (q.con nfIp6Forward c).env q.nodo pkt := by
    rw [hu]
    exact EstadoRoute.route_eq_encaminar (hq.pasa hhook c h.pasa) (fun hajeno => hcons (hq.ajeno hajeno)) _
  rw [hroute, EstadoRoute.encaminar_of_hook hhook hprim]
  cases hfind : (q.con nfIp6Forward c).env.salida.find? fun rt => rt.dst = pkt.dst ∧ rt.gtw ≠ pkt.dst with
  | some rt =>
      -- there is a gateway: nothing is sent, and there is no verdict
      dsimp only
      rw [EstadoRoute.recorrerVecinos_eq_self (htab ▸ h.vecindad.disponible) 0 rt.gtw u]
      exact ⟨none, u, rfl, fun _ => hcab⟩
  | none =>
      -- the destination is the neighbour: `send_to_next_neighbor` is called once more
      have hno : u.ruteo.SinRuta pkt.dst := by
        intro r hr hrdst
        rw [hruteo] at hr
        have hmem := List.find?_eq_none.mp hfind r ((hq.salida r hrdst).mpr hr)
        rw [decide_eq_true_eq] at hmem
        by_contra hgtw
        exact hmem ⟨hrdst, hgtw⟩
      have habierto : Ruteo.Abierto q.siguiente pkt.paquete u.ruteo := by
        rw [hruteo]
        exact hq.abierto
      obtain ⟨x, hx, -, hxav, hxfrom⟩ := h.exists_vecino hl
      obtain ⟨t, -, -, ht, -⟩ := Ruteo.exists_siguiente habierto hno (htab.symm ▸ h.vecindad.mascara)
        (htab.symm ▸ h.vecindad.cabe) ⟨x, htab.symm ▸ hx, hxav, hxfrom⟩ u.cabecera
      have hsend : u.sendToNextNeighbor (q.con nfIp6Forward c).env q.nodo pkt 0
          = some { u with cabecera := t.1, ruteo := t.2 } := by
        exact congrArg (Option.map _) ht
      dsimp only
      rw [hsend]
      refine ⟨some rvAccept, _, rfl, fun hne => absurd ?_ hne⟩
      have hruta : (⟨pkt.dst, slotAddr a i, 128, maxTtl⟩ : RtRouteParam) ∈ u.ruteo.kernel := by
        rw [hruteo]
        exact (hq.rutas _ rfl).mpr ((hs.rutas _ rfl).mpr rfl)
      exact hno _ hruta rfl

end Paso

/-! ## The network -/

/-- The kernel takes a hop off, and discards the packet that has none left then. -/
def Cabecera.reenviar (c : Cabecera) : Option Cabecera :=
  if c.ttl.toNat ≤ 1 then none else some { c with ttl := c.ttl - 1 }

/-- The header after some hops: `send_to_next_neighbor` and the kernel take one off each time. -/
def Cabecera.tras (t : ℕ) (c : Cabecera) : Cabecera := { c with ttl := c.ttl - BitVec.ofNat 8 (2 * t) }

section Cabecera

variable {c : Cabecera} {t : ℕ}

@[simp] lemma Cabecera.tras_zero (c : Cabecera) : c.tras 0 = c := by
  simp [Cabecera.tras]

lemma Cabecera.tras_succ (c : Cabecera) (t : ℕ) :
    c.tras (t + 1) = { c with ttl := (c.tras t).ttl - 1 - 1 } := by
  have httl : c.ttl - BitVec.ofNat 8 (2 * (t + 1)) = c.ttl - BitVec.ofNat 8 (2 * t) - 1 - 1 := by
    rw [Nat.mul_succ, BitVec.ofNat_add]
    bv_omega
  rw [Cabecera.tras, httl, Cabecera.tras]

lemma Cabecera.toNat_tras (h : 2 * t ≤ c.ttl.toNat) : (c.tras t).ttl.toNat = c.ttl.toNat - 2 * t := by
  have hlt := c.ttl.isLt
  rw [Cabecera.tras, BitVec.toNat_sub, BitVec.toNat_ofNat]
  omega

/-- The kernel hands on a packet that has had a hop left. -/
lemma Cabecera.reenviar_eq (h : 2 < c.ttl.toNat) :
    Cabecera.reenviar { c with ttl := c.ttl - 1 } = some { c with ttl := c.ttl - 1 - 1 } := by
  have hlt := c.ttl.isLt
  have hsub : (c.ttl - 1).toNat = c.ttl.toNat - 1 := by bv_omega
  refine if_neg ?_
  dsimp only
  omega

end Cabecera

/-- By a route of the shortest distance the kernel sends to `nh` what goes to `dst`. -/
def EnviaA (kernel : Finset RtRouteParam) (dst nh : In6Addr) : Prop :=
  ∃ r ∈ kernel, r.dst = dst ∧ r.gtw = nh ∧ ∀ r' ∈ kernel, r'.dst = dst → r.distance ≤ r'.distance

lemma enviaA_iff {kernel : Finset RtRouteParam} {dst nh gtw : In6Addr}
    (h : ∀ r : RtRouteParam, r.dst = dst → (r ∈ kernel ↔ r = ⟨dst, gtw, 128, maxTtl⟩)) :
    EnviaA kernel dst nh ↔ nh = gtw := by
  constructor
  · rintro ⟨r, hr, hdst, rfl, -⟩
    rw [(h r hdst).mp hr]
  · rintro rfl
    refine ⟨⟨dst, nh, 128, maxTtl⟩, (h _ rfl).mpr rfl, rfl, rfl, fun r hr hdst => ?_⟩
    rw [(h r hdst).mp hr]

/-- Where a packet is, with its header. -/
structure Tramo where
  nodo : In6Addr
  cabecera : Cabecera

/-- A node that the packet passes: as it is when the packet arrives, and as it is, after it has accepted the packet in
some state, when the packet is shown to it in the hook `FORWARD`. -/
structure Transito where
  entra : Paso
  sale : EstadoRoute → Paso

namespace Transito

/-- The packet goes to the next node.  `route` accepts it in the hook `PRE_ROUTING`, the kernel finds its route then and
takes a hop off, and `route` is called once more in the hook `FORWARD`, where its verdict is not looked at;
`POST_ROUTING` leaves the packet as it is.  Of the packet only the header changes: no node writes where the address is
that it comes from.  The nodes are those of `red`, as they are when the packet makes its hop `t`. -/
def salta (red : ℕ → In6Addr → Transito) (pkt : PaqueteIp) (t : ℕ) (x y : Tramo) : Prop :=
  ∃ v s' c u w, (red t x.nodo).entra.encamina nfIp6PreRouting pkt x.cabecera = some (v, s') ∧ v ≠ some rvDrop
    ∧ EnviaA s'.ruteo.kernel pkt.dst y.nodo ∧ s'.cabecera.reenviar = some c
    ∧ ((red t x.nodo).sale s').encamina nfIp6Forward pkt c = some (w, u) ∧ y.cabecera = u.cabecera

/-- The packet is at its destination, and `route` lets it through. -/
def entrega (red : ℕ → In6Addr → Transito) (pkt : PaqueteIp) (t : ℕ) (x : Tramo) : Prop :=
  x.nodo = pkt.dst
    ∧ ∃ s', (red t x.nodo).entra.encamina nfIp6PreRouting pkt x.cabecera = some (some rvAccept, s')

/-- The packet is consumed, unless the node is its destination. -/
def atiende (red : ℕ → In6Addr → Transito) (pkt : PaqueteIp) (t : ℕ) (x : Tramo) : Prop :=
  entrega red pkt t x ∨ EstadoRoute.consumible (red t x.nodo).entra.nodo pkt
    ∧ ∃ s', (red t x.nodo).entra.encamina nfIp6PreRouting pkt x.cabecera = some (some rvDrop, s')
      ∧ s'.dichos = (red t x.nodo).entra.estado.dichos ++ [rvDrop]

/-- The node is ready to route the packet with the header, and to hand it on. -/
structure Listo (k : ℕ) (pkt : PaqueteIp) (a : In6Addr) (c : Cabecera) (x : Transito) : Prop where
  entra : (x.entra.con nfIp6PreRouting c).Listo k pkt a
  sale : ∀ s', x.entra.encamina nfIp6PreRouting pkt c = some (some rvAccept, s') →
    Paso.Reenvia pkt (x.entra.con nfIp6PreRouting c) s' (x.sale s')

end Transito

namespace Transito

section Red

variable {k w t : ℕ} {pkt : PaqueteIp} {red : ℕ → In6Addr → Transito} {x : Tramo} {b a₀ : In6Addr} {c₀ : Cabecera}

/-- On the way from `a₀`, in the cube of `b`: what has been done and what is left, and the header on the way. -/
structure EnCamino (k w : ℕ) (b dst a₀ : In6Addr) (c₀ : Cabecera) (t : ℕ) (x : Tramo) : Prop where
  cubo : Cubo k b x.nodo
  hecho : t + distHasta w dst x.nodo = distHasta w dst a₀
  cabecera : x.nodo ≠ dst → x.cabecera = c₀.tras t

/-- One hop further. -/
lemma EnCamino.salta {dst : In6Addr} (h : EnCamino k w b dst a₀ c₀ t x) (hne : x.nodo ≠ dst) {i : ℕ} (hik : i < k)
    (hiw : i < w) (hi : i < 64) (hdif : dst.hostBit i ≠ x.nodo.hostBit i) {c : Cabecera}
    (hc : slotAddr x.nodo i ≠ dst → c = { x.cabecera with ttl := x.cabecera.ttl - 1 - 1 }) :
    EnCamino k w b dst a₀ c₀ (t + 1) ⟨slotAddr x.nodo i, c⟩
      ∧ distHasta w dst (slotAddr x.nodo i) + 1 = distHasta w dst x.nodo := by
  have hdist := distHasta_slotAddr hi hiw hdif
  have hecho := h.hecho
  refine ⟨⟨h.cubo.slotAddr hik hi, by dsimp only; omega, fun hfin => ?_⟩, hdist⟩
  rw [hc hfin, h.cabecera hne, Cabecera.tras_succ]
  rfl

/-- **Where the packet goes**: over one of the edges towards its destination. -/
lemma salta_cases {l : ℕ} (h : (red t x.nodo).Listo k pkt x.nodo x.cabecera)
    (hmide : (red t x.nodo).entra.Mide w pkt) (hsrc : pkt.src ≠ pkt.dst) (hdst : pkt.dst ≠ x.nodo)
    (hcons : ¬ EstadoRoute.consumible (red t x.nodo).entra.nodo pkt) (hl : Paso.Lado k w pkt x.nodo l)
    (httl : 2 < x.cabecera.ttl.toNat) :
    ∃ i < w, i < 64 ∧ pkt.dst.hostBit i ≠ x.nodo.hostBit i ∧ (∃ y, salta red pkt t x y)
      ∧ ∀ y, salta red pkt t x y → y.nodo = slotAddr x.nodo i
        ∧ (slotAddr x.nodo i ≠ pkt.dst → y.cabecera = { x.cabecera with ttl := x.cabecera.ttl - 1 - 1 }) := by
  obtain ⟨s', i, hroute, hs⟩ := Paso.exists_route h.entra hmide hsrc hdst hcons hl
  have hcab : s'.cabecera.reenviar = some { x.cabecera with ttl := x.cabecera.ttl - 1 - 1 } := by
    rw [hs.cabecera]
    exact Cabecera.reenviar_eq httl
  obtain ⟨v, u, hforward, hu⟩ := Paso.exists_route_forward (h.sale s' hroute) h.entra hdst hcons hl hs
    { x.cabecera with ttl := x.cabecera.ttl - 1 - 1 }
  refine ⟨i, hs.menor, hs.palabra, hs.distinto, ⟨⟨slotAddr x.nodo i, u.cabecera⟩, ?_⟩, ?_⟩
  · exact ⟨_, s', _, u, v, hroute, by decide, (enviaA_iff hs.rutas).mpr rfl, hcab, hforward, rfl⟩
  · rintro y ⟨v', s'', c, u', w', hroute', -, henvia, hcab', hforward', hy⟩
    obtain ⟨-, rfl⟩ := Prod.mk.inj (Option.some.inj (hroute'.symm.trans hroute))
    obtain rfl := Option.some.inj (hcab'.symm.trans hcab)
    obtain ⟨-, rfl⟩ := Prod.mk.inj (Option.some.inj (hforward'.symm.trans hforward))
    exact ⟨(enviaA_iff hs.rutas).mp henvia, fun hne => hy.trans (hu hne)⟩

/-- The whole way, where each hop is over an edge towards the destination. -/
lemma arrives_of_salta {goal : ℕ → Tramo → Prop} (hcubo : Cubo k b a₀)
    (hgoal : ∀ t x, EnCamino k w b pkt.dst a₀ c₀ t x → distHasta w pkt.dst x.nodo = 0 → goal t x)
    (hsalta : ∀ t x, EnCamino k w b pkt.dst a₀ c₀ t x → 0 < distHasta w pkt.dst x.nodo →
      ∃ i < k, i < w ∧ i < 64 ∧ pkt.dst.hostBit i ≠ x.nodo.hostBit i ∧ (∃ y, salta red pkt t x y)
        ∧ ∀ y, salta red pkt t x y → y.nodo = slotAddr x.nodo i
          ∧ (slotAddr x.nodo i ≠ pkt.dst → y.cabecera = { x.cabecera with ttl := x.cabecera.ttl - 1 - 1 })) :
    Descent.Arrives (salta red pkt) goal (distHasta w pkt.dst a₀) 0 ⟨a₀, c₀⟩ := by
  have hinicio : EnCamino k w b pkt.dst a₀ c₀ 0 ⟨a₀, c₀⟩ := by
    refine ⟨hcubo, by rw [Nat.zero_add], fun _ => ?_⟩
    rw [Cabecera.tras_zero]
  refine Descent.arrives (x := (⟨a₀, c₀⟩ : Tramo)) (EnCamino k w b pkt.dst a₀ c₀)
    (fun x => distHasta w pkt.dst x.nodo) hgoal ?_ ?_ hinicio
  · intro t x hx hpos
    obtain ⟨i, -, -, -, -, hnext, -⟩ := hsalta t x hx hpos
    exact hnext
  · intro t x y hx hpos hxy
    obtain ⟨i, hik, hiw, hi, hdif, -, hy⟩ := hsalta t x hx hpos
    obtain ⟨hnodo, hcab⟩ := hy y hxy
    have hne : x.nodo ≠ pkt.dst := by
      intro heq
      exact hdif (by rw [heq])
    obtain ⟨nodo, c⟩ := y
    obtain rfl : nodo = slotAddr x.nodo i := hnodo
    exact hx.salta hne hik hiw hi hdif hcab

end Red

end Transito

/-! ## A square -/

/-- A corner of a square: a node with the neighbours across its two edges and no route. -/
def esquina (dst a : In6Addr) : Paso :=
  { env := { EstadoRoute.entornoConRuta with
      salida := []
      siguiente := fun _ => { Ruteo.entorno with
        info := { Ruteo.memoriaGtw with trasDst := Ruteo.sinGtw }
        volcado := fun i => if i = 0 then [] else [Ruteo.rutaIncompleta dst] } }
    nodo := { primAddrInit 64 "n" with primAddr := a, primMask := 2 }
    estado :=
      { ruteo := { Ruteo.arranque with
          neighTable := [0, 1].map fun i => { Ruteo.vecino (slotAddr a i) with primMask := 2 } }
        rv := ⟨[], [], []⟩, cabecera := ⟨0, 0⟩, dichos := [] } }

/-- What a dump has of the routes to `dst` over the edges from `a`. -/
def rutasDesde (dst a : In6Addr) (kernel : Finset RtRouteParam) : List RtRouteParam :=
  ((List.range 64).map fun i => (⟨dst, slotAddr a i, 128, maxTtl⟩ : RtRouteParam)).filter (· ∈ kernel)

/-- The corner when the packet passes it: nothing else happens there in between. -/
def cruce (dst a : In6Addr) : Transito :=
  { entra := esquina dst a
    sale := fun s' =>
      { env := { (esquina dst a).env with
          salida := rutasDesde dst a s'.ruteo.kernel
          siguiente := fun _ => { Ruteo.entorno with
            info := { Ruteo.memoriaGtw with trasDst := Ruteo.sinGtw }
            volcado := fun i =>
              if i = 0 then rutasDesde dst a s'.ruteo.kernel
              else Ruteo.rutaIncompleta dst :: rutasDesde dst a s'.ruteo.kernel } }
        nodo := (esquina dst a).nodo
        estado := s' } }

/-- The corner of a square that is across from the root. -/
def diagonal : In6Addr := slotAddr (slotAddr root 0) 1

/-- A packet with the type `t`, from outside the square. -/
def paqueteFuera (t : UChar) (dst : In6Addr) : PaqueteIp :=
  { src := slotAddr root 2, dst := dst, conOpcion := ⟨t, paqueteUsado, []⟩, sinOpcion := ⟨t, paqueteUsado, []⟩
    fromAddr := slotAddr root 2 }

lemma tipo_paqueteFuera (t : UChar) (dst : In6Addr) (n : Node) : (paqueteFuera t dst).tipo n = t := by
  unfold PaqueteIp.tipo PaqueteRv.trama
  split <;> rfl

section Esquina

variable {pkt : PaqueteIp} {a : In6Addr}

lemma pasa_esquina (htipo : ∀ n, ¬ (0 < pkt.tipo n ∧ pkt.tipo n < 5)) (hred : pkt.dst.s6Addr16 0 = a.s6Addr16 0)
    (hsrc : pkt.src ≠ a) (env : EntornoRoute) : ¬ EstadoRoute.pasaDirecto env (esquina pkt.dst a).nodo pkt := by
  rintro (h | ⟨-, h⟩ | h | ⟨h, -⟩)
  · exact htipo _ h
  · exact hsrc h
  · exact h hred
  · exact hsrc h

lemma listo_esquina (htipo : ∀ n, ¬ (0 < pkt.tipo n ∧ pkt.tipo n < 5)) (hred : pkt.dst.s6Addr16 0 = a.s6Addr16 0)
    (hsrc : pkt.src ≠ a) (c : Cabecera) : ((esquina pkt.dst a).con nfIp6PreRouting c).Listo 2 pkt a where
  prim := rfl
  vecindad :=
    { lado := fun i hi => ⟨_, List.mem_map.mpr ⟨i, by simp; omega, rfl⟩, rfl⟩
      disponible := fun it hit => by
        obtain ⟨i, -, rfl⟩ := List.mem_map.mp hit
        rfl
      uno := fun it hit => by
        obtain ⟨i, hi, rfl⟩ := List.mem_map.mp hit
        exact ⟨i, by simp at hi; omega, rfl⟩
      mascara := fun it hit => by
        obtain ⟨i, -, rfl⟩ := List.mem_map.mp hit
        exact show 2 ≤ 64 by decide
      cabe := show 2 ≤ 128 by decide }
  pasa := pasa_esquina htipo hred hsrc _
  sinBucle := by
    rintro ⟨-, ⟨p, hp, -⟩ | ⟨-, hmem⟩⟩
    · exact absurd hp List.not_mem_nil
    · exact absurd hmem Bool.false_ne_true
  fresco :=
    { info := List.cons_ne_nil _ _
      distintas := ⟨Ruteo.inicial_arranque.distintas.nodup, Ruteo.inicial_arranque.distintas.mallocs⟩
      trasDst := fun e he => by
        obtain rfl := List.mem_singleton.mp he
        exact show In6Addr.zero ≠ Ruteo.sinGtw by decide
      antes := fun rt _ => iff_of_false List.not_mem_nil (Finset.notMem_empty rt)
      luego := fun rt _ => by
        change rt ∈ [Ruteo.rutaIncompleta pkt.dst] ↔ rt ∈ insert (Ruteo.rutaIncompleta pkt.dst) ∅
        rw [List.mem_singleton, Finset.mem_insert, or_iff_left (Finset.notMem_empty rt)]
      igual := rfl
      kernel := fun r hr => absurd hr (Finset.notMem_empty r) }
  salida := fun rt _ => iff_of_false List.not_mem_nil (Finset.notMem_empty rt)

variable {w i : ℕ} {c : Cabecera} {s' : EstadoRoute}

lemma volcado_rutasDesde (hs : ((esquina pkt.dst a).con nfIp6PreRouting c).Salto w pkt a i s') :
    Ruteo.Volcado pkt.dst (rutasDesde pkt.dst a s'.ruteo.kernel) s'.ruteo.kernel := by
  intro rt hrt
  rw [rutasDesde, List.mem_filter, decide_eq_true_eq]
  refine and_iff_right_of_imp fun hmem => ?_
  rw [(hs.rutas rt hrt).mp hmem]
  exact List.mem_map.mpr ⟨i, List.mem_range.mpr hs.palabra, rfl⟩

lemma reenvia_cruce (hs : ((esquina pkt.dst a).con nfIp6PreRouting c).Salto w pkt a i s')
    (hdst : pkt.dst ≠ Ruteo.sinGtw) :
    Paso.Reenvia pkt ((esquina pkt.dst a).con nfIp6PreRouting c) s' ((cruce pkt.dst a).sale s') where
  prim := rfl
  ajeno := id
  neighTable := hs.neighTable
  rutas _ _ := Iff.rfl
  salida := volcado_rutasDesde hs
  abierto :=
    { info := by
        intro hnil
        have hdestinos := hs.destinos
        rw [show s'.ruteo.rtInfo = [] from hnil] at hdestinos
        exact absurd hdestinos (by simp)
      distintas := hs.distintas
      trasDst := by
        have hmem : ∀ d ∈ s'.ruteo.rtInfo.map RtAuxInfo.dst, d ≠ Ruteo.sinGtw := by
          rw [hs.destinos]
          refine List.forall_mem_append.mpr ⟨?_, List.forall_mem_singleton.mpr hdst⟩
          exact List.forall_mem_singleton.mpr (show In6Addr.zero ≠ Ruteo.sinGtw by decide)
        exact fun e he => hmem e.dst (List.mem_map_of_mem he)
      antes := volcado_rutasDesde hs
      luego := fun rt hrt => by
        change rt ∈ Ruteo.rutaIncompleta pkt.dst :: _ ↔ _
        rw [List.mem_cons, Finset.mem_insert, volcado_rutasDesde hs rt hrt]
        rfl
      igual := rfl }

/-- The square is ready. -/
lemma listo_cruce {l : ℕ} (htipo : ∀ n, ¬ (0 < pkt.tipo n ∧ pkt.tipo n < 5))
    (hred : pkt.dst.s6Addr16 0 = a.s6Addr16 0) (hsrca : pkt.src ≠ a) (hsrc : pkt.src ≠ pkt.dst) (hdst : pkt.dst ≠ a)
    (hgtw : pkt.dst ≠ Ruteo.sinGtw) (hmide : (esquina pkt.dst a).Mide w pkt)
    (hcons : ¬ EstadoRoute.consumible (esquina pkt.dst a).nodo pkt) (hl : Paso.Lado 2 w pkt a l) (c : Cabecera) :
    (cruce pkt.dst a).Listo 2 pkt a c where
  entra := listo_esquina htipo hred hsrca c
  sale s' hs' := by
    obtain ⟨u, i, hu, hs⟩ := Paso.exists_route (listo_esquina htipo hred hsrca c) hmide hsrc hdst hcons hl
    obtain ⟨-, rfl⟩ := Prod.mk.inj (Option.some.inj (hs'.symm.trans hu))
    exact reenvia_cruce hs hgtw

end Esquina

/-- The source is not in the square. -/
lemma fuera_ne {a : In6Addr} (h : Cubo 2 root a) : slotAddr root 2 ≠ a := by
  rintro rfl
  have hbit : (slotAddr root 2).hostBit 2 = root.hostBit 2 := h.hostBit_eq (by decide) (by decide)
  exact absurd hbit (by decide)

lemma lado_fuera {a dst : In6Addr} {w l : ℕ} (h : Cubo 2 root a) (hl : l < 2) (hlw : l < w)
    (hdif : dst.hostBit l ≠ a.hostBit l) (t : UChar) : Paso.Lado 2 w (paqueteFuera t dst) a l :=
  ⟨hl, hlw, by omega, hdif, (fuera_ne (h.slotAddr hl (by omega))).symm⟩

/-! ## Delivery -/

open Transito

/-- No edge towards the destination leads to where the packet says it comes from, which is no closer than `a₀`. -/
lemma lado_of_lejos {k w l : ℕ} {pkt : PaqueteIp} {b a a₀ : In6Addr}
    (hfrom : Cubo k b pkt.fromAddr → distHasta w pkt.dst a₀ ≤ distHasta w pkt.dst pkt.fromAddr) (hcubo : Cubo k b a)
    (hle : distHasta w pkt.dst a ≤ distHasta w pkt.dst a₀) (hlk : l < k) (hlw : l < w) (hl : l < 64)
    (hdif : pkt.dst.hostBit l ≠ a.hostBit l) : Paso.Lado k w pkt a l := by
  refine ⟨hlk, hlw, hl, hdif, fun heq => ?_⟩
  have hdist := distHasta_slotAddr hl hlw hdif
  have hlejos := hfrom (heq ▸ hcubo.slotAddr hlk hl)
  rw [heq] at hdist
  omega

/-- There are hops left. -/
lemma ttl_tras {t d d₀ : ℕ} {c₀ : Cabecera} (httl : 2 * d₀ < c₀.ttl.toNat) (h : t + d = d₀) (hd : 0 < d) :
    2 < (c₀.tras t).ttl.toNat := by
  rw [Cabecera.toNat_tras (by omega)]
  omega

/-- **Delivery.**  In a hypercube whose nodes have their neighbours, the first packet for a destination comes there,
after as many hops as bits are different.  Each of them takes two from the hop limit. -/
theorem entrega_en_cubo {k : ℕ} (hk : k ≤ 64) (red : ℕ → In6Addr → Transito) (pkt : PaqueteIp) {a₀ : In6Addr}
    (c₀ : Cabecera) (hcubo : Cubo k pkt.dst a₀) (hsrc : pkt.src ≠ pkt.dst)
    (hfrom : Cubo k pkt.dst pkt.fromAddr → dist pkt.dst a₀ ≤ dist pkt.dst pkt.fromAddr)
    (hcomun : ∀ n, pkt.tipo n ∉ Ruteo.tiposRv) (hdst : ∀ t, (red t pkt.dst).entra.nodo.primAddr = pkt.dst)
    (httl : 2 * dist pkt.dst a₀ < c₀.ttl.toNat)
    (hred : ∀ t a, Cubo k pkt.dst a → a ≠ pkt.dst → t + dist pkt.dst a = dist pkt.dst a₀ →
      (red t a).Listo k pkt a (c₀.tras t)) :
    Descent.Arrives (salta red pkt) (entrega red pkt) (dist pkt.dst a₀) 0 ⟨a₀, c₀⟩ := by
  simp only [dist_eq_distHasta_word] at hfrom httl hred ⊢
  refine arrives_of_salta hcubo ?_ ?_
  · intro t x hx hzero
    have heq : x.nodo = pkt.dst := by
      refine hx.cubo.eq_of_distHasta ?_
      rw [← dist_eq_distHasta hx.cubo hk, dist_eq_distHasta_word]
      exact hzero
    exact ⟨heq, Paso.exists_encamina (by rw [heq, hdst]) x.cabecera⟩
  · intro t x hx hpos
    -- behind the edges of the cube no bit is different
    have hdentro {i : ℕ} (hi : i < 64) (hdif : pkt.dst.hostBit i ≠ x.nodo.hostBit i) : i < k := by
      by_contra hik
      exact hdif (hx.cubo.hostBit_eq (by omega) hi).symm
    obtain ⟨l, hl, hldif⟩ := exists_of_distHasta_pos hpos
    have hne : x.nodo ≠ pkt.dst := by
      intro heq
      exact hldif (by rw [heq])
    have hlado := lado_of_lejos hfrom hx.cubo (hx.hecho ▸ Nat.le_add_left _ t) (hdentro hl hldif) hl hl hldif
    have hcab := hx.cabecera hne
    obtain ⟨i, -, hi, hdif, hy⟩ := salta_cases (hcab ▸ hred t x.nodo hx.cubo hne hx.hecho)
      (Paso.mide_of_comun (hcomun _)) hsrc hne.symm (fun hcons => hcomun _ hcons.1.1) hlado
      (hcab ▸ ttl_tras httl hx.hecho hpos)
    exact ⟨i, hdentro hi hdif, hi, hi, hdif, hy⟩

/-- The corners of the square. -/
lemma cubo_diagonal : Cubo 2 root diagonal :=
  ((Cubo.refl 2 root).slotAddr (i := 0) (by decide) (by decide)).slotAddr (i := 1) (by decide) (by decide)

/-- Over two edges of the square, with five hops left. -/
theorem entrega_en_cubo_esquinas :
    Descent.Arrives (salta (fun _ => cruce diagonal) (paqueteFuera 0 diagonal))
      (entrega (fun _ => cruce diagonal) (paqueteFuera 0 diagonal)) (dist diagonal root) 0 ⟨root, ⟨0, 5⟩⟩ := by
  have hcomun (n : Node) : (paqueteFuera 0 diagonal).tipo n ∉ Ruteo.tiposRv := by
    rw [tipo_paqueteFuera]
    decide
  refine entrega_en_cubo (k := 2) (by decide) _ (paqueteFuera 0 diagonal) ⟨0, 5⟩ cubo_diagonal.symm (by decide)
    (fun _ => by decide) hcomun (fun _ => rfl) (by decide) fun t a ha hne _ => ?_
  have hroot : Cubo 2 root a := fun p hp hout => (ha p hp hout).trans (cubo_diagonal p hp hout)
  obtain ⟨l, hl, hldif⟩ := exists_of_distHasta_pos (Nat.pos_of_ne_zero (mt ha.eq_of_distHasta hne))
  refine listo_cruce (fun n => ?_) ha.s6Addr16_zero.symm (fuera_ne hroot) (by decide) (Ne.symm hne) (by decide)
    (Paso.mide_of_comun (hcomun _)) (fun hcons => hcomun _ hcons.1.1)
    (lado_fuera hroot hl (by omega) hldif 0) _
  rw [tipo_paqueteFuera]
  decide

/-! ## The rendezvous -/

namespace Paso

/-- A node whose block has the mask, as have those of its neighbours.  It has recovered nothing, and has no secondary
address. -/
structure Hoja (mask : UChar) (p : Paso) : Prop where
  primMask : p.nodo.primMask = mask
  vecinos : ∀ it ∈ p.estado.ruteo.neighTable, it.primMask = mask
  rcvdAddr : p.nodo.rcvdAddr = []
  secAddrFlag : p.nodo.secAddrFlag = false

section Hoja

variable {mask : UChar} {p : Paso} {dst : In6Addr}

lemma Hoja.responde_iff (h : p.Hoja mask) :
    p.nodo.responde dst ↔ distHasta mask.toNat dst p.nodo.primAddr = 0 := by
  rw [distHasta, BitCount.countP_eq_zero_iff]
  simp only [bne_eq_false_iff_eq]
  rw [← checkAddrSpace_eq_zero_iff]
  constructor
  · rintro (hprim | ⟨r, hr, -⟩ | ⟨hsec, -⟩)
    · exact h.primMask ▸ hprim
    · rw [h.rcvdAddr] at hr
      exact absurd hr List.not_mem_nil
    · rw [h.secAddrFlag] at hsec
      exact absurd hsec Bool.false_ne_true
  · exact fun hprim => Or.inl (h.primMask.symm ▸ hprim)

lemma Hoja.not_soloRecupera (h : p.Hoja mask) : ¬ p.nodo.soloRecupera dst := by
  rintro ⟨-, -, hsec, -⟩
  rw [h.secAddrFlag] at hsec
  exact absurd hsec Bool.false_ne_true

/-- The node consumes the packets for its block. -/
lemma Hoja.exists_encamina {pkt : PaqueteIp} (h : p.Hoja mask) (c : Cabecera)
    (hpasa : ¬ EstadoRoute.pasaDirecto { p.env with hook := nfIp6PreRouting } p.nodo pkt)
    (hrv : pkt.tipo p.nodo ∈ Ruteo.tiposRv) (hne : pkt.dst ≠ p.nodo.primAddr)
    (hzero : distHasta mask.toNat pkt.dst p.nodo.primAddr = 0)
    (hmem : (procesarRv p.env.rv (pkt.trama p.nodo.primAddr) p.estado.rv).isSome) :
    EstadoRoute.consumible p.nodo pkt
      ∧ ∃ s', p.encamina nfIp6PreRouting pkt c = some (some rvDrop, s') ∧ s'.dichos = p.estado.dichos ++ [rvDrop] := by
  have hcons : EstadoRoute.consumible p.nodo pkt := ⟨⟨hrv, hne⟩, h.responde_iff.mpr hzero, h.not_soloRecupera⟩
  obtain ⟨rv, hproc⟩ := Option.isSome_iff_exists.mp hmem
  refine ⟨hcons, ?_⟩
  rcases EstadoRoute.route_cases (p.con nfIp6PreRouting c).env p.nodo pkt (p.con nfIp6PreRouting c).estado with
    hcase | ⟨-, -, hroute⟩ | hcase
  · exact absurd hcase.1 hpasa
  · exact ⟨_, hroute.trans (congrArg (Option.map _) hproc), rfl⟩
  · exact absurd hcons hcase.2.1

/-- The others do not. -/
lemma Hoja.not_consumible {pkt : PaqueteIp} (h : p.Hoja mask)
    (hpos : 0 < distHasta mask.toNat pkt.dst p.nodo.primAddr) : ¬ EstadoRoute.consumible p.nodo pkt := by
  rintro ⟨-, hresp, -⟩
  exact hpos.ne' (h.responde_iff.mp hresp)

end Hoja

end Paso

lemma hoja_esquina (dst a : In6Addr) : (esquina dst a).Hoja 2 where
  primMask := rfl
  vecinos it hit := by
    obtain ⟨i, -, rfl⟩ := List.mem_map.mp hit
    rfl
  rcvdAddr := rfl
  secAddrFlag := rfl

/-- **Rendezvous.**  Where the nodes share the addresses of the hypercube among them, a packet of the rendezvous is
consumed by the node that has its destination in its block, after as many hops as bits are different under the
mask. -/
theorem registro_en_cubo {mask : UChar} (hmask : mask.toNat ≤ 64) (red : ℕ → In6Addr → Transito) (pkt : PaqueteIp)
    {a₀ : In6Addr} (c₀ : Cabecera) (hsrc : pkt.src ≠ pkt.dst)
    (hfrom : Cubo mask.toNat a₀ pkt.fromAddr →
      distHasta mask.toNat pkt.dst a₀ ≤ distHasta mask.toNat pkt.dst pkt.fromAddr)
    (hrv : ∀ n, pkt.tipo n ∈ Ruteo.tiposRv) (hprim : ∀ t a, Cubo mask.toNat a₀ a → (red t a).entra.nodo.primAddr = a)
    (hhoja : ∀ t a, Cubo mask.toNat a₀ a → (red t a).entra.Hoja mask)
    (hpasa : ∀ t a, Cubo mask.toNat a₀ a → distHasta mask.toNat pkt.dst a = 0 → a ≠ pkt.dst →
      ¬ EstadoRoute.pasaDirecto { (red t a).entra.env with hook := nfIp6PreRouting } (red t a).entra.nodo pkt)
    (hmem : ∀ t a, Cubo mask.toNat a₀ a → distHasta mask.toNat pkt.dst a = 0 → a ≠ pkt.dst →
      (procesarRv (red t a).entra.env.rv (pkt.trama (red t a).entra.nodo.primAddr) (red t a).entra.estado.rv).isSome)
    (httl : 2 * distHasta mask.toNat pkt.dst a₀ < c₀.ttl.toNat)
    (hred : ∀ t a, Cubo mask.toNat a₀ a → 0 < distHasta mask.toNat pkt.dst a →
      t + distHasta mask.toNat pkt.dst a = distHasta mask.toNat pkt.dst a₀ →
      (red t a).Listo mask.toNat pkt a (c₀.tras t)) :
    Descent.Arrives (salta red pkt) (atiende red pkt) (distHasta mask.toNat pkt.dst a₀) 0 ⟨a₀, c₀⟩ := by
  refine arrives_of_salta (Cubo.refl mask.toNat a₀) ?_ ?_
  · intro t x hx hzero
    have hnodo := hprim t x.nodo hx.cubo
    by_cases hdst : x.nodo = pkt.dst
    · exact Or.inl ⟨hdst, Paso.exists_encamina (hnodo.trans hdst) x.cabecera⟩
    · refine Or.inr ((hhoja t x.nodo hx.cubo).exists_encamina x.cabecera (hpasa t x.nodo hx.cubo hzero hdst) (hrv _)
        ?_ ?_ (hmem t x.nodo hx.cubo hzero hdst))
      · rw [hnodo]
        exact Ne.symm hdst
      · rw [hnodo]
        exact hzero
  · intro t x hx hpos
    obtain ⟨l, hl, hldif⟩ := exists_of_distHasta_pos hpos
    have hne : x.nodo ≠ pkt.dst := by
      intro heq
      exact hldif (by rw [heq])
    have hh := hhoja t x.nodo hx.cubo
    have hcons : ¬ EstadoRoute.consumible (red t x.nodo).entra.nodo pkt := by
      refine hh.not_consumible ?_
      rw [hprim t x.nodo hx.cubo]
      exact hpos
    have hlado := lado_of_lejos hfrom hx.cubo (hx.hecho ▸ Nat.le_add_left _ t) hl hl (by omega) hldif
    have hcab := hx.cabecera hne
    obtain ⟨i, hiw, hi, hdif, hy⟩ := salta_cases (hcab ▸ hred t x.nodo hx.cubo hpos hx.hecho)
      (Paso.mide_of_rv hmask (hrv _) hh.vecinos) hsrc hne.symm hcons hlado (hcab ▸ ttl_tras httl hx.hecho hpos)
    exact ⟨i, hiw, hiw, hi, hdif, hy⟩

/-- A registration for an address in the block of the corner across. -/
theorem registro_en_cubo_esquinas :
    Descent.Arrives (salta (fun _ => cruce (slotAddr diagonal 5)) (paqueteFuera 9 (slotAddr diagonal 5)))
      (atiende (fun _ => cruce (slotAddr diagonal 5)) (paqueteFuera 9 (slotAddr diagonal 5)))
      (distHasta (2 : UChar).toNat (slotAddr diagonal 5) root) 0 ⟨root, ⟨0, 5⟩⟩ := by
  have hrv (n : Node) : (paqueteFuera 9 (slotAddr diagonal 5)).tipo n ∈ Ruteo.tiposRv := by
    rw [tipo_paqueteFuera]
    decide
  have htipo (n : Node) : ¬ (0 < (paqueteFuera 9 (slotAddr diagonal 5)).tipo n
      ∧ (paqueteFuera 9 (slotAddr diagonal 5)).tipo n < 5) := by
    rw [tipo_paqueteFuera]
    decide
  refine registro_en_cubo (by decide) _ (paqueteFuera 9 (slotAddr diagonal 5)) ⟨0, 5⟩ (by decide) (fun _ => by decide)
    hrv (fun _ _ _ => rfl) (fun _ a _ => hoja_esquina _ a) (fun _ a ha _ _ => ?_) (fun _ a _ _ _ => ?_) (by decide)
    fun t a ha hpos _ => ?_
  · exact pasa_esquina htipo ha.s6Addr16_zero.symm (fuera_ne ha) _
  · unfold PaqueteRv.trama
    split <;>
      exact show (procesarRv EstadoRoute.entornoConRuta.rv ⟨9, paqueteUsado, []⟩ ⟨[], [], []⟩).isSome by decide
  · obtain ⟨l, hl, hldif⟩ := exists_of_distHasta_pos hpos
    have hne : slotAddr diagonal 5 ≠ a := by
      intro heq
      exact hldif (congrArg (fun b => b.hostBit l) heq)
    exact listo_cruce htipo ha.s6Addr16_zero.symm (fuera_ne ha) (by decide) hne (by decide)
      (Paso.mide_of_rv (by decide) (hrv _) (hoja_esquina _ a).vecinos)
      ((hoja_esquina _ a).not_consumible hpos) (lado_fuera ha hl hl hldif 9) _

end Antop
