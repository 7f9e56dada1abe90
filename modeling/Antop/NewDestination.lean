import Antop.ReverseEntry
import Antop.RtTimers

/-!
# A new destination

What `send_to_next_neighbor` does with a packet where it finds no route with a gateway and the dumps say what the
kernel has: a route is added and found, the entry of `rt_info` is a new one, and the only neighbour that counts as
visited is the one that the packet comes from.

* `Volcado`, `Abierto` — a dump that is right, and a node where all are; `Fresco` — it has no route to the destination.
* `Abierto.rutaPara`, `Abierto.infoPara`, `exists_marcarOrigen`, `exists_elegirVecino`, `exists_instalarPkt` — its
  steps.
* `Instala`, **`exists_siguiente`** — the packet gets a route to the closest neighbour; **`Fresco.exists_siguiente`** —
  and no other one.
* `Mantiene` — what happens to the routes to other addresses changes none of this.
-/

namespace Antop

namespace Ruteo

variable {env : EntornoRuta} {pkt : Paquete} {s s' : Ruteo}

/-! ## A new destination -/

/-- A dump says of the routes to `dst` what the kernel has. -/
def Volcado (dst : In6Addr) (volcado : List RtRouteParam) (kernel : Finset RtRouteParam) : Prop :=
  ∀ rt, rt.dst = dst → (rt ∈ volcado ↔ rt ∈ kernel)

/-- The route that is added first, which has no gateway yet. -/
def rutaIncompleta (dst : In6Addr) : RtRouteParam := ⟨dst, sinGtw, 128, maxTtl⟩

/-- The dumps say of the routes to the destination what the kernel has, then and after the route is added.  No entry of
`rt_info` has what `add_rt_info` finds behind its argument for a destination. -/
structure Abierto (env : EntornoRuta) (pkt : Paquete) (s : Ruteo) : Prop where
  info : s.rtInfo ≠ []
  distintas : s.Distintas
  trasDst : ∀ e ∈ s.rtInfo, e.dst ≠ env.info.trasDst
  antes : Volcado pkt.dst (env.volcado 0) s.kernel
  luego : Volcado pkt.dst (env.volcado 1) (insert (rutaIncompleta pkt.dst) s.kernel)
  igual : env.volcado 4 = env.volcado 1

/-- The node has no route to the destination of the packet. -/
structure Fresco (env : EntornoRuta) (pkt : Paquete) (s : Ruteo) : Prop extends Abierto env pkt s where
  kernel : ∀ r ∈ s.kernel, r.dst ≠ pkt.dst

/-- The routes to the destination that there are have no gateway. -/
def SinRuta (dst : In6Addr) (s : Ruteo) : Prop := ∀ r ∈ s.kernel, r.dst = dst → r.gtw = dst

lemma Fresco.sinRuta (h : Fresco env pkt s) : s.SinRuta pkt.dst := fun r hr hdst => absurd hdst (h.kernel r hr)

/-- The search for the last route to `dst` finds one, where there is one. -/
lemma ultimaRuta_cases (dst : In6Addr) (rts : List RtRouteParam) (i : ℕ) (rtId : Option ℕ) :
    ultimaRuta dst rts i rtId = rtId ∧ (∀ rt ∈ rts, rt.dst ≠ dst)
      ∨ ∃ j rt, ultimaRuta dst rts i rtId = some (i + j) ∧ rts[j]? = some rt ∧ rt.dst = dst := by
  induction rts generalizing i rtId with
  | nil => exact Or.inl ⟨rfl, fun _ hrt => absurd hrt List.not_mem_nil⟩
  | cons rt rts ih =>
      rw [ultimaRuta]
      rcases ih (i + 1) (if rt.dst = dst then some i else rtId) with ⟨hid, hno⟩ | ⟨j, rt', hid, hget, hdst⟩
      · rw [hid]
        by_cases hdst : rt.dst = dst
        · rw [if_pos hdst]
          exact Or.inr ⟨0, rt, rfl, rfl, hdst⟩
        · rw [if_neg hdst]
          exact Or.inl ⟨rfl, List.forall_mem_cons.mpr ⟨hdst, hno⟩⟩
      · exact Or.inr ⟨j + 1, rt', by rw [hid]; congr 1; omega, hget, hdst⟩

/-- A route is added, and one is found. -/
lemma Abierto.rutaPara (h : Abierto env pkt s) (hsin : s.SinRuta pkt.dst) :
    ∃ j vieja, s.rutaPara env pkt = (s.addRtRoute (rutaIncompleta pkt.dst) env.clock, some (some j, none))
      ∧ (env.volcado 1)[j]? = some vieja ∧ vieja.dst = pkt.dst := by
  have hno : ¬ hayRuta env pkt := by
    rintro ⟨rt, hrt, hdst, hgtw⟩
    exact hgtw (hsin rt ((h.antes rt hdst).mp hrt) hdst)
  have hmem : rutaIncompleta pkt.dst ∈ env.volcado 1 := (h.luego _ rfl).mpr (Finset.mem_insert_self _ _)
  rcases ultimaRuta_cases pkt.dst (env.volcado 1) 0 none with ⟨-, hnone⟩ | ⟨j, rt, hid, hget, hdst⟩
  · exact absurd rfl (hnone _ hmem)
  · refine ⟨j, rt, ?_, hget, hdst⟩
    rw [Ruteo.rutaPara, if_neg hno, hid, Nat.zero_add]
    rfl

/-- The state with a new entry. -/
def conEntrada (m : MemInfo) (dst : In6Addr) (src : Option In6Addr) (id : UChar) (s : Ruteo) : Ruteo :=
  ({ s with
      rtInfo := s.rtInfo ++ [nuevaInfo m dst src id s.mallocs]
      mallocs := s.mallocs + 1 }.armar (.vbT s.mallocs) ⟨dst, .zero, 0, 0⟩ tVb m.clockVb).armar (.routeT s.mallocs)
    ⟨dst, m.paramGtw, 128, m.paramDistance⟩ tRoute m.clockRoute

/-- `add_rt_info` appends an entry when no other one is taken for it. -/
lemma addRtInfo_eq_conEntrada {m : MemInfo} (hinfo : s.rtInfo ≠ []) (htras : ∀ e ∈ s.rtInfo, e.dst ≠ m.trasDst)
    (dst : In6Addr) (src : Option In6Addr) (id : UChar) :
    s.addRtInfo m dst src id = some (s.conEntrada m dst src id, s.mallocs) := by
  have hno : (s.rtInfo.dropLast.find? fun e => e.dst = m.trasDst) = none := by
    refine List.find?_eq_none.mpr fun e he => ?_
    rw [decide_eq_true_eq]
    exact htras e ((List.dropLast_prefix _).subset he)
  unfold addRtInfo
  rw [if_neg hinfo, hno]
  rfl

/-- The entry is a new one. -/
lemma Abierto.infoPara (h : Abierto env pkt s) (j : ℕ) :
    ∃ v e, (s.addRtRoute (rutaIncompleta pkt.dst) env.clock).infoPara env pkt (some j) none = some (v, e.id)
      ∧ v.neighTable = s.neighTable ∧ v.kernel = insert (rutaIncompleta pkt.dst) s.kernel
      ∧ v.rtInfo = s.rtInfo ++ [e] ∧ s.mallocs < e.id ∧ (∀ i, e.visitedBitmap i = false) ∧ e.count = 0
      ∧ e.dst = pkt.dst :=
  ⟨(s.addRtRoute (rutaIncompleta pkt.dst) env.clock).conEntrada env.info pkt.dst none (BitVec.ofNat 8 j),
    nuevaInfo env.info pkt.dst none (BitVec.ofNat 8 j) (s.mallocs + 1),
    addRtInfo_eq_conEntrada (s := s.addRtRoute (rutaIncompleta pkt.dst) env.clock) h.info h.trasDst pkt.dst none
      (BitVec.ofNat 8 j), rfl, rfl, rfl, Nat.lt_succ_self _, fun _ => rfl, rfl, rfl⟩

/-- The last entry is found by its number, also when the entries have been changed. -/
lemma find?_map_append {old : List RtAuxInfo} {e : RtAuxInfo} (hold : ∀ x ∈ old, x.id ≠ e.id)
    {f : RtAuxInfo → RtAuxInfo} (hf : ∀ x, (f x).id = x.id) :
    ((old ++ [e]).map f).find? (fun x => x.id = e.id) = some (f e) := by
  have hno : (old.map f).find? (fun x => x.id = e.id) = none := by
    refine List.find?_eq_none.mpr fun x hx => ?_
    obtain ⟨y, hy, rfl⟩ := List.mem_map.mp hx
    rw [decide_eq_true_eq, hf]
    exact hold y hy
  rw [List.map_append, List.find?_append, hno, Option.none_or]
  exact List.find?_cons_of_pos (decide_eq_true (hf e))

/-- What is marked in an entry, by its number, where the packet comes from a neighbour. -/
lemma exists_marcarOrigen (hcabe : s.neighTable.length ≤ maxNeighbors) {old : List RtAuxInfo} {e : RtAuxInfo}
    (hinfo : s.rtInfo = old ++ [e]) (hold : ∀ x ∈ old, x.id ≠ e.id) (hvis : ∀ i, e.visitedBitmap i = false)
    (hcount : e.count = 0) :
    ∃ w e', s.marcarOrigen pkt e.id = some w ∧ w.neighTable = s.neighTable ∧ w.kernel = s.kernel
      ∧ w.rtInfo.find? (fun x => x.id = e.id) = some e' ∧ e'.count < neighborsBeforeParent
      ∧ ∀ i it, e'.visitedBitmap i = true → s.neighTable[i.val]? = some it → it.primAddr = pkt.fromAddr := by
  unfold marcarOrigen
  split
  · rename_i hnone
    refine ⟨s, e, rfl, rfl, rfl, ?_, by rw [hcount]; decide, fun i it hi _ => ?_⟩
    · have hid := find?_map_append hold (f := id) fun _ => rfl
      rwa [List.map_id, ← hinfo] at hid
    · rw [hvis i] at hi
      exact absurd hi Bool.false_ne_true
  · rename_i i hi
    obtain ⟨hlt, haddr, -⟩ := List.findIdx?_eq_some_iff_getElem.mp hi
    have him : i < maxNeighbors := hlt.trans_le hcabe
    have hmarcar : s.marcar e.id i pkt.dst pkt.fromAddr = some { s with
        rtInfo := s.rtInfo.map fun x =>
          if x.id = e.id then RtAuxInfo.marcar ⟨i, him⟩ pkt.dst pkt.fromAddr x else x } :=
      dif_pos him
    have hid := find?_map_append hold
      (f := (fun x => if x.id = e.id then { x with count := x.count + 1 } else x) ∘
        fun x => if x.id = e.id then RtAuxInfo.marcar ⟨i, him⟩ pkt.dst pkt.fromAddr x else x)
      fun x => by
        rw [Function.comp_apply]
        split_ifs <;> rfl
    rw [← hinfo, ← List.map_map, Function.comp_apply] at hid
    rw [hmarcar, Option.map_some]
    rw [if_pos rfl, if_pos (show (RtAuxInfo.marcar ⟨i, him⟩ pkt.dst pkt.fromAddr e).id = e.id from rfl)] at hid
    refine ⟨_, _, rfl, rfl, rfl, hid, ?_, fun j it hj hit => ?_⟩
    · change e.count + 1 < neighborsBeforeParent
      rw [hcount]
      decide
    · change Function.update e.visitedBitmap ⟨i, him⟩ true j = true at hj
      by_cases hji : j = ⟨i, him⟩
      · subst hji
        rw [List.getElem?_eq_getElem hlt] at hit
        obtain rfl := Option.some.inj hit
        exact of_decide_eq_true haddr
      · rw [Function.update_of_ne hji, hvis j] at hj
        exact absurd hj Bool.false_ne_true

lemma mem_porVisitar {e : RtAuxInfo} {c : Fin maxNeighbors × Neighbor} :
    c ∈ s.porVisitar e ↔ s.neighTable[c.1.val]? = some c.2 ∧ libre e c.1 c.2 := by
  rw [← libres_eq, mem_libres, Nat.sub_zero, and_iff_right (Nat.zero_le _)]

/-- The first neighbours that are tried are the closest ones. -/
lemma exists_elegirVecino {e : RtAuxInfo} (hne : s.porVisitar e ≠ []) (hcount : e.count < neighborsBeforeParent)
    (hmask : ∀ it ∈ s.neighTable, it.primMask.toNat ≤ 64) :
    ∃ c ∈ s.porVisitar e, s.elegirVecino env pkt e = some c.1
      ∧ ∀ x ∈ s.porVisitar e, distancia env pkt c.2 ≤ distancia env pkt x.2 := by
  have hcota : ∀ c ∈ s.porVisitar e, distancia env pkt c.2 < 10000 := by
    intro c hc
    have hle := distancia_le env pkt (hmask c.2 (List.mem_of_getElem? (mem_porVisitar.mp hc).1))
    omega
  obtain ⟨c, hfold, hmejor⟩ := TieMin.foldl_paso (fun c : Fin maxNeighbors × Neighbor => distancia env pkt c.2)
    (fun c => checkAddrSpace pkt.dst c.2.primAddr c.2.primMask = 0) hne hcota
  refine ⟨c, hmejor.mem, ?_, hmejor.le⟩
  rw [elegirVecino, if_pos hcount, masCercano_eq hfold]

lemma exists_marcar {i : ℕ} (hi : i < maxNeighbors) (info : ℕ) (dst addr : In6Addr) (s : Ruteo) :
    ∃ u, s.marcar info i dst addr = some u ∧ u.kernel = s.kernel ∧ u.neighTable = s.neighTable :=
  ⟨_, dif_pos hi, rfl, rfl⟩

/-- Marks do not change the destination of an entry. -/
lemma destinos_marcar {u : Ruteo} {info i : ℕ} {dst addr : In6Addr} (h : s.marcar info i dst addr = some u) :
    u.rtInfo.map RtAuxInfo.dst = s.rtInfo.map RtAuxInfo.dst := by
  unfold marcar at h
  split_ifs at h
  obtain rfl := Option.some.inj h
  rw [List.map_map]
  refine List.map_congr_left fun e _ => ?_
  rw [Function.comp_apply]
  split_ifs
  · rfl
  · rfl

lemma destinos_marcarOrigen {u : Ruteo} {info : ℕ} (h : s.marcarOrigen pkt info = some u) :
    u.rtInfo.map RtAuxInfo.dst = s.rtInfo.map RtAuxInfo.dst := by
  unfold marcarOrigen at h
  split at h
  · obtain rfl := Option.some.inj h
    rfl
  · obtain ⟨v, hv, rfl⟩ := Option.map_eq_some_iff.mp h
    rw [← destinos_marcar hv, List.map_map]
    refine List.map_congr_left fun e _ => ?_
    rw [Function.comp_apply]
    split_ifs
    · rfl
    · rfl

/-- The route to the neighbour is installed in the place of the one that has been found. -/
lemma exists_instalarPkt (h : Abierto env pkt s) {w : Ruteo} {j : ℕ} {vieja : RtRouteParam}
    (hj : (env.volcado 1)[j]? = some vieja) (hdst : vieja.dst = pkt.dst) {nhIdx : Fin maxNeighbors} {it : Neighbor}
    (hit : w.neighTable[nhIdx.val]? = some it) (info : ℕ) (c : Cabecera) :
    ∃ u, w.instalarPkt env pkt info (some j) nhIdx c = some ({ c with ttl := c.ttl - 1 }, u)
      ∧ u.kernel = insert { vieja with gtw := it.primAddr, mask := 128 } (w.kernel.erase vieja)
      ∧ u.neighTable = w.neighTable ∧ u.rtInfo.map RtAuxInfo.dst = w.rtInfo.map RtAuxInfo.dst := by
  have hvolcado : (env.volcado 4)[j]? = some vieja := by rw [h.igual, hj]
  have hsame : ¬ vieja.dst ≠ pkt.dst := not_not.mpr hdst
  obtain ⟨u, hu, hku, htu⟩ := exists_marcar nhIdx.isLt info pkt.dst it.primAddr
    ((w.delRtRoute vieja).addRtRoute { vieja with gtw := it.primAddr, mask := 128 } env.clock)
  have hinstalar : w.instalar env pkt info (some j) nhIdx = some u := by
    simp only [instalar, Option.map_some, hvolcado, Option.bind_eq_bind, Option.bind_some]
    rw [if_neg hsame, hit, Option.bind_some]
    exact hu
  refine ⟨u, ?_, hku, htu, ?_⟩
  · simp only [instalarPkt, Option.map_some, hvolcado, Option.bind_eq_bind, Option.bind_some, hinstalar]
    rw [if_neg hsame]
    rfl
  · rw [destinos_marcar hu]
    rfl

/-- The steps of `send_to_next_neighbor` where a neighbour is left. -/
lemma sendToNextNeighborPkt_eq {u v w : Ruteo} {rtId old : Option ℕ} {info : ℕ} {e : RtAuxInfo}
    {nhIdx : Fin maxNeighbors} {c : Cabecera} {p : Cabecera × Ruteo} (htab : s.neighTable ≠ [])
    (hruta : s.rutaPara env pkt = (u, some (rtId, old))) (hinfo : u.infoPara env pkt rtId old = some (v, info))
    (hmarca : v.marcarOrigen pkt info = some w) (hfind : w.rtInfo.find? (fun x => x.id = info) = some e)
    (hne : w.porVisitar e ≠ []) (helegir : w.elegirVecino env pkt e = some nhIdx)
    (hp : w.instalarPkt env pkt info rtId nhIdx c = some p) : s.sendToNextNeighborPkt env pkt c = some p := by
  unfold sendToNextNeighborPkt
  rw [if_neg htab, hruta]
  simp only [hinfo, hmarca, hfind, Option.bind_eq_bind, Option.bind_some]
  rw [if_neg hne, helegir]
  exact hp

/-- The packet takes its hop to `it`, whose route stands in the place of `vieja`.  One entry is new in `rt_info`. -/
structure Instala (pkt : Paquete) (c : Cabecera) (s : Ruteo) (it : Neighbor) (vieja : RtRouteParam)
    (p : Cabecera × Ruteo) : Prop where
  cabecera : p.1 = { c with ttl := c.ttl - 1 }
  kernel : p.2.kernel = insert { vieja with gtw := it.primAddr, mask := 128 }
    ((insert (rutaIncompleta pkt.dst) s.kernel).erase vieja)
  neighTable : p.2.neighTable = s.neighTable
  destinos : p.2.rtInfo.map RtAuxInfo.dst = s.rtInfo.map RtAuxInfo.dst ++ [pkt.dst]
  crece : Crece s p.2

/-- **Without a route.**  The packet gets a route to the closest available neighbour, other than the one it comes
from. -/
theorem exists_siguiente (h : Abierto env pkt s) (hsin : s.SinRuta pkt.dst)
    (hmask : ∀ it ∈ s.neighTable, it.primMask.toNat ≤ 64) (hcabe : s.neighTable.length ≤ maxNeighbors)
    (hnext : ∃ it ∈ s.neighTable, it.available = true ∧ it.primAddr ≠ pkt.fromAddr) (c : Cabecera) :
    ∃ p it vieja, s.sendToNextNeighborPkt env pkt c = some p ∧ it ∈ s.neighTable
      ∧ (∀ x ∈ s.neighTable, x.available = true → x.primAddr ≠ pkt.fromAddr →
        distancia env pkt it ≤ distancia env pkt x)
      ∧ Instala pkt c s it vieja p ∧ vieja ∈ insert (rutaIncompleta pkt.dst) s.kernel ∧ vieja.dst = pkt.dst := by
  obtain ⟨j, vieja, hruta, hj, hdst⟩ := h.rutaPara hsin
  obtain ⟨v, new, hinfo, htabv, hkernelv, hrtInfo, hid, hbitmap, hcero, hnew⟩ := h.infoPara j
  have hids : ∀ e ∈ s.rtInfo, e.id < s.mallocs := List.forall_mem_map.mp h.distintas.mallocs
  obtain ⟨w, e, hmarca, htab, hkernel, hfind, hcount, hvis⟩ :=
    exists_marcarOrigen (htabv ▸ hcabe) hrtInfo (fun x hx => ((hids x hx).trans hid).ne) hbitmap hcero
  have htab' : w.neighTable = s.neighTable := htab.trans htabv
  have hvisitar : ∀ x ∈ s.neighTable, x.available = true → x.primAddr ≠ pkt.fromAddr →
      ∃ i, (i, x) ∈ w.porVisitar e := by
    intro x hx hav hfrom
    obtain ⟨i, hxi⟩ := List.getElem?_of_mem hx
    have hi := (List.getElem?_eq_some_iff.mp hxi).1
    refine ⟨⟨i, hi.trans_le hcabe⟩, mem_porVisitar.mpr ⟨by rw [htab']; exact hxi, hav, ?_⟩⟩
    by_contra hmark
    exact hfrom (hvis _ x (Bool.eq_true_of_not_eq_false hmark) (by rw [htabv]; exact hxi))
  have hne : w.porVisitar e ≠ [] := by
    obtain ⟨x, hx, hav, hfrom⟩ := hnext
    obtain ⟨i, hi⟩ := hvisitar x hx hav hfrom
    exact List.ne_nil_of_mem hi
  obtain ⟨⟨nhIdx, it⟩, hmem, helegir, hle⟩ := exists_elegirVecino hne hcount (htab'.symm ▸ hmask)
  have hit := (mem_porVisitar.mp hmem).1
  obtain ⟨u, hu, hkernelu, htabu, hdestinos⟩ := exists_instalarPkt h hj hdst hit new.id c
  have hin : it ∈ s.neighTable := htab' ▸ List.mem_of_getElem? hit
  have hsend := sendToNextNeighborPkt_eq (List.ne_nil_of_mem hin) hruta hinfo hmarca hfind hne helegir hu
  refine ⟨_, it, vieja, hsend, hin, fun x hx hav hfrom => ?_, ⟨rfl, ?_, htabu.trans htab', ?_, ?_⟩,
    (h.luego vieja hdst).mp (List.mem_of_getElem? hj), hdst⟩
  · obtain ⟨i, hi⟩ := hvisitar x hx hav hfrom
    exact hle (i, x) hi
  · rw [hkernelu, hkernel, hkernelv]
  · rw [hdestinos, destinos_marcarOrigen hmarca, hrtInfo, List.map_append, List.map_singleton, hnew]
  · exact crece_sendToNextNeighbor ((map_sendToNextNeighborPkt env pkt c s).symm.trans (congrArg _ hsend))

/-- **A new destination.**  The route to the neighbour is the only one then. -/
theorem Fresco.exists_siguiente (h : Fresco env pkt s) (hmask : ∀ it ∈ s.neighTable, it.primMask.toNat ≤ 64)
    (hcabe : s.neighTable.length ≤ maxNeighbors)
    (hnext : ∃ it ∈ s.neighTable, it.available = true ∧ it.primAddr ≠ pkt.fromAddr) (c : Cabecera) :
    ∃ p it, s.sendToNextNeighborPkt env pkt c = some p ∧ it ∈ s.neighTable
      ∧ (∀ x ∈ s.neighTable, x.available = true → x.primAddr ≠ pkt.fromAddr →
        distancia env pkt it ≤ distancia env pkt x)
      ∧ Instala pkt c s it (rutaIncompleta pkt.dst) p
      ∧ ∀ r, r.dst = pkt.dst → (r ∈ p.2.kernel ↔ r = ⟨pkt.dst, it.primAddr, 128, maxTtl⟩) := by
  obtain ⟨p, it, vieja, hp, hit, hle, hinst, hvieja, hdst⟩ :=
    Ruteo.exists_siguiente h.toAbierto h.sinRuta hmask hcabe hnext c
  obtain rfl : vieja = rutaIncompleta pkt.dst := by
    rcases Finset.mem_insert.mp hvieja with heq | hold
    · exact heq
    · exact absurd hdst (h.kernel vieja hold)
  refine ⟨p, it, hp, hit, hle, hinst, fun r hr => ?_⟩
  rw [hinst.kernel, Finset.mem_insert, Finset.mem_erase, Finset.mem_insert]
  constructor
  · rintro (heq | ⟨hne, heq | hold⟩)
    · exact heq
    · exact absurd heq hne
    · exact absurd hr (h.kernel r hold)
  · exact Or.inl

/-- What a part of `route` leaves as it is for the packets to `dst`. -/
structure Mantiene (dst : In6Addr) (s u : Ruteo) : Prop where
  neighTable : u.neighTable = s.neighTable
  rtInfo : u.rtInfo = s.rtInfo
  mallocs : s.mallocs ≤ u.mallocs
  kernel : ∀ r, r.dst = dst → (r ∈ u.kernel ↔ r ∈ s.kernel)

section Mantiene

variable {u w : Ruteo} {dst : In6Addr}

lemma Mantiene.refl (s : Ruteo) : Mantiene dst s s := ⟨rfl, rfl, le_rfl, fun _ _ => Iff.rfl⟩

lemma Mantiene.trans (h : Mantiene dst s u) (h' : Mantiene dst u w) : Mantiene dst s w :=
  ⟨h'.neighTable.trans h.neighTable, h'.rtInfo.trans h.rtInfo, h.mallocs.trans h'.mallocs,
    fun r hr => (h'.kernel r hr).trans (h.kernel r hr)⟩

lemma mantiene_addRtRoute {r : RtRouteParam} (h : r.dst ≠ dst) (clock : Timeval) :
    Mantiene dst s (s.addRtRoute r clock) := by
  refine ⟨rfl, rfl, Nat.le_succ _, fun rt hrt => ?_⟩
  change rt ∈ insert r s.kernel ↔ _
  rw [Finset.mem_insert, or_iff_right]
  rintro rfl
  exact h hrt

lemma mantiene_delRtRoute {r : RtRouteParam} (h : r.dst ≠ dst) : Mantiene dst s (s.delRtRoute r) := by
  refine ⟨rfl, rfl, le_rfl, fun rt hrt => ?_⟩
  change rt ∈ s.kernel.erase r ↔ _
  rw [Finset.mem_erase, and_iff_right]
  rintro rfl
  exact h hrt

/-- The destination is as new as before. -/
lemma Mantiene.fresco (h : Mantiene pkt.dst s u) (hs : Fresco env pkt s) : Fresco env pkt u where
  kernel r hr hdst := hs.kernel r ((h.kernel r hdst).mp hr) hdst
  info := h.rtInfo ▸ hs.info
  distintas := by
    have hids : u.ids = s.ids := congrArg (List.map RtAuxInfo.id) h.rtInfo
    exact ⟨hids ▸ hs.distintas.nodup, fun i hi => (hs.distintas.mallocs i (hids ▸ hi)).trans_le h.mallocs⟩
  trasDst e he := hs.trasDst e (h.rtInfo ▸ he)
  antes rt hrt := (hs.antes rt hrt).trans (h.kernel rt hrt).symm
  luego rt hrt := by
    rw [hs.luego rt hrt, Finset.mem_insert, Finset.mem_insert, h.kernel rt hrt]
  igual := hs.igual

end Mantiene

end Ruteo

end Antop
