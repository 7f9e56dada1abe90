import Antop.Library.Transition
import Antop.RoutingAux

/-!
# The timers of a deleted entry

An entry of `rt_info` carries two timers in itself.  `del_rt_info` frees the entry and leaves its
timers in the queue; it is called when the timer of the entry expires, and also when that of a route
of the kernel with the same destination and gateway does.

* `Ruteo.ConDueno` — each queued or expired timer of an entry belongs to an entry of `rt_info`.
* `Ruteo.SinTimers` — the entry that `del_rt_info` frees has no timer left.
* `Ruteo.Crece` — what all the other functions do to the entries and their timers.
* **`con_dueno_iff`** — a run keeps the timers with their owners exactly when every entry that it
  frees has no timer left.
-/

namespace Antop.Ruteo

open Transition

/-! ## Entries and their timers -/

/-- The entries, by their addresses. -/
def ids (s : Ruteo) : List ℕ := s.rtInfo.map RtAuxInfo.id

/-- The timers that are queued or about to run. -/
def timers (s : Ruteo) : List RtTimer := s.tq ++ s.expiredTQ

/-- A timer of an entry belongs to one that is still linked. -/
def ConDueno (s : Ruteo) : Prop := ∀ t ∈ s.timers, ∀ i ∈ t.id.entry, i ∈ s.ids

instance (s : Ruteo) : Decidable s.ConDueno :=
  inferInstanceAs (Decidable (∀ t ∈ s.timers, ∀ i ∈ t.id.entry, i ∈ s.ids))

/-- The entry that `del_rt_info` looks for. -/
def buscada (dst gtw : In6Addr) (s : Ruteo) : Option RtAuxInfo :=
  s.rtInfo.find? fun e => e.dst = dst ∧ e.gtw = gtw

/-- The entry that `del_rt_info` frees, if there is one, has no timer queued or about to run. -/
def SinTimers (dst gtw : In6Addr) (s : Ruteo) : Prop :=
  ∀ e ∈ s.buscada dst gtw, ∀ t ∈ s.timers, t.id.entry ≠ some e.id

instance (dst gtw : In6Addr) (s : Ruteo) : Decidable (s.SinTimers dst gtw) :=
  inferInstanceAs (Decidable (∀ e ∈ s.buscada dst gtw, ∀ t ∈ s.timers, t.id.entry ≠ some e.id))

/-- No two entries are at one address, and `malloc` has returned them all. -/
structure Distintas (s : Ruteo) : Prop where
  nodup : s.ids.Nodup
  mallocs : ∀ i ∈ s.ids, i < s.mallocs

/-- The entries are distinct, and the timers have their owners. -/
structure Sano (s : Ruteo) : Prop extends s.Distintas where
  conDueno : s.ConDueno

lemma Inicial.distintas {s : Ruteo} (h : s.Inicial) : s.Distintas where
  nodup := h.ids
  mallocs := List.forall_mem_map.mpr h.mallocs

lemma Inicial.sano {s : Ruteo} (h : s.Inicial) : s.Sano where
  toDistintas := h.distintas
  conDueno := by
    intro t ht
    simp [timers, h.tq, h.expiredTQ] at ht

/-! ## What the functions do to them -/

/-- Entries are appended under new addresses, and the timers that are armed are theirs or no
entry's. -/
structure Crece (s s' : Ruteo) : Prop where
  ids : ∃ nuevas, s'.ids = s.ids ++ nuevas ∧ nuevas.Nodup ∧ ∀ i ∈ nuevas, s.mallocs ≤ i ∧ i < s'.mallocs
  mallocs : s.mallocs ≤ s'.mallocs
  timers : ∀ t ∈ s'.timers, t ∈ s.timers ∨ ∀ i ∈ t.id.entry, i ∈ s'.ids

namespace Crece

variable {s s' u : Ruteo}

lemma subset (h : Crece s s') : s.ids ⊆ s'.ids := by
  obtain ⟨nuevas, hids, -⟩ := h.ids
  rw [hids]
  exact List.subset_append_left _ _

/-- The entries stay as they are, and no timer is armed. -/
lemma of_eq (hids : s'.ids = s.ids) (ht : ∀ t ∈ s'.timers, t ∈ s.timers) (hm : s.mallocs ≤ s'.mallocs) :
    Crece s s' where
  ids := ⟨[], by rw [hids, List.append_nil], List.nodup_nil, fun i hi => absurd hi List.not_mem_nil⟩
  mallocs := hm
  timers := fun t h => Or.inl (ht t h)

lemma refl (s : Ruteo) : Crece s s := of_eq rfl (fun _ ht => ht) le_rfl

lemma trans (h : Crece s s') (h' : Crece s' u) : Crece s u where
  ids := by
    obtain ⟨n₁, hids₁, hnd₁, hn₁⟩ := h.ids
    obtain ⟨n₂, hids₂, hnd₂, hn₂⟩ := h'.ids
    refine ⟨n₁ ++ n₂, by rw [hids₂, hids₁, List.append_assoc], ?_, fun i hi => ?_⟩
    · refine List.nodup_append.mpr ⟨hnd₁, hnd₂, fun i hi j hj => ?_⟩
      have hlt := (hn₁ i hi).2
      have hle := (hn₂ j hj).1
      omega
    · have hm := h.mallocs
      have hm' := h'.mallocs
      rcases List.mem_append.mp hi with hi | hi
      · have hb := hn₁ i hi
        omega
      · have hb := hn₂ i hi
        omega
  mallocs := h.mallocs.trans h'.mallocs
  timers := by
    intro t ht
    rcases h'.timers t ht with ht | hown
    · rcases h.timers t ht with ht | hown
      · exact Or.inl ht
      · exact Or.inr fun i hi => h'.subset (hown i hi)
    · exact Or.inr hown

/-- The entries stay distinct. -/
lemma distintas (h : Crece s s') (hs : s.Distintas) : s'.Distintas := by
  obtain ⟨nuevas, hids, hnd, hnew⟩ := h.ids
  refine ⟨?_, fun i hi => ?_⟩
  · rw [hids]
    refine List.nodup_append.mpr ⟨hs.nodup, hnd, fun i hi j hj => ?_⟩
    have hlt := hs.mallocs i hi
    have hle := (hnew j hj).1
    omega
  · rw [hids] at hi
    rcases List.mem_append.mp hi with hi | hi
    · exact (hs.mallocs i hi).trans_le h.mallocs
    · exact (hnew i hi).2

/-- The timers keep their owners. -/
lemma sano (h : Crece s s') (hs : s.Sano) : s'.Sano where
  toDistintas := h.distintas hs.toDistintas
  conDueno := by
    intro t ht i hi
    rcases h.timers t ht with ht | hown
    · exact h.subset (hs.conDueno t ht i hi)
    · exact hown i hi

end Crece

lemma mem_insertar {t u : RtTimer} {l : List RtTimer} : u ∈ insertar t l ↔ u = t ∨ u ∈ l := by
  induction l with
  | nil => simp [insertar]
  | cons curr rest ih =>
      rw [insertar]
      split_ifs
      · exact List.mem_cons
      · rw [List.mem_cons, ih, List.mem_cons, or_left_comm]

/-- A timer that is armed belongs to an entry, or to none. -/
lemma crece_armar {s : Ruteo} {id : RtTimerId} (hid : ∀ i ∈ id.entry, i ∈ s.ids) (data : RtRouteParam)
    (msec : ℤ) (clock : Timeval) : Crece s (s.armar id data msec clock) where
  ids := (Crece.refl s).ids
  mallocs := le_rfl
  timers := by
    intro u hu
    rcases List.mem_append.mp hu with hu | hu
    · rcases mem_insertar.mp hu with rfl | hu
      · exact Or.inr hid
      · exact Or.inl (List.mem_append_left _ hu)
    · exact Or.inl (List.mem_append_right _ hu)

/-- `add_rt_route`. -/
lemma crece_addRtRoute (s : Ruteo) (r : RtRouteParam) (clock : Timeval) :
    Crece s (s.addRtRoute r clock) := by
  have halojar : Crece s { s with
      kernel := insert r s.kernel, altas := (r, clock) :: s.altas, mallocs := s.mallocs + 1 } :=
    Crece.of_eq rfl (fun _ ht => ht) (Nat.le_succ _)
  exact halojar.trans (crece_armar (fun i hi => absurd hi (by simp [RtTimerId.entry])) _ _ _)

/-- `del_rt_route`. -/
lemma crece_delRtRoute (s : Ruteo) (r : RtRouteParam) : Crece s (s.delRtRoute r) :=
  Crece.of_eq rfl (fun _ ht => ht) le_rfl

/-- Entries are replaced under their addresses. -/
lemma crece_replaceF (s : Ruteo) {f : RtAuxInfo → Option RtAuxInfo}
    (hf : ∀ e, ∀ e' ∈ f e, e'.id = e.id) : Crece s { s with rtInfo := s.rtInfo.replaceF f } := by
  refine Crece.of_eq ?_ (fun _ ht => ht) le_rfl
  change (s.rtInfo.replaceF f).map RtAuxInfo.id = s.rtInfo.map RtAuxInfo.id
  induction s.rtInfo with
  | nil => rfl
  | cons e es ih =>
      rw [List.replaceF]
      cases he : f e with
      | none => rw [List.map_cons, ih, List.map_cons]
      | some e' => rw [List.map_cons, hf e e' he, List.map_cons]

/-- `clear_vb`. -/
lemma crece_clearVb (s : Ruteo) (dst : In6Addr) : Crece s (s.clearVb dst) := by
  refine crece_replaceF s fun e e' he => ?_
  split_ifs at he
  · obtain rfl := Option.some.inj he
    rfl
  · exact absurd he (by simp)

/-- A new entry. -/
lemma crece_agregar (s : Ruteo) {e : RtAuxInfo} (he : e.id = s.mallocs) :
    Crece s { s with rtInfo := s.rtInfo ++ [e], mallocs := s.mallocs + 1 } where
  ids := by
    refine ⟨[s.mallocs], by simp [ids, he], List.nodup_singleton _, fun i hi => ?_⟩
    obtain rfl := List.mem_singleton.mp hi
    exact ⟨le_rfl, Nat.lt_succ_self _⟩
  mallocs := Nat.le_succ _
  timers := fun _ ht => Or.inl ht

/-- `add_rt_info`. -/
lemma crece_addRtInfo {s s' : Ruteo} {n : ℕ} {m : MemInfo} {dst : In6Addr} {src : Option In6Addr}
    {id : UChar} (hstep : s.addRtInfo m dst src id = some (s', n)) : Crece s s' := by
  unfold addRtInfo at hstep
  split_ifs at hstep
  split at hstep
  · obtain ⟨rfl, -⟩ := Prod.mk.inj (Option.some.inj hstep)
    refine Crece.trans (crece_replaceF s fun e e' he => ?_) (crece_clearVb _ dst)
    split_ifs at he
    · obtain rfl := Option.some.inj he
      rfl
    · exact absurd he (by simp)
  · obtain ⟨rfl, -⟩ := Prod.mk.inj (Option.some.inj hstep)
    have hnew := s.crece_agregar (e := nuevaInfo m dst src id s.mallocs) rfl
    have hmem : s.mallocs ∈ ids { s with
        rtInfo := s.rtInfo ++ [nuevaInfo m dst src id s.mallocs], mallocs := s.mallocs + 1 } := by
      simp [ids, nuevaInfo]
    refine (hnew.trans (crece_armar ?_ _ _ _)).trans (crece_armar ?_ _ _ _)
    · rintro i ⟨⟩
      exact hmem
    · rintro i ⟨⟩
      exact hmem

/-- Marks do not move an entry. -/
lemma crece_map (s : Ruteo) {f : RtAuxInfo → RtAuxInfo} (hf : ∀ e, (f e).id = e.id) :
    Crece s { s with rtInfo := s.rtInfo.map f } := by
  refine Crece.of_eq ?_ (fun _ ht => ht) le_rfl
  rw [ids, ids, List.map_map]
  exact List.map_congr_left fun e _ => hf e

lemma crece_marcar {s s' : Ruteo} {info i : ℕ} {dst addr : In6Addr}
    (hstep : s.marcar info i dst addr = some s') : Crece s s' := by
  unfold marcar at hstep
  split_ifs at hstep with hi
  obtain rfl := Option.some.inj hstep
  refine s.crece_map fun e => ?_
  split_ifs
  · rfl
  · rfl

lemma crece_marcarOrigen {s s' : Ruteo} {pkt : Paquete} {info : ℕ}
    (hstep : s.marcarOrigen pkt info = some s') : Crece s s' := by
  unfold marcarOrigen at hstep
  split at hstep
  · obtain rfl := Option.some.inj hstep
    exact Crece.refl s
  · obtain ⟨u, hu, rfl⟩ := Option.map_eq_some_iff.mp hstep
    refine (crece_marcar hu).trans (u.crece_map fun e => ?_)
    split_ifs
    · rfl
    · rfl

lemma crece_rutaPara (s : Ruteo) (env : EntornoRuta) (pkt : Paquete) :
    Crece s (s.rutaPara env pkt).1 := by
  unfold rutaPara
  split_ifs
  · exact Crece.refl s
  · exact s.crece_addRtRoute _ _

lemma crece_infoPara {s s' : Ruteo} {env : EntornoRuta} {pkt : Paquete} {rtId best : Option ℕ} {n : ℕ}
    (hstep : s.infoPara env pkt rtId best = some (s', n)) : Crece s s' := by
  unfold infoPara at hstep
  split at hstep
  · obtain ⟨rfl, -⟩ := Prod.mk.inj (Option.some.inj hstep)
    exact Crece.refl _
  · exact crece_addRtInfo hstep

lemma crece_devolver (s : Ruteo) (env : EntornoRuta) (pkt : Paquete) :
    Crece s (s.devolver env pkt) := by
  unfold devolver
  induction env.volcado 3 generalizing s with
  | nil => exact Crece.refl s
  | cons rt rts ih =>
      rw [List.foldl_cons]
      refine Crece.trans ?_ (ih _)
      split_ifs
      · exact (s.crece_addRtRoute _ _).trans (crece_delRtRoute _ _)
      · exact Crece.refl s

/-- `send_to_next_neighbor`. -/
lemma crece_sendToNextNeighbor {s s' : Ruteo} {env : EntornoRuta} {pkt : Paquete}
    (hstep : s.sendToNextNeighbor env pkt = some s') : Crece s s' := by
  have hruta := s.crece_rutaPara env pkt
  rcases sendToNextNeighbor_cases hstep with
    ⟨-, rfl⟩ | ⟨-, heq⟩ | ⟨-, u, rtId, best, v, info, w, heq, hv, hw, hend⟩
  · exact Crece.refl _
  · rw [heq] at hruta
    exact hruta
  · rw [heq] at hruta
    have hsw := (hruta.trans (crece_infoPara hv)).trans (crece_marcarOrigen hw)
    rcases hend with rfl | rfl | ⟨nhIdx, e, -, hins⟩
    · exact hsw
    · exact hsw.trans (w.crece_devolver env pkt)
    · rcases instalar_cases hins with rfl | ⟨rt, r, it, -, hmar⟩
      · exact hsw
      · exact ((hsw.trans (crece_delRtRoute _ _)).trans (crece_addRtRoute _ _ _)).trans
          (crece_marcar hmar)

/-- The timers that expire go from one list to the other. -/
lemma crece_cortar (s : Ruteo) (now : Timeval) : Crece s (s.cortar now) := by
  unfold cortar
  split_ifs
  · refine Crece.of_eq rfl (fun t ht => List.mem_append_left _ ?_) le_rfl
    rcases List.mem_append.mp ht with ht | ht
    · exact (List.dropWhile_sublist _).subset ht
    · exact (List.takeWhile_sublist _).subset ht
  · exact Crece.refl s

/-- A call that does not remove a route by `del_rt_route2`. -/
lemma crece_llamar {s s' : Ruteo} {ev : Evento} (hev : ∀ r, ev ≠ .delRtRoute2 r)
    (hstep : s.llamar ev = some s') : Crece s s' := by
  cases ev with
  | addRtRoute r clock =>
      obtain rfl := Option.some.inj hstep
      exact s.crece_addRtRoute r clock
  | delRtRoute r =>
      obtain rfl := Option.some.inj hstep
      exact s.crece_delRtRoute r
  | addRtInfo m dst src id =>
      obtain ⟨⟨u, n⟩, hu, rfl⟩ := Option.map_eq_some_iff.mp hstep
      exact crece_addRtInfo hu
  | clearVb dst =>
      obtain rfl := Option.some.inj hstep
      exact s.crece_clearVb dst
  | delRtRoute2 r => exact absurd rfl (hev r)
  | sendToNextNeighbor env pkt => exact crece_sendToNextNeighbor hstep
  | addNeighbor msg secFlag =>
      rw [llamar, addNeighbor] at hstep
      split_ifs at hstep
      · obtain rfl := Option.some.inj hstep
        exact Crece.of_eq rfl (fun _ ht => ht) le_rfl
      · obtain ⟨t, -, rfl⟩ := Option.map_eq_some_iff.mp hstep
        exact Crece.of_eq rfl (fun _ ht => ht) le_rfl
  | deleteNeighbor addr =>
      obtain rfl := Option.some.inj hstep
      exact Crece.of_eq rfl (fun _ ht => ht) le_rfl
  | timeout now =>
      obtain rfl := Option.some.inj hstep
      exact s.crece_cortar now
  | fire =>
      obtain rfl := Option.some.inj hstep
      exact Crece.refl s

/-! ## Deletions -/

/-- What is left of the entries. -/
lemma mem_ids_delRtInfo {s : Ruteo} (hs : s.ids.Nodup) {dst gtw : In6Addr} {e : RtAuxInfo}
    (he : s.buscada dst gtw = some e) (i : ℕ) :
    i ∈ (s.delRtInfo dst gtw).ids ↔ i ∈ s.ids ∧ i ≠ e.id := by
  obtain ⟨hp, as, bs, hl, has⟩ := List.find?_eq_some_iff_append.mp he
  have hrest : (s.delRtInfo dst gtw).rtInfo = as ++ bs := by
    have hgo (a : RtAuxInfo) (ha : a ∈ as) : ¬ decide (a.dst = dst ∧ a.gtw = gtw) = true := by
      have hno := has a ha
      rwa [Bool.not_eq_true', ← Bool.not_eq_true] at hno
    have herase : (e :: bs).eraseP (fun e => decide (e.dst = dst ∧ e.gtw = gtw)) = bs :=
      List.eraseP_cons_of_pos (p := fun e : RtAuxInfo => decide (e.dst = dst ∧ e.gtw = gtw)) hp
    rw [delRtInfo, hl]
    change (as ++ e :: bs).eraseP (fun e => decide (e.dst = dst ∧ e.gtw = gtw)) = as ++ bs
    rw [List.eraseP_append_right _ hgo, herase]
  have hids : (s.delRtInfo dst gtw).ids = as.map RtAuxInfo.id ++ bs.map RtAuxInfo.id := by
    rw [ids, hrest, List.map_append]
  have hall : s.ids = as.map RtAuxInfo.id ++ e.id :: bs.map RtAuxInfo.id := by
    rw [ids, hl, List.map_append, List.map_cons]
  rw [hall, List.nodup_middle, List.nodup_cons, List.mem_append] at hs
  rw [hids, hall, List.mem_append, List.mem_append, List.mem_cons]
  constructor
  · intro hi
    exact ⟨hi.imp_right Or.inr, fun heq => hs.1 (heq ▸ hi)⟩
  · rintro ⟨hi | hi | hi, hne⟩
    · exact Or.inl hi
    · exact absurd hi hne
    · exact Or.inr hi

/-- **`del_rt_info`** keeps the timers with their owners exactly when the entry it frees has none. -/
lemma Sano.conDueno_delRtInfo_iff {s : Ruteo} (h : s.Sano) (dst gtw : In6Addr) :
    (s.delRtInfo dst gtw).ConDueno ↔ s.SinTimers dst gtw := by
  cases he : s.buscada dst gtw with
  | none =>
      have hsame : s.delRtInfo dst gtw = s := by
        have hno := List.find?_eq_none.mp he
        rw [delRtInfo, List.eraseP_of_forall_not hno]
      rw [hsame]
      exact iff_of_true h.conDueno fun e hc => absurd (he.symm.trans hc) (by simp)
  | some e =>
      constructor
      · intro hd e' he' t ht hown
        obtain rfl := Option.some.inj (he.symm.trans he')
        exact ((mem_ids_delRtInfo h.nodup he e.id).mp (hd t ht e.id hown)).2 rfl
      · intro hd t ht i hi
        refine (mem_ids_delRtInfo h.nodup he i).mpr ⟨h.conDueno t ht i hi, ?_⟩
        rintro rfl
        exact hd e he t ht hi

/-- `del_rt_route2` leaves the entries distinct. -/
lemma Distintas.delRtRoute2 {s : Ruteo} (h : s.Distintas) (r : RtRouteParam) :
    (s.delRtRoute2 r).Distintas := by
  have hsub : (s.delRtRoute2 r).ids.Sublist s.ids := List.eraseP_sublist.map _
  exact ⟨h.nodup.sublist hsub, fun i hi => h.mallocs i (hsub.subset hi)⟩

/-! ## Runs -/

/-- The route that a timer removes. -/
def rutaDe (t : RtTimer) : Option RtRouteParam :=
  match t.id with
  | .vbT _ => none
  | .routeT _ => some t.data
  | .rtRouteT _ => some t.data

/-- The route that a call removes with `del_rt_route2`. -/
def Evento.ruta : Evento → Option RtRouteParam
  | .delRtRoute2 r => some r
  | _ => none

/-- The route that a step removes with `del_rt_route2`. -/
def caduca (s : Ruteo) (ev : Evento) : Option RtRouteParam :=
  match s.expiredTQ with
  | [] => ev.ruta
  | tmp :: _ =>
      match ev with
      | .fire => rutaDe tmp
      | _ => none

/-- The state in which a handler runs: its own timer is off the list. -/
def enHandler (s : Ruteo) : Ruteo := { s with expiredTQ := s.expiredTQ.tail }

/-- **The condition**: the entry that `del_rt_route2` frees has no timer left. -/
def guardaTimers (s : Ruteo) (ev : Evento) : Prop :=
  ∀ r ∈ s.caduca ev, s.enHandler.SinTimers r.dst r.gtw

instance (s : Ruteo) (ev : Evento) : Decidable (s.guardaTimers ev) :=
  inferInstanceAs (Decidable (∀ r ∈ s.caduca ev, s.enHandler.SinTimers r.dst r.gtw))

lemma crece_enHandler (s : Ruteo) : Crece s s.enHandler := by
  refine Crece.of_eq rfl (fun t ht => ?_) le_rfl
  rcases List.mem_append.mp ht with ht | ht
  · exact List.mem_append_left _ ht
  · exact List.mem_append_right _ (List.mem_of_mem_tail ht)

/-- A step removes a route with `del_rt_route2`, or leaves every entry linked. -/
lemma step_crece {s s' : Ruteo} {ev : Evento} (hstep : s.step ev = some s') :
    (∃ r, s.caduca ev = some r ∧ s' = s.enHandler.delRtRoute2 r) ∨ s.caduca ev = none ∧ Crece s s' := by
  rcases step_cases hstep with ⟨hexp, -, hcall⟩ | ⟨tmp, rest, hexp, rfl, rfl⟩ | ⟨hwait, rfl⟩
  · have hself : s.enHandler = s := by
      rw [enHandler, hexp, List.tail_nil, ← hexp]
    by_cases hev : ∃ r, ev = .delRtRoute2 r
    · obtain ⟨r, rfl⟩ := hev
      obtain rfl := Option.some.inj hcall
      refine Or.inl ⟨r, ?_, ?_⟩
      · rw [caduca, hexp]
        rfl
      · rw [hself]
    · push Not at hev
      have hno : ev.ruta = none := by
        cases ev with
        | delRtRoute2 r => exact absurd rfl (hev r)
        | _ => rfl
      refine Or.inr ⟨?_, crece_llamar hev hcall⟩
      rw [caduca, hexp]
      exact hno
  · have hself : { s with expiredTQ := rest } = s.enHandler := by
      rw [enHandler, hexp, List.tail_cons]
    have hcad : s.caduca .fire = rutaDe tmp := by
      rw [caduca, hexp]
    rw [hcad, hself]
    unfold atender rutaDe
    cases tmp.id with
    | vbT i => exact Or.inr ⟨rfl, s.crece_enHandler.trans (crece_clearVb _ _)⟩
    | routeT i => exact Or.inl ⟨_, rfl, rfl⟩
    | rtRouteT n => exact Or.inl ⟨_, rfl, rfl⟩
  · refine Or.inr ⟨?_, Crece.refl _⟩
    cases hexp : s'.expiredTQ with
    | nil =>
        obtain rfl := hwait.mp hexp
        rw [caduca, hexp]
        rfl
    | cons tmp rest =>
        have hev : ev ≠ .fire := fun hc => absurd (hwait.mpr hc) (by simp [hexp])
        rw [caduca, hexp]
        cases ev with
        | fire => exact absurd rfl hev
        | _ => rfl

/-- **No timer outlives its entry** along a run exactly when every entry that `del_rt_route2` frees on
the way has no timer left. -/
theorem con_dueno_iff {s : Ruteo} (h : s.Inicial) (evs : List Evento) :
    (∀ u ∈ states step s evs, u.ConDueno) ↔ ∀ t ∈ steps step s evs, t.1.guardaTimers t.2.1 := by
  have howned : ∀ u : Ruteo, u.Sano → u.ConDueno := fun _ hu => hu.conDueno
  refine property_iff_guard howned (fun u ev u' hu hstep => ?_) h.sano
  rcases step_crece hstep with ⟨r, hr, rfl⟩ | ⟨hno, hcrece⟩
  · have hdel := ((u.crece_enHandler.trans (crece_delRtRoute _ r)).sano hu).conDueno_delRtInfo_iff
      r.dst r.gtw
    by_cases hg : u.enHandler.SinTimers r.dst r.gtw
    · refine Or.inl ⟨fun r' hr' => ?_, ?_, hdel.mpr hg⟩
      · obtain rfl := Option.some.inj (hr.symm.trans hr')
        exact hg
      · exact (u.crece_enHandler.distintas hu.toDistintas).delRtRoute2 r
    · exact Or.inr ⟨fun hc => hg (hc r hr), fun hc => hg (hdel.mp hc)⟩
  · exact Or.inl ⟨fun r hr => absurd (hno.symm.trans hr) (by simp), hcrece.sano hu⟩

/-! ## Two timers of one destination -/

/-- The routing with the entry of one route of the kernel. -/
def arranque : Ruteo :=
  { neighTable := []
    rtInfo := [⟨0, .zero, .zero, .zero, fun _ => false, 0, 0, []⟩]
    kernel := ∅, tq := [], expiredTQ := [], mallocs := 1, altas := [], now := ⟨0, 0⟩ }

lemma inicial_arranque : arranque.Inicial where
  ids := by decide
  mallocs := by simp [arranque]
  limpias := by simp [arranque]
  tq := rfl
  expiredTQ := rfl
  altas := rfl

/-- A destination. -/
def destino : In6Addr := .ofWords 0x0120 0xb80d 0 0 0 0 0 1

/-- The memory of the new entry holds the gateway of the new route. -/
def memoriaGtw : MemInfo :=
  { trasDst := .zero, gtw := sinGtw, paramGtw := sinGtw, paramDistance := 0
    clockVb := ⟨0, 10⟩, clockRoute := ⟨0, 20⟩ }

/-- A packet for a new destination brings a route and an entry; the timer of the route expires. -/
def nuevoDestino : List Evento :=
  [.addRtRoute ⟨destino, sinGtw, 128, 10⟩ ⟨0, 0⟩, .addRtInfo memoriaGtw destino none 0,
    .timeout ⟨3, 0⟩, .fire, .fire]

/-- The entry is freed by the timer of the route, and its own one is still in the queue. -/
theorem entrada_sin_timer :
    ¬ ∀ (s : Ruteo) (_ : s.Inicial) (evs : List Evento), ∀ u ∈ states step s evs, u.ConDueno := by
  intro h
  have hrun := h arranque inicial_arranque nuevoDestino
  revert hrun
  decide +kernel

/-- When the memory holds something else, the entry goes with its own timer. -/
theorem con_dueno_iff_otraMemoria :
    (∀ u ∈ states step arranque
        [.addRtInfo { memoriaGtw with gtw := .zero, paramGtw := .zero } destino none 0,
          .timeout ⟨4, 0⟩, .fire, .fire], u.ConDueno)
      ↔ ∀ t ∈ steps step arranque
        [.addRtInfo { memoriaGtw with gtw := .zero, paramGtw := .zero } destino none 0,
          .timeout ⟨4, 0⟩, .fire, .fire], t.1.guardaTimers t.2.1 :=
  con_dueno_iff inicial_arranque _

end Antop.Ruteo
