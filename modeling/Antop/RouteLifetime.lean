import Antop.RtTimers

/-!
# How long a route stays

`add_rt_route` allocates a timer that removes the route after `T_ROUTE`, and neither another
`add_rt_route` for the same route nor `del_rt_route` takes an earlier timer back.

* `timevalDiff_armado` — the deadline that `timer_add_msec` sets.
* `Ruteo.EnTermino` — a route that its timer removes has been there for `T_ROUTE` since it was added
  last.
* **`ruta_en_termino`** — so it is in each run that never adds a route with an earlier timer pending.
* `ruta_recortada` — after an addition that finds one, the next expiry is too early.
-/

namespace Antop

/-! ## Deadlines -/

lemma timevalDiff_add (a b c : Timeval) : timevalDiff a b + timevalDiff b c = timevalDiff a c := by
  unfold timevalDiff
  ring

/-- **A timer expires after the time it was given**, whatever the clock says. -/
lemma timevalDiff_armado {κ : Type*} (a : Arma κ) : timevalDiff a.timeout a.clock = a.msec * 1000 := by
  have hsplit := Int.tmod_add_mul_tdiv (a.clock.tvUsec + a.msec * 1000) 1000000
  unfold timevalDiff Arma.timeout
  dsimp only
  linarith

namespace Ruteo

open Transition

/-- The deadline of the timer that `add_rt_route` arms. -/
def plazo (clock : Timeval) : Timeval := (Arma.mk () tRoute clock).timeout

lemma timevalDiff_plazo (clock : Timeval) : timevalDiff (plazo clock) clock = 1000 * tRoute :=
  (timevalDiff_armado _).trans (mul_comm _ _)

/-! ## The latest addition -/

/-- The time of the latest `add_rt_route` for a route. -/
def ultimaAlta (s : Ruteo) (r : RtRouteParam) : Option Timeval :=
  (s.altas.find? fun a => a.1 = r).map Prod.snd

/-- A present route that the step removes with `del_rt_route2` was added `T_ROUTE` before, or
earlier. -/
def EnTermino (s : Ruteo) (ev : Evento) : Prop :=
  ∀ r ∈ s.caduca ev, r ∈ s.kernel → ∀ t ∈ s.ultimaAlta r, 1000 * tRoute ≤ timevalDiff s.now t

instance (s : Ruteo) (ev : Evento) : Decidable (s.EnTermino ev) :=
  inferInstanceAs (Decidable (∀ r ∈ s.caduca ev, r ∈ s.kernel →
    ∀ t ∈ s.ultimaAlta r, 1000 * tRoute ≤ timevalDiff s.now t))

/-- The events of the routes: additions, deletions and expiries. -/
def Evento.DeRutas : Evento → Prop
  | .addRtRoute _ _ => True
  | .delRtRoute _ => True
  | .timeout _ => True
  | .fire => True
  | _ => False

instance : ∀ ev : Evento, Decidable ev.DeRutas
  | .addRtRoute _ _ => inferInstanceAs (Decidable True)
  | .delRtRoute _ => inferInstanceAs (Decidable True)
  | .timeout _ => inferInstanceAs (Decidable True)
  | .fire => inferInstanceAs (Decidable True)
  | .addRtInfo _ _ _ _ => inferInstanceAs (Decidable False)
  | .clearVb _ => inferInstanceAs (Decidable False)
  | .delRtRoute2 _ => inferInstanceAs (Decidable False)
  | .sendToNextNeighbor _ _ => inferInstanceAs (Decidable False)
  | .addNeighbor _ _ => inferInstanceAs (Decidable False)
  | .deleteNeighbor _ => inferInstanceAs (Decidable False)

/-- **The condition**: a route is added when no timer for it is pending that expires before the new
one. -/
def guardaAlta (s : Ruteo) : Evento → Prop
  | .addRtRoute r clock =>
      s.expiredTQ = [] → ∀ u ∈ s.tq, rutaDe u = some r → 0 ≤ timevalDiff u.timeout (plazo clock)
  | _ => True

instance (s : Ruteo) : ∀ ev : Evento, Decidable (s.guardaAlta ev)
  | .addRtRoute r clock => inferInstanceAs (Decidable (s.expiredTQ = [] →
      ∀ u ∈ s.tq, rutaDe u = some r → 0 ≤ timevalDiff u.timeout (plazo clock)))
  | .delRtRoute _ => inferInstanceAs (Decidable True)
  | .timeout _ => inferInstanceAs (Decidable True)
  | .fire => inferInstanceAs (Decidable True)
  | .addRtInfo _ _ _ _ => inferInstanceAs (Decidable True)
  | .clearVb _ => inferInstanceAs (Decidable True)
  | .delRtRoute2 _ => inferInstanceAs (Decidable True)
  | .sendToNextNeighbor _ _ => inferInstanceAs (Decidable True)
  | .addNeighbor _ _ => inferInstanceAs (Decidable True)
  | .deleteNeighbor _ => inferInstanceAs (Decidable True)

/-- No pending timer for a route expires before `T_ROUTE` has passed since its latest addition, and
the timers that run have expired. -/
structure Puntual (s : Ruteo) : Prop where
  plazos : ∀ u ∈ s.timers, ∀ r ∈ rutaDe u, ∀ t ∈ s.ultimaAlta r, 0 ≤ timevalDiff u.timeout (plazo t)
  vencidos : ∀ u ∈ s.expiredTQ, timevalDiff u.timeout s.now ≤ 0

lemma Inicial.puntual {s : Ruteo} (h : s.Inicial) : s.Puntual where
  plazos := by
    intro u hu
    simp [timers, h.tq, h.expiredTQ] at hu
  vencidos := by
    intro u hu
    simp [h.expiredTQ] at hu

/-! ## The steps -/

lemma ultimaAlta_addRtRoute (s : Ruteo) (r r' : RtRouteParam) (clock : Timeval) :
    (s.addRtRoute r clock).ultimaAlta r' = if r = r' then some clock else s.ultimaAlta r' := by
  change (List.find? _ ((r, clock) :: s.altas)).map Prod.snd = _
  rw [List.find?_cons]
  split_ifs with heq
  · simp [heq]
  · simp [heq, ultimaAlta]

/-- The timers after an addition: the new one, which removes the route, and those before. -/
lemma mem_timers_addRtRoute {s : Ruteo} {r : RtRouteParam} {clock : Timeval} {u : RtTimer}
    (hu : u ∈ (s.addRtRoute r clock).timers) :
    rutaDe u = some r ∧ u.timeout = plazo clock ∨ u ∈ s.timers := by
  rcases List.mem_append.mp hu with hu | hu
  · rcases mem_insertar.mp hu with rfl | hu
    · exact Or.inl ⟨rfl, rfl⟩
    · exact Or.inr (List.mem_append_left _ hu)
  · exact Or.inr (List.mem_append_right _ hu)

/-- `add_rt_route`. -/
lemma Puntual.addRtRoute {s : Ruteo} (h : s.Puntual) {r : RtRouteParam} {clock : Timeval}
    (hexp : s.expiredTQ = [])
    (hg : ∀ u ∈ s.tq, rutaDe u = some r → 0 ≤ timevalDiff u.timeout (plazo clock)) :
    (s.addRtRoute r clock).Puntual where
  plazos := by
    intro u hu r' hr' t ht
    rw [ultimaAlta_addRtRoute] at ht
    rcases mem_timers_addRtRoute hu with ⟨hr, hplazo⟩ | hu
    · obtain rfl := Option.some.inj (hr.symm.trans hr')
      rw [if_pos rfl] at ht
      obtain rfl := Option.some.inj ht
      rw [hplazo, timevalDiff]
      omega
    · split_ifs at ht with heq
      · subst heq
        obtain rfl := Option.some.inj ht
        rw [timers, hexp, List.append_nil] at hu
        exact hg u hu hr'
      · exact h.plazos u hu r' hr' t ht
  vencidos := h.vencidos

/-- The first loop of `timer_timeout`. -/
lemma Puntual.cortar {s : Ruteo} (h : s.Puntual) (now : Timeval) : (s.cortar now).Puntual := by
  unfold Ruteo.cortar
  split_ifs with hexp
  · refine ⟨fun u hu => h.plazos u (List.mem_append_left _ ?_), fun u hu => ?_⟩
    · rcases List.mem_append.mp hu with hu | hu
      · exact (List.dropWhile_sublist _).subset hu
      · exact (List.takeWhile_sublist _).subset hu
    · have hmem : u ∈ s.tq.takeWhile fun t => timevalDiff t.timeout now ≤ 0 := hu
      have hpassed := List.mem_takeWhile_imp hmem
      exact of_decide_eq_true hpassed
  · exact h

/-- A handler, which finds its own timer off the list. -/
lemma Puntual.atender {s : Ruteo} (h : s.Puntual) {tmp : RtTimer} {rest : List RtTimer}
    (hexp : s.expiredTQ = tmp :: rest) : (atender tmp { s with expiredTQ := rest }).Puntual := by
  have hsub : ∀ u ∈ s.tq ++ rest, u ∈ s.timers := by
    intro u hu
    rw [timers, hexp]
    rcases List.mem_append.mp hu with hu | hu
    · exact List.mem_append_left _ hu
    · exact List.mem_append_right _ (List.mem_cons_of_mem _ hu)
  have hrest : ∀ u ∈ rest, timevalDiff u.timeout s.now ≤ 0 := fun u hu =>
    h.vencidos u (hexp ▸ List.mem_cons_of_mem _ hu)
  unfold Ruteo.atender
  cases tmp.id with
  | vbT i => exact ⟨fun u hu => h.plazos u (hsub u hu), hrest⟩
  | routeT i => exact ⟨fun u hu => h.plazos u (hsub u hu), hrest⟩
  | rtRouteT n => exact ⟨fun u hu => h.plazos u (hsub u hu), hrest⟩

lemma Puntual.step {s s' : Ruteo} (h : s.Puntual) {ev : Evento} (hev : ev.DeRutas)
    (hg : s.guardaAlta ev) (hstep : s.step ev = some s') : s'.Puntual := by
  rcases Ruteo.step_cases hstep with ⟨hexp, -, hcall⟩ | ⟨tmp, rest, hexp, rfl, rfl⟩ | ⟨-, rfl⟩
  · cases ev with
    | addRtRoute r clock =>
        obtain rfl := Option.some.inj hcall
        exact h.addRtRoute hexp (hg hexp)
    | delRtRoute r =>
        obtain rfl := Option.some.inj hcall
        exact ⟨h.plazos, h.vencidos⟩
    | timeout now =>
        obtain rfl := Option.some.inj hcall
        exact h.cortar now
    | fire =>
        obtain rfl := Option.some.inj hcall
        exact h
    | addRtInfo m dst src id => exact hev.elim
    | clearVb dst => exact hev.elim
    | delRtRoute2 r => exact hev.elim
    | sendToNextNeighbor env pkt => exact hev.elim
    | addNeighbor msg secFlag => exact hev.elim
    | deleteNeighbor addr => exact hev.elim
  · exact h.atender hexp
  · exact h

/-- The timers that run were armed `T_ROUTE` after the latest addition, or later. -/
lemma Puntual.enTermino {s : Ruteo} (h : s.Puntual) {ev : Evento} (hev : ev.DeRutas) :
    s.EnTermino ev := by
  intro r hr _ t ht
  unfold caduca at hr
  cases hexp : s.expiredTQ with
  | nil =>
      rw [hexp] at hr
      cases ev with
      | delRtRoute2 r => exact hev.elim
      | _ => exact absurd hr (by simp [Evento.ruta])
  | cons tmp rest =>
      rw [hexp] at hr
      cases ev with
      | fire =>
          have hmem : tmp ∈ s.expiredTQ := hexp ▸ List.mem_cons_self
          have hplazo := h.plazos tmp (List.mem_append_right _ hmem) r hr t ht
          have hvenc := h.vencidos tmp hmem
          have hruta := timevalDiff_plazo t
          have hsum := timevalDiff_add tmp.timeout (plazo t) t
          have hnow := timevalDiff_add tmp.timeout s.now t
          linarith
      | _ => exact absurd hr (by simp)

/-- **A route stays for `T_ROUTE`** after its latest addition, in each run of additions, deletions and
expiries that adds no route while an earlier timer for it is pending. -/
theorem ruta_en_termino {s : Ruteo} (h : s.Inicial) (evs : List Evento) (hevs : ∀ ev ∈ evs, ev.DeRutas)
    (hg : ∀ t ∈ steps step s evs, t.1.guardaAlta t.2.1) :
    ∀ t ∈ steps step s evs, t.1.EnTermino t.2.1 := by
  intro t ht
  have hinv : ∀ u ∈ states step s evs, u.Puntual :=
    invariant_of_guard (G := fun u ev => ev.DeRutas ∧ u.guardaAlta ev)
      (fun _ _ _ hu hgu hstep => hu.step hgu.1 hgu.2 hstep) h.puntual
      fun t ht => ⟨hevs _ (event_mem_of_mem_steps ht), hg t ht⟩
  exact (hinv _ (source_mem_states ht)).enTermino (hevs _ (event_mem_of_mem_steps ht))

/-- The routing at the beginning, without entries. -/
def sinEntradas : Ruteo :=
  { neighTable := [], rtInfo := [], kernel := ∅, tq := [], expiredTQ := [], mallocs := 0, altas := []
    now := ⟨0, 0⟩ }

lemma inicial_sinEntradas : sinEntradas.Inicial where
  ids := List.nodup_nil
  mallocs := by simp [sinEntradas]
  limpias := by simp [sinEntradas]
  tq := rfl
  expiredTQ := rfl
  altas := rfl

/-- A route, its renewal after a second, and the timer of the first addition. -/
def renovacion : List Evento :=
  [.addRtRoute ⟨destino, sinGtw, 128, 10⟩ ⟨0, 0⟩, .addRtRoute ⟨destino, sinGtw, 128, 10⟩ ⟨1, 0⟩,
    .timeout ⟨3, 0⟩, .fire]

/-- A route is removed two seconds after it was added last. -/
theorem renovacion_recortada :
    ¬ ∀ (s : Ruteo) (_ : s.Inicial) (evs : List Evento) (_ : ∀ ev ∈ evs, ev.DeRutas),
      ∀ t ∈ steps step s evs, t.1.EnTermino t.2.1 := by
  intro h
  have hrun := h sinEntradas inicial_sinEntradas renovacion (by decide)
  revert hrun
  decide +kernel

/-- A route that is added again when it is gone. -/
theorem ruta_en_termino_dosVeces :
    (steps step sinEntradas
        [.addRtRoute ⟨destino, sinGtw, 128, 10⟩ ⟨0, 0⟩, .timeout ⟨3, 0⟩, .fire,
          .addRtRoute ⟨destino, sinGtw, 128, 10⟩ ⟨4, 0⟩, .timeout ⟨7, 0⟩, .fire]).length = 6
      ∧ ∀ t ∈ steps step sinEntradas
          [.addRtRoute ⟨destino, sinGtw, 128, 10⟩ ⟨0, 0⟩, .timeout ⟨3, 0⟩, .fire,
            .addRtRoute ⟨destino, sinGtw, 128, 10⟩ ⟨4, 0⟩, .timeout ⟨7, 0⟩, .fire],
        t.1.EnTermino t.2.1 :=
  ⟨by decide +kernel, ruta_en_termino inicial_sinEntradas _ (by decide) (by decide +kernel)⟩

/-! ## What an earlier timer does -/

/-- The queue is in the order of the deadlines. -/
def EnOrden (s : Ruteo) : Prop := s.tq.Pairwise fun t u => timevalDiff t.timeout u.timeout ≤ 0

lemma pairwise_insertar {t : RtTimer} {l : List RtTimer}
    (h : l.Pairwise fun t u => timevalDiff t.timeout u.timeout ≤ 0) :
    (insertar t l).Pairwise fun t u => timevalDiff t.timeout u.timeout ≤ 0 := by
  induction l with
  | nil => exact List.pairwise_singleton _ _
  | cons curr rest ih =>
      obtain ⟨hcurr, hrest⟩ := List.pairwise_cons.mp h
      rw [insertar]
      split_ifs with hlt
      · refine List.pairwise_cons.mpr ⟨fun u hu => ?_, h⟩
        rcases List.mem_cons.mp hu with rfl | hu
        · exact hlt.le
        · have hsum := timevalDiff_add t.timeout curr.timeout u.timeout
          have hle := hcurr u hu
          omega
      · refine List.pairwise_cons.mpr ⟨fun u hu => ?_, ih hrest⟩
        rcases mem_insertar.mp hu with rfl | hu
        · unfold timevalDiff at hlt ⊢
          omega
        · exact hcurr u hu

/-- The queue keeps its order. -/
lemma EnOrden.step {s s' : Ruteo} (h : s.EnOrden) {ev : Evento} (hev : ev.DeRutas)
    (hstep : s.step ev = some s') : s'.EnOrden := by
  rcases Ruteo.step_cases hstep with ⟨hexp, -, hcall⟩ | ⟨tmp, rest, hexp, rfl, rfl⟩ | ⟨-, rfl⟩
  · cases ev with
    | addRtRoute r clock =>
        obtain rfl := Option.some.inj hcall
        exact pairwise_insertar h
    | delRtRoute r =>
        obtain rfl := Option.some.inj hcall
        exact h
    | timeout now =>
        obtain rfl := Option.some.inj hcall
        rw [Ruteo.cortar, if_pos hexp]
        exact List.Pairwise.sublist (List.dropWhile_sublist _) h
    | fire =>
        obtain rfl := Option.some.inj hcall
        exact h
    | addRtInfo m dst src id => exact hev.elim
    | clearVb dst => exact hev.elim
    | delRtRoute2 r => exact hev.elim
    | sendToNextNeighbor env pkt => exact hev.elim
    | addNeighbor msg secFlag => exact hev.elim
    | deleteNeighbor addr => exact hev.elim
  · unfold Ruteo.atender
    cases tmp.id with
    | vbT i => exact h
    | routeT i => exact h
    | rtRouteT n => exact h
  · exact h

/-- The handlers before that of the first timer for a route leave the route, and its latest addition,
as they are. -/
lemma exists_recorte {r : RtRouteParam} {x : RtTimer} (hx : rutaDe x = some r) {bs : List RtTimer}
    {t : Timeval} (as : List RtTimer) (has : ∀ a ∈ as, rutaDe a ≠ some r) {s : Ruteo}
    (hexp : s.expiredTQ = as ++ x :: bs) (hker : r ∈ s.kernel) (halta : s.ultimaAlta r = some t)
    (hnow : timevalDiff s.now t < 1000 * tRoute) :
    ∃ u ∈ steps step s (List.replicate (as.length + 1) .fire), ¬ u.1.EnTermino u.2.1 := by
  induction as generalizing s with
  | nil =>
      have hstep : s.step .fire = some (atender x { s with expiredTQ := bs }) := by
        rw [step, hexp]
        rfl
      refine ⟨(s, .fire, atender x { s with expiredTQ := bs }), ?_, fun hc => ?_⟩
      · rw [List.replicate_succ, steps_cons_some _ hstep]
        exact List.mem_cons_self
      · have hcad : s.caduca .fire = some r := by
          rw [caduca, hexp]
          exact hx
        exact absurd (hc r hcad hker t halta) (not_le.mpr hnow)
  | cons a as ih =>
      have hstep : s.step .fire = some (atender a { s with expiredTQ := as ++ x :: bs }) := by
        rw [step, hexp]
        rfl
      have hother := has a List.mem_cons_self
      have hrest : (atender a { s with expiredTQ := as ++ x :: bs }).expiredTQ = as ++ x :: bs
          ∧ r ∈ (atender a { s with expiredTQ := as ++ x :: bs }).kernel
          ∧ (atender a { s with expiredTQ := as ++ x :: bs }).ultimaAlta r = some t
          ∧ (atender a { s with expiredTQ := as ++ x :: bs }).now = s.now := by
        unfold rutaDe at hother
        unfold atender
        cases hid : a.id with
        | vbT i => exact ⟨rfl, hker, halta, rfl⟩
        | routeT i =>
            rw [hid] at hother
            exact ⟨rfl, Finset.mem_erase.mpr ⟨fun heq => hother (congrArg some heq.symm), hker⟩, halta, rfl⟩
        | rtRouteT n =>
            rw [hid] at hother
            exact ⟨rfl, Finset.mem_erase.mpr ⟨fun heq => hother (congrArg some heq.symm), hker⟩, halta, rfl⟩
      obtain ⟨hq, hk, hal, hn⟩ := hrest
      rw [← hn] at hnow
      obtain ⟨u, hu, hno⟩ := ih (fun b hb => has b (List.mem_cons_of_mem _ hb)) hq hk hal hnow
      refine ⟨u, ?_, hno⟩
      rw [List.length_cons, List.replicate_succ, steps_cons_some _ hstep]
      exact List.mem_cons_of_mem _ hu

/-- The earlier timer expires. -/
lemma exists_recorte_addRtRoute {s : Ruteo} (hord : s.EnOrden) {r : RtRouteParam} {clock : Timeval}
    (hno : ¬ s.guardaAlta (.addRtRoute r clock)) :
    ∃ now n, ∃ t ∈ steps step s (.addRtRoute r clock :: .timeout now :: List.replicate n .fire),
      ¬ t.1.EnTermino t.2.1 := by
  simp only [guardaAlta] at hno
  push Not at hno
  obtain ⟨hexp, u, hu, hr, hearly⟩ := hno
  -- at the deadline of the earlier timer, and the first one for the route then
  have hadd : s.step (.addRtRoute r clock) = some (s.addRtRoute r clock) := by
    rw [step, hexp]
    rfl
  have hexp' : (s.addRtRoute r clock).expiredTQ = [] := hexp
  have hcut : (s.addRtRoute r clock).step (.timeout u.timeout)
      = some ((s.addRtRoute r clock).cortar u.timeout) := by
    rw [step, hexp']
    rfl
  have hord' : ((s.addRtRoute r clock).tq).Pairwise fun t u => timevalDiff t.timeout u.timeout ≤ 0 :=
    pairwise_insertar hord
  have huq : u ∈ (s.addRtRoute r clock).tq := mem_insertar.mpr (Or.inr hu)
  have hmem : u ∈ (s.addRtRoute r clock).tq.takeWhile fun t => timevalDiff t.timeout u.timeout ≤ 0 := by
    obtain ⟨as, bs, hsplit⟩ := List.append_of_mem huq
    rw [hsplit, List.pairwise_append] at hord'
    rw [hsplit, List.takeWhile_append_of_pos, List.takeWhile_cons_of_pos]
    · exact List.mem_append_right _ List.mem_cons_self
    · simp [timevalDiff]
    · intro a ha
      exact decide_eq_true (hord'.2.2 a ha u List.mem_cons_self)
  have hsome : ((s.addRtRoute r clock).tq.takeWhile fun t => timevalDiff t.timeout u.timeout ≤ 0).any
      fun t => rutaDe t = some r := List.any_eq_true.mpr ⟨u, hmem, decide_eq_true hr⟩
  obtain ⟨x, hx⟩ := List.find?_isSome.mpr (List.any_eq_true.mp hsome) |> Option.isSome_iff_exists.mp
  obtain ⟨hxr, as, bs, hlist, has⟩ := List.find?_eq_some_iff_append.mp hx
  have hcortar : ((s.addRtRoute r clock).cortar u.timeout).expiredTQ = as ++ x :: bs := by
    rw [cortar, if_pos hexp']
    exact hlist
  have hker : r ∈ ((s.addRtRoute r clock).cortar u.timeout).kernel := by
    rw [cortar, if_pos hexp']
    exact Finset.mem_insert_self _ _
  have halta : ((s.addRtRoute r clock).cortar u.timeout).ultimaAlta r = some clock := by
    rw [cortar, if_pos hexp']
    exact (ultimaAlta_addRtRoute s r r clock).trans (if_pos rfl)
  have hnow : timevalDiff ((s.addRtRoute r clock).cortar u.timeout).now clock < 1000 * tRoute := by
    rw [cortar, if_pos hexp']
    have hsum := timevalDiff_add u.timeout (plazo clock) clock
    have hruta := timevalDiff_plazo clock
    dsimp only
    linarith
  obtain ⟨t, ht, hbad⟩ := exists_recorte (of_decide_eq_true hxr) as
    (fun a ha hc => by simpa [hc] using has a ha) hcortar hker halta hnow
  refine ⟨u.timeout, as.length + 1, t, ?_, hbad⟩
  rw [steps_cons_some _ hadd, steps_cons_some _ hcut]
  exact List.mem_cons_of_mem _ (List.mem_cons_of_mem _ ht)

/-- **An addition that finds an earlier timer** for its route, in whatever run, is cut short when that
one expires. -/
theorem ruta_recortada {s : Ruteo} (h : s.Inicial) (evs : List Evento) (hevs : ∀ ev ∈ evs, ev.DeRutas)
    {u : Ruteo} (hu : u ∈ states step s evs) {r : RtRouteParam} {clock : Timeval}
    (hno : ¬ u.guardaAlta (.addRtRoute r clock)) :
    ∃ now n, ∃ t ∈ steps step u (.addRtRoute r clock :: .timeout now :: List.replicate n .fire),
      ¬ t.1.EnTermino t.2.1 := by
  have hini : s.EnOrden := by
    unfold EnOrden
    rw [h.tq]
    exact List.Pairwise.nil
  have hord : ∀ u ∈ states step s evs, u.EnOrden :=
    invariant_of_guard (G := fun _ ev => ev.DeRutas) (fun _ _ _ hv hev hstep => hv.step hev hstep) hini
      fun t ht => hevs _ (event_mem_of_mem_steps ht)
  exact exists_recorte_addRtRoute (hord u hu) hno

end Ruteo

end Antop
