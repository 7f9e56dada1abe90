import Antop.TimerExpiry

/-!
# How long the main loop waits

Before each `select` the main loop calls `timer_age_queue`, which runs the handlers of the expired timers
and then says how long it is until the next deadline.

* `restante` — the two differences and the borrow; `micros_restante` — no time is lost in them.
* `timerAgeQueue` — the function, with what it returns; `Espera` — what this should be.
* **`tiempo_de_espera`** — it is that, when no handler arms a timer that waits for its own.
* `no_vuelve` — a handler that does so can make the queue a cycle.
-/

namespace Antop

open ListSegment

/-! ## Times -/

/-- The microseconds are less than a second. -/
def Timeval.Normal (t : Timeval) : Prop := 0 ≤ t.tvUsec ∧ t.tvUsec < 1000000

instance : DecidablePred Timeval.Normal :=
  fun t => inferInstanceAs (Decidable (0 ≤ t.tvUsec ∧ t.tvUsec < 1000000))

/-- A span of time, in microseconds. -/
def Timeval.micros (t : Timeval) : ℤ := 1000000 * t.tvSec + t.tvUsec

/-- `remaining`: the seconds and the microseconds are subtracted, and one second is borrowed. -/
def restante (timeout now : Timeval) : Timeval :=
  let tvUsec := timeout.tvUsec - now.tvUsec
  let tvSec := timeout.tvSec - now.tvSec
  if tvUsec < 0 then { tvSec := tvSec - 1, tvUsec := tvUsec + 1000000 }
  else { tvSec := tvSec, tvUsec := tvUsec }

lemma micros_restante (timeout now : Timeval) : (restante timeout now).micros = timevalDiff timeout now := by
  unfold restante Timeval.micros timevalDiff
  dsimp only
  split_ifs
  · dsimp only
    ring
  · dsimp only
    ring

/-- One borrow is enough. -/
lemma normal_restante {timeout now : Timeval} (h : timeout.Normal) (hnow : now.Normal) :
    (restante timeout now).Normal := by
  unfold Timeval.Normal at h hnow
  unfold restante Timeval.Normal
  dsimp only
  split_ifs with hneg
  · dsimp only
    omega
  · dsimp only
    omega

/-- The time until a deadline that has not passed is not negative. -/
lemma tvSec_restante {timeout now : Timeval} (h : timeout.Normal) (hnow : now.Normal)
    (hle : 0 ≤ timevalDiff timeout now) : 0 ≤ (restante timeout now).tvSec := by
  have hnormal := normal_restante h hnow
  have hmicros := micros_restante timeout now
  unfold Timeval.Normal at hnormal
  unfold Timeval.micros at hmicros
  omega

variable {κ : Type*}

/-- What `timer_add_msec` sets is normal. -/
lemma Arma.normal_timeout {a : Arma κ} (hclock : a.clock.Normal) (hmsec : 0 ≤ a.msec) :
    a.timeout.Normal := by
  have husec : 0 ≤ a.clock.tvUsec + a.msec * 1000 := by have := hclock.1; omega
  exact ⟨Int.tmod_nonneg _ husec, Int.tmod_lt_of_pos _ (by decide)⟩

/-- It is so long after the reading as it was asked for. -/
lemma Arma.timevalDiff_timeout (a : Arma κ) : timevalDiff a.timeout a.clock = 1000 * a.msec := by
  have hsplit := Int.mul_tdiv_add_tmod (a.clock.tvUsec + a.msec * 1000) 1000000
  simp only [timevalDiff, Arma.timeout]
  omega

namespace TimerMem

variable [DecidableEq κ] {lim : ℕ} {s s' : TimerMem κ} {xs ys ts : List κ} {as : List (Arma κ)}

/-! ## The function -/

/-- `timer_age_queue`, at the time `now`: what it returns, `none` for the null pointer. -/
def timerAgeQueue (lim : ℕ) (now : Timeval) (ass : List (List (Arma κ))) (s : TimerMem κ) :
    Option (Option Timeval × TimerMem κ) :=
  (s.timerTimeout lim now ass).map fun s => (s.cola.head.map fun tq => restante (s.timeout tq) now, s)

/-- What the main loop may give to `select`, when the timers `ys` are pending. -/
structure Espera (s : TimerMem κ) (now : Timeval) (ys : List κ) (r : Option Timeval) : Prop where
  nulo : r = none ↔ ys = []
  normal : ∀ v ∈ r, v.Normal
  noNegativo : ∀ v ∈ r, 0 ≤ v.tvSec
  primero : ∀ v ∈ r, ∃ t ∈ ys, (∀ u ∈ ys, s.Precede t u) ∧ v.micros = timevalDiff (s.timeout t) now

/-- The clock is read after `now`, and the delay is not negative. -/
def DespuesDe (now : Timeval) (a : Arma κ) : Prop :=
  a.clock.Normal ∧ timevalDiff now a.clock ≤ 0 ∧ 0 ≤ a.msec

omit [DecidableEq κ] in
/-- What a handler arms is due after the time at which the handlers have begun to run. -/
lemma DespuesDe.timeout {now : Timeval} {a : Arma κ} (h : DespuesDe now a) :
    a.timeout.Normal ∧ 0 ≤ timevalDiff a.timeout now := by
  obtain ⟨hclock, hnow, hmsec⟩ := h
  have hdiff := a.timevalDiff_timeout
  refine ⟨a.normal_timeout hclock hmsec, ?_⟩
  unfold timevalDiff at hnow hdiff ⊢
  omega

/-- A deadline is the one it was, or one that has been set. -/
lemma plazos_cases (as : List (Arma κ)) (timeout : κ → Timeval) (t : κ) :
    (∃ a ∈ as, plazos as timeout t = a.timeout)
      ∨ (¬ ∃ a ∈ as, a.timer = t) ∧ plazos as timeout t = timeout t := by
  induction as using List.reverseRecOn with
  | nil => exact Or.inr ⟨by simp, rfl⟩
  | append_singleton as a ih =>
      rw [plazos_concat]
      by_cases ht : t = a.timer
      · subst ht
        exact Or.inl ⟨a, by simp, Function.update_self ..⟩
      · rw [Function.update_of_ne ht]
        rcases ih with ⟨b, hb, heq⟩ | ⟨hno, heq⟩
        · exact Or.inl ⟨b, List.mem_append_left _ hb, heq⟩
        · refine Or.inr ⟨?_, heq⟩
          rintro ⟨b, hb, hbt⟩
          rcases List.mem_append.mp hb with hb | hb
          · exact hno ⟨b, hb, hbt⟩
          · exact ht (by rw [← hbt, List.mem_singleton.mp hb])

/-- **The pending timers** after the call are due later, at normal times. -/
lemma Vencido.plazo {now : Timeval} (h : s.Vencido s' now xs ys ts as)
    (hnormal : ∀ t ∈ xs, (s.timeout t).Normal) (has : ∀ a ∈ as, DespuesDe now a) :
    ∀ t ∈ ys, (s'.timeout t).Normal ∧ 0 ≤ timevalDiff (s'.timeout t) now := by
  intro t ht
  rw [h.plazos]
  rcases plazos_cases as s.timeout t with ⟨a, ha, heq⟩ | ⟨hno, heq⟩
  · rw [heq]
    exact (has a ha).timeout
  · obtain ⟨hmem, hdue⟩ := ((h.son t).mp ht).resolve_right hno
    rw [heq]
    exact ⟨hnormal t hmem, (not_le.mp hdue).le⟩

/-- The first timer of the queue is the one that is due first. -/
lemma Vencido.espera {now : Timeval} (h : s.Vencido s' now xs ys ts as) (hnow : now.Normal)
    (hplazo : ∀ t ∈ ys, (s'.timeout t).Normal ∧ 0 ≤ timevalDiff (s'.timeout t) now) :
    s'.Espera now ys (s'.cola.head.map fun tq => restante (s'.timeout tq) now) := by
  rw [Seg.head_eq h.cola]
  cases ys with
  | nil => exact ⟨by simp, by simp, by simp, by simp⟩
  | cons t ys =>
      obtain ⟨hnormal, hle⟩ := hplazo t List.mem_cons_self
      have hself : s'.Precede t t := by
        unfold Precede timevalDiff
        omega
      refine ⟨by simp, ?_, ?_, ?_⟩
      · rintro _ ⟨⟩
        exact normal_restante hnormal hnow
      · rintro _ ⟨⟩
        exact tvSec_restante hnormal hnow hle
      · rintro _ ⟨⟩
        exact ⟨t, List.mem_cons_self, List.forall_mem_cons.mpr ⟨hself, (List.pairwise_cons.mp h.orden).1⟩,
          micros_restante _ now⟩

/-- **The time until the next deadline.**  Let the queue be the list `xs`, in the order of its deadlines,
with the timers of the list in use and no others; let the times be normal, the readings of the clock not
before the one at entry, and the delays not negative; and let no handler arm a timer that has expired too
and waits for its own handler.  Then `timer_age_queue` returns the null pointer exactly when no timer is
pending, and otherwise a normal time that is not negative, from the reading at entry to the first
deadline. -/
theorem tiempo_de_espera (hcola : s.cola.Has xs) (horden : xs.Pairwise s.Precede)
    (hused : ∀ t, s.used t = true ↔ t ∈ xs) (hnormal : ∀ t ∈ xs, (s.timeout t).Normal) {now : Timeval}
    (hnow : now.Normal) {ass : List (List (Arma κ))} (hass : ∀ as ∈ ass, ∀ a ∈ as, DespuesDe now a)
    (hp : NoEsperan (xs.filter fun t => s.Expirado now t) ass)
    (hlim : xs.length + (ass.map List.length).sum ≤ lim) :
    ∃ r s' ys ts, s.timerAgeQueue lim now ass = some (r, s')
      ∧ s.Vencido s' now xs ys ts (ass.take ts.length).flatten ∧ s'.Espera now ys r := by
  obtain ⟨ts, s', ys, -, hrun, h⟩ := exists_vencido hcola horden hused now ass hlim hp
  have harmas : ∀ a ∈ (ass.take ts.length).flatten, DespuesDe now a := by
    intro a ha
    obtain ⟨as, has, ha⟩ := List.mem_flatten.mp ha
    exact hass as (List.mem_of_mem_take has) a ha
  exact ⟨_, s', ys, ts, by rw [timerAgeQueue, hrun, Option.map_some], h,
    h.espera hnow (h.plazo hnormal harmas)⟩

/-- `0` and `1` expire, the handler of `0` arms it again, and that of `1` arms `2`. -/
theorem tiempo_de_espera_tresTimers :
    ∃ r s' ys ts, tresTimers.timerAgeQueue 9 ⟨5, 0⟩ [[⟨0, 7000, ⟨5, 0⟩⟩], [⟨2, 500, ⟨5, 0⟩⟩]] = some (r, s')
      ∧ tresTimers.Vencido s' ⟨5, 0⟩ [0, 1, 3] ys ts
        (([[⟨0, 7000, ⟨5, 0⟩⟩], [⟨2, 500, ⟨5, 0⟩⟩]] : List (List (Arma ℕ))).take ts.length).flatten
      ∧ s'.Espera ⟨5, 0⟩ ys r :=
  have hcola : tresTimers.cola.Has [0, 1, 3] := ⟨rfl, rfl, rfl, rfl⟩
  tiempo_de_espera hcola (by unfold Precede; decide) (fun _ => by rw [tresTimers, decide_eq_true_eq])
    (by decide) (by decide) (by unfold DespuesDe; decide) (by decide) (by decide)

/-! ## Arming a timer that waits -/

/-- Two timers that have expired. -/
def dosVencidos : TimerMem ℕ :=
  { cola := ⟨some 0, fun t => if t = 0 then some 1 else none⟩
    used := fun t => decide (t ∈ [0, 1]), timeout := fun _ => ⟨1, 0⟩, armado := id, armados := 2 }

/-- The handler of `0` arms `1`, whose handler has still to run; this one arms `1` again, and then `2`. -/
def armanVencido : List (List (Arma ℕ)) := [[⟨1, 0, ⟨5, 0⟩⟩], [⟨1, 0, ⟨5, 0⟩⟩, ⟨2, 0, ⟨5, 0⟩⟩]]

/-- `1` is in the queue when its handler runs, and is not in use any more, so that it is not taken out
when it is armed again: it is put behind itself. -/
lemma timerTimeout_dosVencidos (lim : ℕ) : dosVencidos.timerTimeout lim ⟨5, 0⟩ armanVencido = none := by
  rcases lim with _ | _ | lim
  · rfl
  · rfl
  · have hcut : dosVencidos.cortar (lim + 2) ⟨5, 0⟩
        = some (some 0, { dosVencidos with cola := ⟨none, Function.update dosVencidos.cola.next 1 none⟩ }) := by
      simp [cortar, dosVencidos, scan, timevalDiff]
    rw [timerTimeout, hcut, Option.bind_eq_bind, Option.bind_some, armanVencido]
    dsimp only
    -- the handler of `0`: `1` goes into the queue, which is empty
    rw [correr]
    simp only [TimerMem.atender, List.headD_cons, List.tail_cons, List.foldlM_cons, List.foldlM_nil]
    simp [timerAddMsec, timerAdd, retirar, timerRemove, dosVencidos, scan, ponerEnCola, Arma.timeout]
    -- the handler of `1`: it is armed again, and the walk for `2` does not end
    rw [correr]
    simp only [TimerMem.atender, List.headD_cons, List.tail_cons, List.foldlM_cons, List.foldlM_nil]
    simp [timerAddMsec, timerAdd, retirar, scan, ponerEnCola, Arma.timeout, despues, timevalDiff, Links.link,
      Links.setAfter]
    intro c
    rw [scan_loop (by simp [despues, timevalDiff]) (by simp)]
    simp

/-- **`timer_age_queue` need not return** when a handler arms a timer that waits for its own. -/
theorem no_vuelve : ¬ ∀ (s : TimerMem ℕ) (xs : List ℕ) (now : Timeval) (ass : List (List (Arma ℕ))),
    s.cola.Has xs → xs.Pairwise s.Precede → (∀ t, s.used t = true ↔ t ∈ xs) →
      (∀ t ∈ xs, (s.timeout t).Normal) → now.Normal → (∀ as ∈ ass, ∀ a ∈ as, DespuesDe now a) →
        ∃ lim r s' ys, s.timerAgeQueue lim now ass = some (r, s') ∧ s'.cola.Has ys ∧ s'.Espera now ys r := by
  intro h
  have hcola : dosVencidos.cola.Has [0, 1] := ⟨rfl, rfl, rfl⟩
  obtain ⟨lim, r, s', ys, hrun, -⟩ := h dosVencidos [0, 1] ⟨5, 0⟩ armanVencido hcola
    (by unfold Precede; decide) (fun _ => by rw [dosVencidos, decide_eq_true_eq]) (by decide) (by decide)
    (by unfold DespuesDe; decide)
  rw [timerAgeQueue, timerTimeout_dosVencidos] at hrun
  exact absurd hrun (by simp)

end TimerMem

end Antop
