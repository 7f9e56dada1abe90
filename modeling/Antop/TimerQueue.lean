import Mathlib.Tactic

/-!
# The timer queue

`TQ` holds the pending timers in the order of their deadlines.  A timer is named by `TimerId`: the
three static timers of the daemon and the ones `send_sap1` allocates while it waits for a `SAN`.

* `timerAdd`, `timerAddMsec`, `timerRemove` — arming and disarming.
* `cutExpired` — how `timer_timeout` takes the expired timers off the queue.

What the rest of the development needs is membership: `queued_timerAdd_self`,
`queued_timerAdd_of_queued` and `queued_or_expired_of_queued`.
-/

namespace Antop

/-- `struct timeval`. -/
structure Timeval where
  tvSec : ℤ
  tvUsec : ℤ
deriving DecidableEq

/-- `timeval_diff`, in microseconds. -/
def timevalDiff (t1 t2 : Timeval) : ℤ := 1000000 * (t1.tvSec - t2.tvSec) + t1.tvUsec - t2.tvUsec

/-- `hb_t`, `chk_neigh_t`, `rv_t` and the timers allocated by `send_sap1`, numbered. -/
inductive TimerId
  | hbT
  | chkNeighT
  | rvT
  | sanT (n : ℕ)
deriving DecidableEq

/-- A queued `struct timer`. -/
structure Timer where
  id : TimerId
  timeout : Timeval
deriving DecidableEq

/-- `TQ`, the sublist of expired timers whose handlers `timer_timeout` is running, and the timers
whose `used` field is 1. -/
structure TimerQueue where
  tq : List Timer
  expiredTQ : List Timer
  used : List TimerId

/-- The timer is in the queue. -/
def TimerQueue.Queued (q : TimerQueue) (id : TimerId) : Prop := ∃ t ∈ q.tq, t.id = id

/-- `timer_remove`. -/
def timerRemove (id : TimerId) (q : TimerQueue) : TimerQueue :=
  { q with
    tq := q.tq.eraseP fun t => t.id = id
    used := q.used.filter fun u => u ≠ id }

/-- The place of a new timer: before the first one with a later deadline. -/
def insertTimer (t : Timer) : List Timer → List Timer
  | [] => [t]
  | curr :: rest =>
      if timevalDiff t.timeout curr.timeout < 0 then t :: curr :: rest
      else curr :: insertTimer t rest

/-- `timer_add`: a timer in use is removed first. -/
def timerAdd (t : Timer) (q : TimerQueue) : TimerQueue :=
  let q := if t.id ∈ q.used then timerRemove t.id q else q
  { q with
    tq := insertTimer t q.tq
    used := t.id :: q.used }

/-- `timer_add_msec`, at the time `clock`. -/
def timerAddMsec (id : TimerId) (msec : ℤ) (clock : Timeval) (q : TimerQueue) : TimerQueue :=
  let usec := clock.tvUsec + msec * 1000
  timerAdd ⟨id, ⟨clock.tvSec + usec.tdiv 1000000, usec.tmod 1000000⟩⟩ q

/-- The timer `malloc` returns to `send_sap1`: none of those in the queue. -/
def freshSanT (q : TimerQueue) : TimerId :=
  .sanT ((q.tq.map fun t => match t.id with
    | .sanT n => n + 1
    | _ => 0).foldr max 0)

/-- `timer_timeout` up to its second loop: the expired timers are decoupled from the queue. -/
def cutExpired (now : Timeval) (q : TimerQueue) : TimerQueue :=
  { q with
    tq := q.tq.dropWhile fun t => timevalDiff t.timeout now ≤ 0
    expiredTQ := q.tq.takeWhile fun t => timevalDiff t.timeout now ≤ 0 }

/-- A timer whose handler runs is in use no more. -/
def release (id : TimerId) (q : TimerQueue) : TimerQueue :=
  { q with used := q.used.filter fun u => u ≠ id }

/-- Cutting the queue loses no timer. -/
lemma queued_or_expired_of_queued {id : TimerId} (now : Timeval) {q : TimerQueue}
    (h : q.Queued id) :
    (cutExpired now q).Queued id ∨ ∃ t ∈ (cutExpired now q).expiredTQ, t.id = id := by
  obtain ⟨t, ht, rfl⟩ := h
  rw [← List.takeWhile_append_dropWhile (p := fun t => decide (timevalDiff t.timeout now ≤ 0)) (l := q.tq),
    List.mem_append] at ht
  rcases ht with ht | ht
  · exact Or.inr ⟨t, ht, rfl⟩
  · exact Or.inl ⟨t, ht, rfl⟩

lemma mem_insertTimer {t u : Timer} {ts : List Timer} : u ∈ insertTimer t ts ↔ u = t ∨ u ∈ ts := by
  induction ts with
  | nil => simp [insertTimer]
  | cons curr rest ih =>
      unfold insertTimer
      split_ifs
      · simp
      · rw [List.mem_cons, ih, List.mem_cons, or_left_comm]

/-- An armed timer is queued. -/
lemma queued_timerAdd_self (t : Timer) (q : TimerQueue) : (timerAdd t q).Queued t.id :=
  ⟨t, mem_insertTimer.mpr (Or.inl rfl), rfl⟩

/-- Arming a timer keeps the others queued. -/
lemma queued_timerAdd_of_queued {id : TimerId} {q : TimerQueue} (t : Timer) (h : q.Queued id) :
    (timerAdd t q).Queued id := by
  by_cases hid : t.id = id
  · subst hid
    exact queued_timerAdd_self t q
  · obtain ⟨u, hu, rfl⟩ := h
    refine ⟨u, mem_insertTimer.mpr (Or.inr ?_), rfl⟩
    split_ifs
    · exact (List.mem_eraseP_of_neg (by simpa using fun h => hid h.symm)).mpr hu
    · exact hu

lemma expiredTQ_timerAdd (t : Timer) (q : TimerQueue) : (timerAdd t q).expiredTQ = q.expiredTQ := by
  unfold timerAdd
  dsimp only
  split_ifs <;> rfl

lemma queued_timerAddMsec_self (id : TimerId) (msec : ℤ) (clock : Timeval) (q : TimerQueue) :
    (timerAddMsec id msec clock q).Queued id := queued_timerAdd_self _ q

lemma queued_timerAddMsec_of_queued {id : TimerId} {q : TimerQueue} (id' : TimerId) (msec : ℤ)
    (clock : Timeval) (h : q.Queued id) : (timerAddMsec id' msec clock q).Queued id :=
  queued_timerAdd_of_queued _ h

/-- What arming timers keeps: the queued ones stay queued, and those being run are the same. -/
structure KeepsTimers (q q' : TimerQueue) : Prop where
  queued : ∀ id, q.Queued id → q'.Queued id
  expiredTQ : q'.expiredTQ = q.expiredTQ

lemma KeepsTimers.refl (q : TimerQueue) : KeepsTimers q q := ⟨fun _ h => h, rfl⟩

lemma KeepsTimers.trans {q q' q'' : TimerQueue} (h : KeepsTimers q q') (h' : KeepsTimers q' q'') :
    KeepsTimers q q'' :=
  ⟨fun id hid => h'.queued id (h.queued id hid), h'.expiredTQ.trans h.expiredTQ⟩

lemma keepsTimers_timerAddMsec (id : TimerId) (msec : ℤ) (clock : Timeval) (q : TimerQueue) :
    KeepsTimers q (timerAddMsec id msec clock q) :=
  ⟨fun _ h => queued_timerAddMsec_of_queued id msec clock h, expiredTQ_timerAdd _ q⟩

end Antop
