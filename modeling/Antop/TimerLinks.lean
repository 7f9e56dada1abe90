import Antop.Library.ListSegment
import Antop.Library.Transition
import Antop.TimerQueue
import Mathlib.Data.List.TakeWhile

/-!
# The timer queue in memory

`struct timer` carries the link of the queue in itself.  Here the functions of the queue work on the
links, as the source has them; `κ` is the type of the timers' addresses.

* `TimerMem` — `TQ` with the fields `next`, `used` and `timeout` of all timers, and the order in which
  they were armed.
* `timerRemove`, `timerAdd`, `timerAddMsec`, `timerTimeoutNow`, `timerTimeout` — the functions; a loop
  that takes more than `lim` rounds makes the result `none`.
* `TimerMem.EnCola` — the queue is a list of cells, in the order of their deadlines and, among equal
  ones, of their arming, and its cells are the timers in use.
* **`cola_ordenada`** — this holds after each call, and each call returns.
-/

namespace Antop

open ListSegment Transition

/-- A call of `timer_add_msec`, at the time `clock`. -/
structure Arma (κ : Type*) where
  timer : κ
  msec : ℤ
  clock : Timeval

/-- The deadline it sets. -/
def Arma.timeout {κ : Type*} (a : Arma κ) : Timeval :=
  let usec := a.clock.tvUsec + a.msec * 1000
  { tvSec := a.clock.tvSec + usec.tdiv 1000000, tvUsec := usec.tmod 1000000 }

/-- `TQ` and the timers.  `armado` is the number of the last `timer_add` of a timer, and `armados` how
many there have been. -/
structure TimerMem (κ : Type*) where
  cola : Links κ
  used : κ → Bool
  timeout : κ → Timeval
  armado : κ → ℕ
  armados : ℕ

namespace TimerMem

variable {κ : Type*} [DecidableEq κ] (lim : ℕ)

/-! ## The functions -/

/-- `timer_remove`. -/
def timerRemove (t : κ) (s : TimerMem κ) : Option (TimerMem κ) := do
  let s := { s with used := Function.update s.used t false }
  let (prev, curr) ← scan (fun curr => curr = t) s.cola.next lim none s.cola.head
  match curr with
  | none => return s
  | some _ => return { s with cola := s.cola.unlink prev t }

/-- The place of a timer: the first one in the queue with a later deadline. -/
def despues (s : TimerMem κ) (t curr : κ) : Bool := timevalDiff (s.timeout t) (s.timeout curr) < 0

/-- The links after `timer_add` has put a timer into the queue: alone, in front, or behind `prev`. -/
def ponerEnCola (t : κ) (s : TimerMem κ) : Option (Links κ) :=
  if s.cola.head = none then some { head := some t, next := Function.update s.cola.next t none }
  else do
    let (prev, curr) ← scan (s.despues t) s.cola.next lim none s.cola.head
    return if curr = s.cola.head then
      { head := some t, next := Function.update s.cola.next t s.cola.head }
    else s.cola.link prev curr t

/-- A timer in use is removed before it is added again. -/
def retirar (t : κ) (s : TimerMem κ) : Option (TimerMem κ) :=
  if s.used t then s.timerRemove lim t else some s

/-- `timer_add`. -/
def timerAdd (t : κ) (s : TimerMem κ) : Option (TimerMem κ) := do
  let s ← s.retirar lim t
  let cola ← s.ponerEnCola lim t
  return { s with
    used := Function.update s.used t true
    armado := Function.update s.armado t s.armados, armados := s.armados + 1, cola := cola }

/-- `timer_add_msec`. -/
def timerAddMsec (a : Arma κ) (s : TimerMem κ) : Option (TimerMem κ) :=
  timerAdd lim a.timer { s with timeout := Function.update s.timeout a.timer a.timeout }

/-- A handler: the timers it arms, one after the other. -/
def atender (as : List (Arma κ)) (s : TimerMem κ) : Option (TimerMem κ) :=
  as.foldlM (fun s a => s.timerAddMsec lim a) s

/-- `timer_timeout_now`, with what the handler arms. -/
def timerTimeoutNow (t : κ) (as : List (Arma κ)) (s : TimerMem κ) : Option (TimerMem κ) := do
  let s := { s with used := Function.update s.used t false }
  let (prev, curr) ← scan (fun curr => curr = t) s.cola.next lim none s.cola.head
  match curr with
  | none => return s
  | some _ => atender lim as { s with cola := s.cola.unlink prev t }

/-- The first loop of `timer_timeout`: the expired timers are decoupled from the queue. -/
def cortar (now : Timeval) (s : TimerMem κ) : Option (Option κ × TimerMem κ) := do
  let expiredTQ := s.cola.head
  let (prev, tq) ← scan (fun curr => decide (0 < timevalDiff (s.timeout curr) now)) s.cola.next lim none
    s.cola.head
  match prev with
  | none => return (none, s)
  | some b => return (expiredTQ,
      { s with cola := { head := tq, next := Function.update s.cola.next b none } })

/-- The second loop of `timer_timeout`, with what the handlers arm, in the order in which they run. -/
def correr : ℕ → Option κ → List (List (Arma κ)) → TimerMem κ → Option (TimerMem κ)
  | _, none, _, s => some s
  | 0, some _, _, _ => none
  | fuel + 1, some tmp, ass, s =>
      let expiredTQ := s.cola.next tmp
      (atender lim (ass.headD []) { s with used := Function.update s.used tmp false }).bind
        (correr fuel expiredTQ ass.tail)

/-- `timer_timeout`. -/
def timerTimeout (now : Timeval) (ass : List (List (Arma κ))) (s : TimerMem κ) :
    Option (TimerMem κ) := do
  let (expiredTQ, s) ← s.cortar lim now
  correr lim lim expiredTQ ass s

/-! ## The order of the queue -/

/-- `t` expires before `u`, or together with it and was armed before it. -/
def Antes (s : TimerMem κ) (t u : κ) : Prop :=
  timevalDiff (s.timeout t) (s.timeout u) < 0
    ∨ timevalDiff (s.timeout t) (s.timeout u) = 0 ∧ s.armado t < s.armado u

/-- `t` does not expire after `u`. -/
def Precede (s : TimerMem κ) (t u : κ) : Prop := timevalDiff (s.timeout t) (s.timeout u) ≤ 0

/-- Where `timer_add` puts a timer. -/
def colocar (s : TimerMem κ) (t : κ) (xs : List κ) : List κ :=
  (xs.takeWhile fun x => !s.despues t x) ++ t :: xs.dropWhile fun x => !s.despues t x

variable {lim} {s : TimerMem κ} {t : κ} {xs ys : List κ} {e : Option κ}

omit [DecidableEq κ] in
lemma mem_colocar {u : κ} : u ∈ s.colocar t xs ↔ u = t ∨ u ∈ xs := by
  have hsplit : u ∈ xs ↔ u ∈ (xs.takeWhile fun x => !s.despues t x)
      ∨ u ∈ xs.dropWhile fun x => !s.despues t x := by
    rw [← List.mem_append, List.takeWhile_append_dropWhile]
  rw [colocar, List.mem_append, List.mem_cons, hsplit, or_left_comm]

omit [DecidableEq κ] in
lemma length_colocar : (s.colocar t xs).length = xs.length + 1 := by
  rw [colocar, List.length_append, List.length_cons, ← Nat.add_assoc, ← List.length_append,
    List.takeWhile_append_dropWhile]

omit [DecidableEq κ] in
lemma Antes.precede {u : κ} (h : s.Antes t u) : s.Precede t u := by
  unfold Antes at h
  unfold Precede
  omega

omit [DecidableEq κ] in
/-- A timer is put behind those that do not expire after it, and in front of those that do. -/
lemma pairwise_colocar_of {R : κ → κ → Prop} (horden : xs.Pairwise s.Precede) (h : xs.Pairwise R)
    (hpre : ∀ x ∈ xs, s.despues t x = false → R x t) (hpost : ∀ x ∈ xs, s.despues t x = true → R t x) :
    (s.colocar t xs).Pairwise R := by
  have hsplit := List.takeWhile_append_dropWhile (p := fun x => !s.despues t x) (l := xs)
  have hdrop : (xs.dropWhile fun x => !s.despues t x) = xs.filter (s.despues t) := by
    refine dropWhile_eq_filter (horden.imp fun {x y} hxy hx => ?_)
    have hlt : timevalDiff (s.timeout t) (s.timeout x) < 0 := of_decide_eq_true hx
    refine decide_eq_true ?_
    unfold Precede timevalDiff at hxy
    unfold timevalDiff at hlt ⊢
    omega
  rw [← hsplit, List.pairwise_append] at h
  obtain ⟨hfirst, hrest, hcross⟩ := h
  refine List.pairwise_append.mpr ⟨hfirst, List.pairwise_cons.mpr ⟨fun y hy => ?_, hrest⟩, ?_⟩
  · rw [hdrop, List.mem_filter] at hy
    exact hpost y hy.1 hy.2
  · intro x hx y hy
    rcases List.mem_cons.mp hy with rfl | hy
    · refine hpre x (hsplit ▸ List.mem_append_left _ hx) ?_
      simpa using List.mem_takeWhile_imp hx
    · exact hcross x hx y hy

omit [DecidableEq κ] in
/-- A timer that is put in its place is the last one armed, and goes behind those with its
deadline. -/
lemma pairwise_colocar (h : xs.Pairwise s.Antes) (hlast : ∀ x ∈ xs, s.armado x < s.armado t) :
    (s.colocar t xs).Pairwise s.Antes := by
  refine pairwise_colocar_of (h.imp Antes.precede) h (fun x hx hd => ?_) fun x hx hd => ?_
  · have hnum := hlast x hx
    have hnot : ¬ timevalDiff (s.timeout t) (s.timeout x) < 0 := of_decide_eq_false hd
    unfold timevalDiff at hnot
    unfold Antes timevalDiff
    omega
  · exact Or.inl (of_decide_eq_true hd)

/-! ## What the functions do to the links -/

/-- `timer_remove` takes the timer out of the list, if it is there. -/
lemma timerRemove_eq (h : s.cola.Has xs) (hlim : xs.length ≤ lim) (t : κ) :
    ∃ c, s.timerRemove lim t = some { s with used := Function.update s.used t false, cola := c }
      ∧ c.Has (xs.erase t)
      ∧ ∀ e ys, Seg s.cola.next e ys none → (∀ u ∈ ys, u ∉ xs) → t ∉ ys → Seg c.next e ys none := by
  have hscan := scan_eq (fun curr => decide (curr = t)) h hlim none
  by_cases ht : t ∈ xs
  · obtain ⟨as, bs, rfl, has⟩ := List.eq_append_cons_of_mem ht
    have hgo : ∀ a ∈ as, (!decide (a = t)) = true := by
      intro a ha
      simpa using fun heq : a = t => has (heq ▸ ha)
    have htake : ((as ++ t :: bs).takeWhile fun x => !decide (x = t)) = as := by
      rw [List.takeWhile_append_of_pos hgo]
      simp
    have hdrop : ((as ++ t :: bs).dropWhile fun x => !decide (x = t)) = t :: bs := by
      rw [List.dropWhile_append_of_pos hgo]
      simp
    rw [htake, hdrop, Option.or_none, List.head?_cons] at hscan
    refine ⟨s.cola.unlink as.getLast? t, by simp [timerRemove, hscan], ?_, ?_⟩
    · rw [List.erase_append_right _ has, List.erase_cons_head]
      exact h.unlink
    · intro e ys hys hdis htys
      refine Links.seg_unlink_of_disjoint hys (fun b hb hmem => hdis b hmem ?_) htys
      exact List.mem_append_left _ (List.mem_of_getLast? hb)
  · have hdrop : (xs.dropWhile fun x => !decide (x = t)) = [] := by
      rw [List.dropWhile_eq_nil_iff]
      intro x hx
      simpa using fun heq : x = t => ht (heq ▸ hx)
    rw [hdrop] at hscan
    refine ⟨s.cola, by simp [timerRemove, hscan], ?_, fun e ys hys _ _ => hys⟩
    rwa [List.erase_of_not_mem ht]

/-- The three branches of `timer_add` put the timer behind `prev`. -/
lemma ponerEnCola_eq (h : s.cola.Has xs) (hlim : xs.length ≤ lim) (t : κ) :
    s.ponerEnCola lim t = some (s.cola.link (xs.takeWhile fun x => !s.despues t x).getLast?
      (xs.dropWhile fun x => !s.despues t x).head? t) := by
  have hscan := scan_eq (s.despues t) h hlim none
  have hhead := Seg.head_eq h
  have hnodup := Seg.nodup h
  unfold ponerEnCola
  cases xs with
  | nil =>
      have hnull : s.cola.head = none := hhead
      simp [hnull, Links.link, Links.setAfter]
  | cons x xs =>
      have hsome : s.cola.head = some x := hhead
      rw [if_neg (by simp [hsome]), hscan, Option.or_none, Option.bind_eq_bind, Option.bind_some]
      by_cases hx : s.despues t x
      · simp [hx, hsome, Links.link, Links.setAfter]
      · have hne : (xs.dropWhile fun x => !s.despues t x).head? ≠ some x := by
          intro hc
          have hmem : x ∈ xs := (List.dropWhile_sublist _).subset (List.mem_of_head? hc)
          exact (List.nodup_cons.mp hnodup).1 hmem
        simp [hx, hsome, hne]

/-- `timer_add` puts the timer in its place in the list, from which it has been taken before. -/
lemma timerAdd_eq (h : s.cola.Has xs) (hlim : xs.length ≤ lim) (hused : s.used t = true ∨ t ∉ xs) :
    ∃ c, s.timerAdd lim t = some { s with
        used := Function.update s.used t true, armado := Function.update s.armado t s.armados
        armados := s.armados + 1, cola := c }
      ∧ c.Has (s.colocar t (xs.erase t))
      ∧ ∀ e ys, Seg s.cola.next e ys none → (∀ u ∈ ys, u ∉ xs) → t ∉ ys → Seg c.next e ys none := by
  -- the list without the timer
  have hsin : ∃ c, s.retirar lim t = some { s with
        used := if s.used t then Function.update s.used t false else s.used, cola := c }
      ∧ c.Has (xs.erase t)
      ∧ ∀ e ys, Seg s.cola.next e ys none → (∀ u ∈ ys, u ∉ xs) → t ∉ ys → Seg c.next e ys none := by
    by_cases hu : s.used t
    · obtain ⟨c, hrem, hc, hframe⟩ := timerRemove_eq h hlim t
      exact ⟨c, by rw [retirar, if_pos hu, if_pos hu, hrem], hc, hframe⟩
    · have ht : t ∉ xs := hused.resolve_left hu
      refine ⟨s.cola, by rw [retirar, if_neg hu, if_neg hu], ?_, fun e ys hys _ _ => hys⟩
      rwa [List.erase_of_not_mem ht]
  obtain ⟨c, hrem, hc, hframe⟩ := hsin
  have hlen : (xs.erase t).length ≤ lim := (List.length_erase_le ..).trans hlim
  have htnot : t ∉ xs.erase t := fun hmem => (Seg.nodup h).not_mem_erase hmem
  have hsplit := List.takeWhile_append_dropWhile (p := fun x => !s.despues t x) (l := xs.erase t)
  -- and with it again
  have hput := ponerEnCola_eq (s := { s with
    used := if s.used t then Function.update s.used t false else s.used, cola := c }) hc hlen t
  refine ⟨c.link ((xs.erase t).takeWhile fun x => !s.despues t x).getLast?
    ((xs.erase t).dropWhile fun x => !s.despues t x).head? t, ?_, ?_, fun e ys hys hdis htys => ?_⟩
  · have hidem : Function.update (if s.used t then Function.update s.used t false else s.used) t true
        = Function.update s.used t true := by
      split_ifs
      · exact Function.update_idem ..
      · rfl
    rw [timerAdd, hrem, Option.bind_eq_bind, Option.bind_some, hput, Option.bind_eq_bind,
      Option.bind_some, hidem]
    rfl
  · refine Links.Has.link ?_ ?_
    · exact hsplit.symm ▸ hc
    · exact hsplit.symm ▸ htnot
  · refine Links.seg_link_of_disjoint (hframe e ys hys hdis htys) (fun b hb hmem => hdis b hmem ?_) htys
    have hb' : b ∈ (xs.erase t).takeWhile fun x => !s.despues t x := List.mem_of_getLast? hb
    exact List.mem_of_mem_erase ((List.takeWhile_sublist _).subset hb')

/-- The first loop of `timer_timeout` cuts the queue in front of the first timer that has not expired. -/
lemma cortar_eq (h : s.cola.Has xs) (hlim : xs.length ≤ lim) (now : Timeval) :
    ∃ c, s.cortar lim now
        = some ((xs.takeWhile fun x => !decide (0 < timevalDiff (s.timeout x) now)).head?, { s with cola := c })
      ∧ c.Has (xs.dropWhile fun x => !decide (0 < timevalDiff (s.timeout x) now))
      ∧ Seg c.next (xs.takeWhile fun x => !decide (0 < timevalDiff (s.timeout x) now)).head?
        (xs.takeWhile fun x => !decide (0 < timevalDiff (s.timeout x) now)) none := by
  have hscan := scan_eq (fun curr => decide (0 < timevalDiff (s.timeout curr) now)) h hlim none
  have hsplit := List.takeWhile_append_dropWhile
    (p := fun x => !decide (0 < timevalDiff (s.timeout x) now)) (l := xs)
  generalize (xs.takeWhile fun x => !decide (0 < timevalDiff (s.timeout x) now)) = ys at *
  generalize (xs.dropWhile fun x => !decide (0 < timevalDiff (s.timeout x) now)) = zs at *
  subst hsplit
  rw [Option.or_none] at hscan
  rcases List.eq_nil_or_concat ys with rfl | ⟨as, b, rfl⟩
  · exact ⟨s.cola, by simp [TimerMem.cortar, hscan], h, rfl⟩
  · rw [List.concat_eq_append] at h hscan ⊢
    obtain ⟨hys, hzs⟩ := seg_append_head.mp h
    have hnodup := Seg.nodup h
    have hlast : (as ++ [b]).getLast? = some b := by simp
    -- the pointer behind the last expired timer is the one that is cut
    have hcut := Links.seg_setAfter hys (List.nodup_append.mp hnodup).1 none
    have hrest := Links.seg_setAfter_of_disjoint (r := none) hzs (getLast_notMem hnodup)
    have hhead : s.cola.head = (as ++ [b]).head? := by
      rw [Seg.head_eq h, List.head?_append, List.head?_append]
      cases as <;> rfl
    rw [hlast] at hcut hrest
    refine ⟨{ head := zs.head?, next := Function.update s.cola.next b none }, ?_, hrest, ?_⟩
    · rw [TimerMem.cortar, hscan, hlast, ← hhead]
      rfl
    · rw [← hhead]
      exact hcut

/-! ## The invariant -/

/-- The queue is the list `xs`, in any order, while the timers `ys`, found from `e`, have expired and
wait for their handlers. -/
structure EnLista (s : TimerMem κ) (xs : List κ) (e : Option κ) (ys : List κ) : Prop where
  cola : s.cola.Has xs
  expirados : Seg s.cola.next e ys none
  aparte : ∀ t ∈ ys, t ∉ xs
  usados : ∀ t, s.used t = true ↔ t ∈ xs ∨ t ∈ ys

/-- `timer_add_msec` puts any timer that is not one of those waiting for their handlers in its place. -/
lemma EnLista.timerAddMsec (h : s.EnLista xs e ys) (hlim : xs.length ≤ lim) (a : Arma κ)
    (ha : a.timer ∉ ys) :
    ∃ c, s.timerAddMsec lim a = some { s with
        timeout := Function.update s.timeout a.timer a.timeout, used := Function.update s.used a.timer true
        armado := Function.update s.armado a.timer s.armados, armados := s.armados + 1, cola := c }
      ∧ EnLista { s with
        timeout := Function.update s.timeout a.timer a.timeout, used := Function.update s.used a.timer true
        armado := Function.update s.armado a.timer s.armados, armados := s.armados + 1, cola := c }
        (colocar { s with timeout := Function.update s.timeout a.timer a.timeout } a.timer
          (xs.erase a.timer)) e ys := by
  have hused : s.used a.timer = true ∨ a.timer ∉ xs := by
    by_cases hmem : a.timer ∈ xs
    · exact Or.inl ((h.usados _).mpr (Or.inl hmem))
    · exact Or.inr hmem
  obtain ⟨c, hadd, hc, hframe⟩ := timerAdd_eq
    (s := { s with timeout := Function.update s.timeout a.timer a.timeout }) h.cola hlim hused
  refine ⟨c, hadd, hc, hframe e ys h.expirados h.aparte ha, ?_, ?_⟩
  · intro t ht hmem
    rcases mem_colocar.mp hmem with rfl | hmem
    · exact ha ht
    · exact h.aparte t ht (List.mem_of_mem_erase hmem)
  · intro t
    rw [mem_colocar]
    by_cases ht : t = a.timer
    · simp [ht]
    · simp [h.usados, ht, List.mem_erase_of_ne]

omit [DecidableEq κ] in
/-- What a handler arms is its own timer or one that is not queued, so none of those that wait. -/
lemma EnLista.notMem_of_permitido (h : s.EnLista xs e ys) (ht : t ∉ ys) {u : κ}
    (hu : u = t ∨ s.used u = false) : u ∉ ys := by
  rcases hu with rfl | hu
  · exact ht
  · intro hmem
    simp [(h.usados u).mpr (Or.inr hmem)] at hu

/-- The first one of those that wait is in use no more when its handler runs. -/
lemma EnLista.soltar (h : s.EnLista xs (some t) (t :: ys)) :
    EnLista { s with used := Function.update s.used t false } xs (s.cola.next t) ys := by
  obtain ⟨ht, -⟩ := List.nodup_cons.mp (Seg.nodup h.expirados)
  refine ⟨h.cola, h.expirados.2, fun u hu => h.aparte u (List.mem_cons_of_mem _ hu), fun u => ?_⟩
  by_cases hu : u = t
  · subst hu
    simp [ht, h.aparte u]
  · simp [hu, h.usados]

/-- The queue is the list `xs`, while the timers `ys`, found from `e`, have expired and wait for their
handlers. -/
structure EnCurso (s : TimerMem κ) (xs : List κ) (e : Option κ) (ys : List κ) : Prop where
  cola : s.cola.Has xs
  orden : xs.Pairwise s.Antes
  expirados : Seg s.cola.next e ys none
  aparte : ∀ t ∈ ys, t ∉ xs
  usados : ∀ t, s.used t = true ↔ t ∈ xs ∨ t ∈ ys
  numeros : ∀ t ∈ xs, s.armado t < s.armados
  largo : xs.length + ys.length ≤ s.armados

omit [DecidableEq κ] in
lemma EnCurso.enLista (h : s.EnCurso xs e ys) : s.EnLista xs e ys :=
  ⟨h.cola, h.expirados, h.aparte, h.usados⟩

/-- **`timer_add_msec`** keeps the queue in order, for any timer that is not one of those waiting for
their handlers. -/
lemma EnCurso.timerAddMsec (h : s.EnCurso xs e ys) (hlim : s.armados ≤ lim) (a : Arma κ)
    (ha : a.timer ∉ ys) :
    ∃ s' xs', s.timerAddMsec lim a = some s' ∧ s'.EnCurso xs' e ys ∧ s'.armados = s.armados + 1 := by
  have hlen : xs.length ≤ lim := by have := h.largo; omega
  have hnodup := Seg.nodup h.cola
  obtain ⟨c, hadd, hl⟩ := h.enLista.timerAddMsec hlen a ha
  refine ⟨_, _, hadd, ⟨hl.cola, ?_, hl.expirados, hl.aparte, hl.usados, ?_, ?_⟩, rfl⟩
  · -- the other timers keep their deadlines and numbers
    refine pairwise_colocar (h.orden.sublist List.erase_sublist |>.imp_of_mem ?_) fun x hx => ?_
    · intro x y hx hy hxy
      have hxne : x ≠ a.timer := (hnodup.mem_erase_iff.mp hx).1
      have hyne : y ≠ a.timer := (hnodup.mem_erase_iff.mp hy).1
      simpa [Antes, Function.update_of_ne hxne, Function.update_of_ne hyne] using hxy
    · have hxne : x ≠ a.timer := (hnodup.mem_erase_iff.mp hx).1
      simpa [Function.update_of_ne hxne] using h.numeros x (List.mem_of_mem_erase hx)
  · intro t ht
    by_cases hta : t = a.timer
    · simp [hta]
    · have hmem := List.mem_of_mem_erase ((mem_colocar.mp ht).resolve_left hta)
      have := h.numeros t hmem
      simp only [Function.update_of_ne hta]
      omega
  · have hle := List.length_erase_le (a := a.timer) (l := xs)
    have := h.largo
    rw [length_colocar]
    dsimp only
    omega

/-- Taking a timer out of the queue. -/
lemma EnCurso.quitar (h : s.EnCurso xs e ys) {c : Links κ} (hc : c.Has (xs.erase t))
    (hys : Seg c.next e ys none) (ht : t ∉ ys) :
    { s with used := Function.update s.used t false, cola := c }.EnCurso (xs.erase t) e ys where
  cola := hc
  orden := h.orden.sublist List.erase_sublist
  expirados := hys
  aparte := fun u hu hmem => h.aparte u hu (List.mem_of_mem_erase hmem)
  usados := by
    intro u
    by_cases hut : u = t
    · subst hut
      simp [ht, (Seg.nodup h.cola).not_mem_erase]
    · simp [hut, h.usados, List.mem_erase_of_ne]
  numeros := fun u hu => h.numeros u (List.mem_of_mem_erase hu)
  largo := by
    have hle := List.length_erase_le (a := t) (l := xs)
    have := h.largo
    dsimp only
    omega

/-! ## Handlers -/

/-- The handler of `t` arms again its own timer, or arms timers that are not queued. -/
def Permitido (lim : ℕ) (t : κ) : List (Arma κ) → TimerMem κ → Prop
  | [], _ => True
  | a :: as, s =>
      (a.timer = t ∨ s.used a.timer = false) ∧ ∀ s' ∈ s.timerAddMsec lim a, Permitido lim t as s'

instance decidablePermitido (lim : ℕ) (t : κ) : ∀ as s, Decidable (Permitido lim t as s)
  | [], _ => isTrue trivial
  | a :: as, s =>
      haveI := fun s' => decidablePermitido lim t as s'
      inferInstanceAs (Decidable ((a.timer = t ∨ s.used a.timer = false)
        ∧ ∀ s' ∈ s.timerAddMsec lim a, Permitido lim t as s'))

/-- Each handler that `timer_timeout` runs does so. -/
def PermiteCorrer (lim : ℕ) : ℕ → Option κ → List (List (Arma κ)) → TimerMem κ → Prop
  | fuel + 1, some tmp, ass, s =>
      let r := { s with used := Function.update s.used tmp false }
      Permitido lim tmp (ass.headD []) r
        ∧ ∀ s' ∈ atender lim (ass.headD []) r, PermiteCorrer lim fuel (s.cola.next tmp) ass.tail s'
  | _, _, _, _ => True

instance decidablePermiteCorrer (lim : ℕ) : ∀ fuel e ass s, Decidable (PermiteCorrer lim fuel e ass (κ := κ) s)
  | 0, _, _, _ => isTrue (by unfold PermiteCorrer; trivial)
  | _ + 1, none, _, _ => isTrue trivial
  | fuel + 1, some tmp, ass, s =>
      haveI := fun s' => decidablePermiteCorrer lim fuel (s.cola.next tmp) ass.tail s'
      inferInstanceAs (Decidable (Permitido lim tmp (ass.headD [])
          { s with used := Function.update s.used tmp false }
        ∧ ∀ s' ∈ atender lim (ass.headD []) { s with used := Function.update s.used tmp false },
          PermiteCorrer lim fuel (s.cola.next tmp) ass.tail s'))

/-- **A handler** keeps the queue in order, if it leaves alone the timers that wait for theirs. -/
lemma EnCurso.atender {as : List (Arma κ)} (h : s.EnCurso xs e ys) (hlim : s.armados + as.length ≤ lim + 1)
    (hp : ys = [] ∨ t ∉ ys ∧ Permitido lim t as s) :
    ∃ s' xs', s.atender lim as = some s' ∧ s'.EnCurso xs' e ys
      ∧ s'.armados = s.armados + as.length := by
  induction as generalizing s xs with
  | nil => exact ⟨s, xs, rfl, h, rfl⟩
  | cons a as ih =>
      rw [List.length_cons] at hlim
      have ha : a.timer ∉ ys := by
        rcases hp with rfl | ⟨ht, hdue, -⟩
        · exact List.not_mem_nil
        · exact h.enLista.notMem_of_permitido ht hdue
      obtain ⟨s₁, xs₁, hstep, h₁, hn₁⟩ := h.timerAddMsec (show s.armados ≤ lim by omega) a ha
      obtain ⟨s', xs', hrun, h', hn'⟩ := ih h₁ (by omega)
        (hp.imp_right fun ⟨ht, hperm⟩ => ⟨ht, hperm.2 s₁ hstep⟩)
      refine ⟨s', xs', ?_, h', by rw [hn', hn₁, List.length_cons]; omega⟩
      rw [TimerMem.atender, List.foldlM_cons, hstep]
      exact hrun

/-- **The expired timers**, one after the other: when all have run, the queue is in order. -/
lemma EnCurso.correr {ass : List (List (Arma κ))} {fuel : ℕ} (h : s.EnCurso xs e ys)
    (hfuel : ys.length ≤ fuel) (hlim : s.armados + (ass.map List.length).sum ≤ lim + 1)
    (hp : PermiteCorrer lim fuel e ass s) :
    ∃ s' xs', s.correr lim fuel e ass = some s' ∧ s'.EnCurso xs' none []
      ∧ s'.armados ≤ s.armados + (ass.map List.length).sum := by
  induction ys generalizing s xs e ass fuel with
  | nil =>
      obtain rfl : e = none := h.expirados
      exact ⟨s, xs, by rw [TimerMem.correr], h, Nat.le_add_right ..⟩
  | cons tmp ys ih =>
      cases fuel with
      | zero => simp at hfuel
      | succ fuel =>
          obtain ⟨rfl, -⟩ := h.expirados
          obtain ⟨htmp, -⟩ := List.nodup_cons.mp (Seg.nodup h.expirados)
          obtain ⟨hperm, hrest⟩ := hp
          have hsum : (ass.map List.length).sum
              = (ass.headD []).length + (ass.tail.map List.length).sum := by
            cases ass <;> simp
          have h₁ : { s with used := Function.update s.used tmp false }.EnCurso xs (s.cola.next tmp) ys := by
            have hl := h.enLista.soltar
            refine ⟨hl.cola, h.orden, hl.expirados, hl.aparte, hl.usados, h.numeros, ?_⟩
            have := h.largo
            rw [List.length_cons] at this
            dsimp only
            omega
          obtain ⟨s₂, xs₂, hstep, h₂, hn₂⟩ := h₁.atender (t := tmp) (by dsimp only; omega)
            (Or.inr ⟨htmp, hperm⟩)
          obtain ⟨s', xs', hrun, h', hn'⟩ := ih h₂ (by simpa using hfuel) (by dsimp only at hn₂; omega)
            (hrest s₂ hstep)
          refine ⟨s', xs', ?_, h', by dsimp only at hn₂; omega⟩
          rw [TimerMem.correr, hstep]
          exact hrun

/-- The first loop of `timer_timeout` splits the queue. -/
lemma EnCurso.cortar (h : s.EnCurso xs none []) (hlim : s.armados ≤ lim) (now : Timeval) :
    ∃ s' e' xs' ys', s.cortar lim now = some (e', s') ∧ s'.EnCurso xs' e' ys'
      ∧ s'.armados = s.armados := by
  have hlen : xs.length ≤ lim := by have := h.largo; simp at this; omega
  obtain ⟨c, hcut, hrest, hexp⟩ := cortar_eq h.cola hlen now
  have hsplit := List.takeWhile_append_dropWhile
    (p := fun x => !decide (0 < timevalDiff (s.timeout x) now)) (l := xs)
  generalize (xs.takeWhile fun x => !decide (0 < timevalDiff (s.timeout x) now)) = ys at *
  generalize (xs.dropWhile fun x => !decide (0 < timevalDiff (s.timeout x) now)) = zs at *
  subst hsplit
  refine ⟨_, _, zs, ys, hcut, ⟨hrest, ?_, hexp, ?_, ?_, ?_, ?_⟩, rfl⟩
  · exact (List.pairwise_append.mp h.orden).2.1
  · intro t ht hmem
    exact (List.nodup_append.mp (Seg.nodup h.cola)).2.2 t ht t hmem rfl
  · intro t
    rw [h.usados, List.mem_append]
    simp [or_comm]
  · intro t ht
    exact h.numeros t (List.mem_append_right _ ht)
  · have := h.largo
    simp only [List.length_append, List.length_nil] at this ⊢
    omega

/-! ## Calls -/

/-- A call of one of the functions, with what the handlers it runs arm. -/
inductive Llamada (κ : Type*)
  | addMsec (a : Arma κ)
  | remove (t : κ)
  | timeoutNow (t : κ) (as : List (Arma κ))
  | timeout (now : Timeval) (ass : List (List (Arma κ)))

/-- How often a call can arm a timer. -/
def Llamada.armas : Llamada κ → ℕ
  | .addMsec _ => 1
  | .remove _ => 0
  | .timeoutNow _ as => as.length
  | .timeout _ ass => (ass.map List.length).sum

/-- The call. -/
def llamar (lim : ℕ) (s : TimerMem κ) : Llamada κ → Option (TimerMem κ)
  | .addMsec a => s.timerAddMsec lim a
  | .remove t => s.timerRemove lim t
  | .timeoutNow t as => s.timerTimeoutNow lim t as
  | .timeout now ass => s.timerTimeout lim now ass

/-- In `timer_timeout` each handler arms again its own timer, or arms timers that are not queued. -/
def Permitida (lim : ℕ) (s : TimerMem κ) : Llamada κ → Prop
  | .timeout now ass => ∀ r ∈ s.cortar lim now, PermiteCorrer lim lim r.1 ass r.2
  | _ => True

instance (lim : ℕ) (s : TimerMem κ) (c : Llamada κ) : Decidable (s.Permitida lim c) :=
  match c with
  | .timeout now ass =>
      inferInstanceAs (Decidable (∀ r ∈ s.cortar lim now, PermiteCorrer lim lim r.1 ass r.2))
  | .addMsec _ | .remove _ | .timeoutNow _ _ => isTrue trivial

/-- `timer_timeout_now` is `timer_remove`, with the handler when the timer was in the queue. -/
lemma timerTimeoutNow_cases (lim : ℕ) (t : κ) (as : List (Arma κ)) (s : TimerMem κ) :
    s.timerTimeoutNow lim t as = s.timerRemove lim t
      ∨ s.timerTimeoutNow lim t as = (s.timerRemove lim t).bind (TimerMem.atender lim as) := by
  unfold timerTimeoutNow timerRemove
  cases hscan : scan (fun curr => decide (curr = t)) s.cola.next lim none s.cola.head with
  | none => simp [hscan]
  | some r =>
      obtain ⟨prev, curr⟩ := r
      cases curr with
      | none => simp [hscan]
      | some c => simp [hscan]

/-- **One call.** -/
lemma EnCurso.llamar {c : Llamada κ} (h : s.EnCurso xs none []) (hlim : s.armados + c.armas ≤ lim)
    (hp : s.Permitida lim c) :
    ∃ s' xs', s.llamar lim c = some s' ∧ s'.EnCurso xs' none [] ∧ s'.armados ≤ s.armados + c.armas := by
  have hlen : xs.length ≤ lim := by have := h.largo; simp at this; omega
  cases c with
  | addMsec a =>
      obtain ⟨s', xs', hstep, h', hn⟩ := h.timerAddMsec (show s.armados ≤ lim by omega) a List.not_mem_nil
      exact ⟨s', xs', hstep, h', hn.le⟩
  | remove t =>
      obtain ⟨c, hstep, hc, -⟩ := timerRemove_eq h.cola hlen t
      exact ⟨_, _, hstep, h.quitar hc rfl List.not_mem_nil, le_rfl⟩
  | timeoutNow t as =>
      obtain ⟨c, hrem, hc, -⟩ := timerRemove_eq h.cola hlen t
      have h₁ := h.quitar hc rfl (List.not_mem_nil (a := t))
      rcases timerTimeoutNow_cases lim t as s with heq | heq
      · exact ⟨_, _, heq.trans hrem, h₁, Nat.le_add_right ..⟩
      · obtain ⟨s', xs', hstep, h', hn⟩ := h₁.atender (t := t)
          (show s.armados + as.length ≤ lim + 1 by simp only [Llamada.armas] at hlim; omega) (Or.inl rfl)
        refine ⟨s', xs', ?_, h', hn.le⟩
        rw [TimerMem.llamar, heq, hrem]
        exact hstep
  | timeout now ass =>
      obtain ⟨s₁, e', xs₁, ys₁, hcut, h₁, hn₁⟩ := h.cortar (show s.armados ≤ lim by omega) now
      have hys : ys₁.length ≤ lim := by have := h₁.largo; omega
      simp only [Llamada.armas] at hlim
      obtain ⟨s', xs', hrun, h', hn'⟩ := h₁.correr hys (by omega) (hp _ hcut)
      refine ⟨s', xs', ?_, h', by simp only [Llamada.armas]; omega⟩
      rw [TimerMem.llamar, timerTimeout, hcut]
      exact hrun

/-! ## Runs -/

/-- The queue is a list that ends, without a cell twice, in the order of the deadlines and, among equal
ones, of the arming, and its cells are the timers in use. -/
def EnCola (s : TimerMem κ) : Prop :=
  ∃ xs, s.cola.Has xs ∧ xs.Nodup ∧ xs.Pairwise s.Antes ∧ ∀ t, s.used t = true ↔ t ∈ xs

omit [DecidableEq κ] in
lemma EnCurso.enCola (h : s.EnCurso xs none []) : s.EnCola :=
  ⟨xs, h.cola, Seg.nodup h.cola, h.orden, fun t => by simp [h.usados]⟩

/-- `timer_queue_init`, with timers that are not in use. -/
structure Inicial (s : TimerMem κ) : Prop where
  vacia : s.cola.head = none
  sin_uso : ∀ t, s.used t = false
  sin_armar : s.armados = 0

omit [DecidableEq κ] in
lemma Inicial.enCurso (h : s.Inicial) : s.EnCurso [] none [] where
  cola := h.vacia
  orden := List.Pairwise.nil
  expirados := rfl
  aparte := by simp
  usados := by simp [h.sin_uso]
  numeros := by simp
  largo := by simp

/-- A run of calls from a queue in order. -/
lemma EnCurso.llamadas {cs : List (Llamada κ)} (h : s.EnCurso xs none [])
    (hlim : s.armados + (cs.map Llamada.armas).sum ≤ lim)
    (hp : ∀ a ∈ attempts (TimerMem.llamar lim) s cs, a.1.Permitida lim a.2) :
    (∃ s', run (TimerMem.llamar lim) s cs = some s')
      ∧ ∀ u ∈ states (TimerMem.llamar lim) s cs, u.EnCola := by
  induction cs generalizing s xs with
  | nil => exact ⟨⟨s, rfl⟩, by simpa using h.enCola⟩
  | cons c cs ih =>
      rw [List.map_cons, List.sum_cons] at hlim
      have hfirst : s.Permitida lim c := hp (s, c) (by cases hc : s.llamar lim c <;> simp [attempts, hc])
      obtain ⟨s₁, xs₁, hstep, h₁, hn₁⟩ := h.llamar (by omega) hfirst
      obtain ⟨⟨s', hrun⟩, hall⟩ := ih h₁ (by omega) fun a ha =>
        hp a (by simpa [attempts, hstep] using Or.inr ha)
      refine ⟨⟨s', by rw [run, hstep]; exact hrun⟩, ?_⟩
      rw [states_cons_some cs hstep, List.forall_mem_cons]
      exact ⟨h.enCola, hall⟩

/-- **The timer queue.**  Let the calls of a run arm timers no more than `lim` times, and let each
handler in `timer_timeout` arm again its own timer or timers that are not queued.  Then each call
returns, with no loop that takes more than `lim` rounds, and after it the queue is in order and holds
exactly the timers in use. -/
theorem cola_ordenada (hs : s.Inicial) {cs : List (Llamada κ)}
    (hlim : (cs.map Llamada.armas).sum ≤ lim)
    (hp : ∀ a ∈ attempts (llamar lim) s cs, a.1.Permitida lim a.2) :
    (∃ s', run (llamar lim) s cs = some s') ∧ ∀ u ∈ states (llamar lim) s cs, u.EnCola :=
  hs.enCurso.llamadas (by rw [hs.sin_armar]; omega) hp

/-- Timers with the numbers as their addresses, none of them armed. -/
def sinArmar : TimerMem ℕ :=
  { cola := ⟨none, fun _ => none⟩, used := fun _ => false, timeout := fun _ => ⟨0, 0⟩
    armado := fun _ => 0, armados := 0 }

/-- Two timers are armed for the same time, the first one again for a later time; both expire, and the
handler of the second one arms itself and a third. -/
def dosTimers : List (Llamada ℕ) :=
  [.addMsec ⟨0, 1000, ⟨0, 0⟩⟩, .addMsec ⟨1, 1000, ⟨0, 0⟩⟩, .addMsec ⟨0, 2000, ⟨0, 0⟩⟩,
    .timeout ⟨5, 0⟩ [[⟨1, 1000, ⟨5, 0⟩⟩, ⟨2, 500, ⟨5, 0⟩⟩]], .remove 7]

/-- A run of the kind. -/
theorem cola_ordenada_dosTimers :
    (∃ s', run (llamar 9) sinArmar dosTimers = some s')
      ∧ ∀ u ∈ states (llamar 9) sinArmar dosTimers, u.EnCola :=
  cola_ordenada ⟨rfl, fun _ => rfl, rfl⟩ (by decide) (by decide)

/-- A handler that arms a timer which has expired and waits for its own: at the end the timer is in the
queue and not in use. -/
theorem cola_sin_permiso :
    ∃ u, run (llamar 9) sinArmar [.addMsec ⟨0, 1000, ⟨0, 0⟩⟩, .addMsec ⟨1, 1000, ⟨0, 0⟩⟩,
      .timeout ⟨5, 0⟩ [[⟨1, 1000, ⟨5, 0⟩⟩]]] = some u ∧ ¬ u.EnCola := by
  refine ⟨_, rfl, ?_⟩
  rintro ⟨xs, hxs, -, -, hused⟩
  have hhead := Seg.head_eq hxs
  have hmem : 1 ∈ xs := List.mem_of_head? hhead.symm
  exact absurd ((hused 1).mpr hmem) (by decide)

/-! ## The queue as a list

`TimerQueue` is the queue as the rest of the daemon sees it: a list of timers with their deadlines. -/

/-- The memory holds the queue `q`. -/
structure Representa (s : TimerMem TimerId) (q : TimerQueue) : Prop where
  cola : s.cola.Has (q.tq.map Timer.id)
  plazos : ∀ t ∈ q.tq, s.timeout t.id = t.timeout
  usados : ∀ id, s.used id = true ↔ id ∈ q.used

lemma map_eraseP_id (id : TimerId) (ts : List Timer) :
    (ts.eraseP fun t => t.id = id).map Timer.id = (ts.map Timer.id).erase id := by
  rw [List.erase_eq_eraseP', List.eraseP_map]
  rfl

/-- Both put a timer in the same place. -/
lemma map_insertTimer {s : TimerMem TimerId} {t : Timer} {ts : List Timer}
    (ht : s.timeout t.id = t.timeout) (hts : ∀ u ∈ ts, s.timeout u.id = u.timeout) :
    (insertTimer t ts).map Timer.id = s.colocar t.id (ts.map Timer.id) := by
  induction ts with
  | nil => rfl
  | cons curr rest ih =>
      rw [List.forall_mem_cons] at hts
      have hdesp : s.despues t.id curr.id = decide (timevalDiff t.timeout curr.timeout < 0) := by
        rw [despues, ht, hts.1]
      unfold insertTimer
      split_ifs with hlt
      · simp [colocar, hdesp, hlt]
      · rw [List.map_cons, ih hts.2]
        simp [colocar, hdesp, hlt]

variable {q : TimerQueue} {s : TimerMem TimerId}

/-- **`timer_remove`** on the links is `timer_remove` on the list. -/
theorem Representa.timerRemove (h : s.Representa q) (hlim : q.tq.length ≤ lim) (id : TimerId) :
    ∃ s', s.timerRemove lim id = some s' ∧ s'.Representa (Antop.timerRemove id q) := by
  obtain ⟨c, hstep, hc, -⟩ := timerRemove_eq h.cola (by simpa using hlim) id
  refine ⟨_, hstep, ?_, fun t ht => ?_, fun u => ?_⟩
  · rw [← map_eraseP_id] at hc
    exact hc
  · exact h.plazos t (List.mem_of_mem_eraseP ht)
  · by_cases hu : u = id
    · simp [hu, Antop.timerRemove]
    · simp [hu, Antop.timerRemove, h.usados]

/-- **`timer_add_msec`** on the links is `timer_add_msec` on the list, where all queued timers are in
use. -/
theorem Representa.timerAddMsec (h : s.Representa q) (hlim : q.tq.length ≤ lim)
    (hused : ∀ t ∈ q.tq, t.id ∈ q.used) (id : TimerId) (msec : ℤ) (clock : Timeval) :
    ∃ s', s.timerAddMsec lim ⟨id, msec, clock⟩ = some s'
      ∧ s'.Representa (Antop.timerAddMsec id msec clock q) := by
  have hid : s.used id = true ∨ id ∉ q.tq.map Timer.id := by
    by_cases hmem : id ∈ q.tq.map Timer.id
    · obtain ⟨t, ht, rfl⟩ := List.mem_map.mp hmem
      exact Or.inl ((h.usados _).mpr (hused t ht))
    · exact Or.inr hmem
  obtain ⟨c, hstep, hc, -⟩ := timerAdd_eq (t := id)
    (s := { s with timeout := Function.update s.timeout id (Arma.mk id msec clock).timeout })
    h.cola (by simpa using hlim) hid
  -- the list without the timer, as `timer_add` leaves it
  have hlist : ((if id ∈ q.used then Antop.timerRemove id q else q).tq).map Timer.id
      = (q.tq.map Timer.id).erase id := by
    split_ifs with hin
    · exact map_eraseP_id id q.tq
    · rw [List.erase_of_not_mem]
      exact hid.resolve_left fun hc => hin ((h.usados id).mp hc)
  have hother : ∀ u ∈ (if id ∈ q.used then Antop.timerRemove id q else q).tq, u.id ≠ id ∧ u ∈ q.tq := by
    intro u hu
    constructor
    · intro heq
      have hmem := List.mem_map_of_mem (f := Timer.id) hu
      rw [hlist, heq] at hmem
      exact (Seg.nodup h.cola).not_mem_erase hmem
    · split_ifs at hu
      · exact List.mem_of_mem_eraseP hu
      · exact hu
  have hplazo : ∀ u ∈ (if id ∈ q.used then Antop.timerRemove id q else q).tq,
      Function.update s.timeout id (Arma.mk id msec clock).timeout u.id = u.timeout := by
    intro u hu
    rw [Function.update_of_ne (hother u hu).1]
    exact h.plazos u (hother u hu).2
  refine ⟨_, hstep, ?_, fun t ht => ?_, fun u => ?_⟩
  · rw [← hlist, ← map_insertTimer (t := ⟨id, (Arma.mk id msec clock).timeout⟩)
      (Function.update_self ..) hplazo] at hc
    exact hc
  · rcases mem_insertTimer.mp ht with rfl | ht
    · exact Function.update_self ..
    · exact hplazo t ht
  · by_cases hu : u = id
    · simp [hu, Antop.timerAddMsec, Antop.timerAdd]
    · have hkeep : u ∈ (if id ∈ q.used then Antop.timerRemove id q else q).used ↔ u ∈ q.used := by
        split_ifs
        · simp [Antop.timerRemove, hu]
        · rfl
      simp [hu, h.usados, Antop.timerAddMsec, Antop.timerAdd, hkeep]

end TimerMem

end Antop
