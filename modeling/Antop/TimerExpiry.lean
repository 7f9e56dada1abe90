import Antop.TimerLinks

/-!
# Which handlers run

`timer_timeout` cuts the expired timers off the queue and then runs their handlers, which arm timers in
the queue that is left.

* `correrTraza`, `timerTimeoutTraza` — `timer_timeout` with the timers whose handlers it has run, in the
  order in which it has run them; `map_timerTimeoutTraza` — apart from these it is `timerTimeout`.
* `Vencido` — the state after it; `exists_vencido` — it is reached when no handler arms a timer that
  still waits for its own.
* **`vencimiento_exacto`** — each expired timer has its handler run once, in the order of the queue, and
  no other timer; the queue then holds the others and those armed.
-/

namespace Antop

open ListSegment

namespace TimerMem

variable {κ : Type*} [DecidableEq κ] {lim : ℕ} {s : TimerMem κ} {t : κ} {xs ys : List κ} {e : Option κ}

/-! ## The handlers that run -/

/-- The second loop of `timer_timeout`, with the timers whose handlers have run. -/
def correrTraza (lim : ℕ) : ℕ → Option κ → List (List (Arma κ)) → TimerMem κ → Option (List κ × TimerMem κ)
  | _, none, _, s => some ([], s)
  | 0, some _, _, _ => none
  | fuel + 1, some tmp, ass, s =>
      let expiredTQ := s.cola.next tmp
      (atender lim (ass.headD []) { s with used := Function.update s.used tmp false }).bind fun s =>
        (correrTraza lim fuel expiredTQ ass.tail s).map fun r => (tmp :: r.1, r.2)

/-- `timer_timeout`, with them. -/
def timerTimeoutTraza (lim : ℕ) (now : Timeval) (ass : List (List (Arma κ))) (s : TimerMem κ) :
    Option (List κ × TimerMem κ) := do
  let (expiredTQ, s) ← s.cortar lim now
  correrTraza lim lim expiredTQ ass s

lemma map_correrTraza (fuel : ℕ) (e : Option κ) (ass : List (List (Arma κ))) (s : TimerMem κ) :
    (s.correrTraza lim fuel e ass).map Prod.snd = s.correr lim fuel e ass := by
  induction fuel generalizing e ass s with
  | zero => cases e <;> rfl
  | succ fuel ih =>
      cases e with
      | none => rfl
      | some tmp =>
          rw [correrTraza, TimerMem.correr, Option.map_bind]
          congr 1
          funext s'
          rw [← ih, Function.comp_apply, Option.map_map]
          rfl

lemma map_timerTimeoutTraza (now : Timeval) (ass : List (List (Arma κ))) (s : TimerMem κ) :
    (s.timerTimeoutTraza lim now ass).map Prod.snd = s.timerTimeout lim now ass := by
  rw [timerTimeoutTraza, timerTimeout, Option.bind_eq_bind, Option.map_bind]
  congr 1
  funext r
  exact map_correrTraza ..

/-! ## What they do to the queue -/

/-- The deadlines after timers have been armed. -/
def plazos (as : List (Arma κ)) (timeout : κ → Timeval) : κ → Timeval :=
  as.foldl (fun timeout a => Function.update timeout a.timer a.timeout) timeout

/-- The queue is the list `xs`, in the order of the deadlines, while the timers `ys` wait; it has come
from the list `zs` by arming `as`, with the deadlines `timeout` before. -/
structure Armado (s : TimerMem κ) (xs : List κ) (e : Option κ) (ys zs : List κ) (as : List (Arma κ))
    (timeout : κ → Timeval) : Prop where
  lista : s.EnLista xs e ys
  orden : xs.Pairwise s.Precede
  largo : xs.length ≤ zs.length + as.length
  son : ∀ u, u ∈ xs ↔ u ∈ zs ∨ ∃ a ∈ as, a.timer = u
  plazos : s.timeout = plazos as timeout

variable {zs : List κ} {as : List (Arma κ)} {timeout : κ → Timeval}

lemma plazos_concat (a : Arma κ) :
    TimerMem.plazos (as ++ [a]) timeout = Function.update (TimerMem.plazos as timeout) a.timer a.timeout := by
  rw [TimerMem.plazos, List.foldl_append]
  rfl

omit [DecidableEq κ] in
/-- Where `timer_add` puts a timer the deadlines stay in order. -/
lemma pairwise_precede_colocar (h : xs.Pairwise s.Precede) : (s.colocar t xs).Pairwise s.Precede := by
  refine pairwise_colocar_of h h (fun x _ hd => ?_) fun x _ hd => ?_
  · have hnot : ¬ timevalDiff (s.timeout t) (s.timeout x) < 0 := of_decide_eq_false hd
    unfold timevalDiff at hnot
    unfold Precede timevalDiff
    omega
  · have hlt : timevalDiff (s.timeout t) (s.timeout x) < 0 := of_decide_eq_true hd
    exact hlt.le

/-- **One timer armed**, not one of those that wait. -/
lemma Armado.timerAddMsec (h : s.Armado xs e ys zs as timeout) (hlim : zs.length + as.length ≤ lim)
    (a : Arma κ) (ha : a.timer ∉ ys) :
    ∃ s' xs', s.timerAddMsec lim a = some s' ∧ s'.Armado xs' e ys zs (as ++ [a]) timeout := by
  have hnodup := Seg.nodup h.lista.cola
  obtain ⟨c, hadd, hl⟩ := h.lista.timerAddMsec (h.largo.trans hlim) a ha
  have horden : (xs.erase a.timer).Pairwise
      (Precede { s with timeout := Function.update s.timeout a.timer a.timeout }) := by
    refine (h.orden.sublist List.erase_sublist).imp_of_mem ?_
    intro x y hx hy hxy
    have hxne : x ≠ a.timer := (hnodup.mem_erase_iff.mp hx).1
    have hyne : y ≠ a.timer := (hnodup.mem_erase_iff.mp hy).1
    simpa [Precede, Function.update_of_ne hxne, Function.update_of_ne hyne] using hxy
  refine ⟨_, _, hadd, hl, pairwise_precede_colocar horden, ?_, ?_, ?_⟩
  · have hle := List.length_erase_le (a := a.timer) (l := xs)
    have := h.largo
    rw [length_colocar, List.length_append, List.length_singleton]
    omega
  · intro u
    have hson : u ∈ colocar { s with timeout := Function.update s.timeout a.timer a.timeout } a.timer
        (xs.erase a.timer) ↔ u = a.timer ∨ u ∈ xs := by
      rw [mem_colocar]
      by_cases hu : u = a.timer
      · simp [hu]
      · simp [hu, List.mem_erase_of_ne]
    rw [hson, h.son]
    simp only [List.mem_append, List.mem_singleton, or_and_right, exists_or, exists_eq_left]
    rw [or_comm, or_assoc, eq_comm]
  · rw [plazos_concat, ← h.plazos]

/-- **One handler**, which arms none of the timers that wait. -/
lemma Armado.atender (h : s.Armado xs e ys zs as timeout) {bs : List (Arma κ)}
    (hlim : zs.length + (as ++ bs).length ≤ lim + 1) (ha : ∀ a ∈ bs, a.timer ∉ ys) :
    ∃ s' xs', s.atender lim bs = some s' ∧ s'.Armado xs' e ys zs (as ++ bs) timeout := by
  induction bs generalizing s xs as with
  | nil => exact ⟨s, xs, rfl, by rwa [List.append_nil]⟩
  | cons a bs ih =>
      rw [List.forall_mem_cons] at ha
      simp only [List.length_append, List.length_cons] at hlim
      obtain ⟨s₁, xs₁, hstep, h₁⟩ := h.timerAddMsec (show zs.length + as.length ≤ lim by omega) a ha.1
      obtain ⟨s', xs', hrun, h'⟩ := ih h₁ (by simp; omega) ha.2
      refine ⟨s', xs', ?_, by simpa using h'⟩
      rw [TimerMem.atender, List.foldlM_cons, hstep]
      exact hrun

/-- The handlers of the timers `ys`, in this order, arm none of those that still wait. -/
def NoEsperan : List κ → List (List (Arma κ)) → Prop
  | [], _ => True
  | _ :: ys, ass => (∀ a ∈ ass.headD [], a.timer ∉ ys) ∧ NoEsperan ys ass.tail

instance decidableNoEsperan : ∀ (ys : List κ) (ass : List (List (Arma κ))), Decidable (NoEsperan ys ass)
  | [], _ => isTrue trivial
  | _ :: ys, ass =>
      haveI := decidableNoEsperan ys ass.tail
      inferInstanceAs (Decidable ((∀ a ∈ ass.headD [], a.timer ∉ ys) ∧ NoEsperan ys ass.tail))

/-- **All of them**: the handlers that run are those of the timers that wait, each once. -/
lemma Armado.correrTraza {ass : List (List (Arma κ))} {fuel : ℕ} (h : s.Armado xs e ys zs as timeout)
    (hfuel : ys.length ≤ fuel) (hlim : zs.length + (as.length + (ass.map List.length).sum) ≤ lim + 1)
    (hp : NoEsperan ys ass) :
    ∃ s' xs', s.correrTraza lim fuel e ass = some (ys, s')
      ∧ s'.Armado xs' none [] zs (as ++ (ass.take ys.length).flatten) timeout := by
  induction ys generalizing s xs e as ass fuel with
  | nil =>
      obtain rfl : e = none := h.lista.expirados
      exact ⟨s, xs, by rw [TimerMem.correrTraza], by simpa using h⟩
  | cons tmp ys ih =>
      cases fuel with
      | zero => simp at hfuel
      | succ fuel =>
          obtain ⟨rfl, -⟩ := h.lista.expirados
          obtain ⟨hperm, hrest⟩ := hp
          have hsum : (ass.map List.length).sum
              = (ass.headD []).length + (ass.tail.map List.length).sum := by
            cases ass <;> simp
          have h₁ : Armado { s with used := Function.update s.used tmp false } xs (s.cola.next tmp) ys zs as
              timeout := ⟨h.lista.soltar, h.orden, h.largo, h.son, h.plazos⟩
          have hlim₁ : zs.length + (as ++ ass.headD []).length ≤ lim + 1 := by
            simp only [List.length_append]
            omega
          obtain ⟨s₂, xs₂, hstep, h₂⟩ := h₁.atender hlim₁ hperm
          obtain ⟨s', xs', hrun, h'⟩ := ih h₂ (by simpa using hfuel)
            (by simp only [List.length_append]; omega) hrest
          refine ⟨s', xs', ?_, ?_⟩
          · rw [TimerMem.correrTraza, hstep, Option.bind_some, hrun]
            rfl
          · have harmas : as ++ ass.headD [] ++ (ass.tail.take ys.length).flatten
                = as ++ (ass.take (tmp :: ys).length).flatten := by
              cases ass <;> simp
            rwa [harmas] at h'

/-- What the handler of `t` may arm are none of the timers that wait. -/
lemma Armado.notMem_of_permitido (h : s.Armado xs e ys zs as timeout) {bs : List (Arma κ)}
    (hlim : zs.length + (as ++ bs).length ≤ lim + 1) (ht : t ∉ ys) (hp : Permitido lim t bs s) :
    ∀ a ∈ bs, a.timer ∉ ys := by
  induction bs generalizing s xs as with
  | nil => simp
  | cons a bs ih =>
      obtain ⟨hdue, hrest⟩ := hp
      have ha : a.timer ∉ ys := h.lista.notMem_of_permitido ht hdue
      simp only [List.length_append, List.length_cons] at hlim
      obtain ⟨s₁, xs₁, hstep, h₁⟩ := h.timerAddMsec (show zs.length + as.length ≤ lim by omega) a ha
      exact List.forall_mem_cons.mpr ⟨ha, ih h₁ (by simp; omega) (hrest s₁ hstep)⟩

/-- Handlers that arm their own timers again, or timers that are not queued, arm none that waits. -/
lemma Armado.noEsperan {ass : List (List (Arma κ))} {fuel : ℕ} (h : s.Armado xs e ys zs as timeout)
    (hfuel : ys.length ≤ fuel) (hlim : zs.length + (as.length + (ass.map List.length).sum) ≤ lim + 1)
    (hp : PermiteCorrer lim fuel e ass s) : NoEsperan ys ass := by
  induction ys generalizing s xs e as ass fuel with
  | nil => trivial
  | cons tmp ys ih =>
      cases fuel with
      | zero => simp at hfuel
      | succ fuel =>
          obtain ⟨rfl, -⟩ := h.lista.expirados
          obtain ⟨htmp, -⟩ := List.nodup_cons.mp (Seg.nodup h.lista.expirados)
          obtain ⟨hperm, hrest⟩ := hp
          have hsum : (ass.map List.length).sum
              = (ass.headD []).length + (ass.tail.map List.length).sum := by
            cases ass <;> simp
          have h₁ : Armado { s with used := Function.update s.used tmp false } xs (s.cola.next tmp) ys zs as
              timeout := ⟨h.lista.soltar, h.orden, h.largo, h.son, h.plazos⟩
          have hlim₁ : zs.length + (as ++ ass.headD []).length ≤ lim + 1 := by
            simp only [List.length_append]
            omega
          have ha := h₁.notMem_of_permitido hlim₁ htmp hperm
          obtain ⟨s₂, xs₂, hstep, h₂⟩ := h₁.atender hlim₁ ha
          exact ⟨ha, ih h₂ (by simpa using hfuel) (by simp only [List.length_append]; omega)
            (hrest s₂ hstep)⟩

/-! ## The call -/

/-- A timer has expired. -/
def Expirado (s : TimerMem κ) (now : Timeval) (t : κ) : Prop := timevalDiff (s.timeout t) now ≤ 0

instance (s : TimerMem κ) (now : Timeval) : DecidablePred (s.Expirado now) :=
  fun t => inferInstanceAs (Decidable (timevalDiff (s.timeout t) now ≤ 0))

/-- After a call that has run the handlers of `ts`, from the queue `xs`: the queue is `ys`, in the order
of its deadlines, with the timers that had not expired and those that the handlers have armed. -/
structure Vencido (s s' : TimerMem κ) (now : Timeval) (xs ys ts : List κ) (as : List (Arma κ)) : Prop where
  ejecutados : ts = xs.filter fun t => s.Expirado now t
  una_vez : ts.Nodup
  cola : s'.cola.Has ys
  sin_repetir : ys.Nodup
  orden : ys.Pairwise s'.Precede
  son : ∀ t, t ∈ ys ↔ (t ∈ xs ∧ ¬ s.Expirado now t) ∨ ∃ a ∈ as, a.timer = t
  plazos : s'.timeout = plazos as s.timeout
  usados : ∀ t, s'.used t = true ↔ t ∈ ys

omit [DecidableEq κ] in
/-- In a queue in order the timers that have expired are those in front. -/
lemma takeWhile_expirado (h : xs.Pairwise s.Precede) (now : Timeval) :
    (xs.takeWhile fun x => !decide (0 < timevalDiff (s.timeout x) now)) = (xs.filter fun t => s.Expirado now t)
      ∧ (xs.dropWhile fun x => !decide (0 < timevalDiff (s.timeout x) now))
        = xs.filter fun t => ¬ s.Expirado now t := by
  have hstop : xs.Pairwise fun x y => decide (0 < timevalDiff (s.timeout x) now) = true →
      decide (0 < timevalDiff (s.timeout y) now) = true := by
    refine h.imp fun {x y} hxy hx => ?_
    rw [decide_eq_true_eq] at hx ⊢
    unfold Precede at hxy
    unfold timevalDiff at hxy hx ⊢
    omega
  rw [takeWhile_eq_filter hstop, dropWhile_eq_filter hstop]
  constructor
  · refine List.filter_congr fun t _ => ?_
    rw [← decide_not]
    exact decide_eq_decide.mpr not_lt
  · exact List.filter_congr fun t _ => decide_eq_decide.mpr not_le.symm

/-- The queue when the first handler runs. -/
lemma exists_cortar (hcola : s.cola.Has xs) (horden : xs.Pairwise s.Precede)
    (hused : ∀ t, s.used t = true ↔ t ∈ xs) (now : Timeval) (hlim : xs.length ≤ lim) :
    ∃ c, s.cortar lim now = some ((xs.filter fun t => s.Expirado now t).head?, { s with cola := c })
      ∧ Armado { s with cola := c } (xs.filter fun t => ¬ s.Expirado now t)
        (xs.filter fun t => s.Expirado now t).head? (xs.filter fun t => s.Expirado now t)
        (xs.filter fun t => ¬ s.Expirado now t) [] s.timeout := by
  obtain ⟨hexp, hpend⟩ := takeWhile_expirado horden now
  obtain ⟨c, hcut, hrest, hseg⟩ := cortar_eq hcola hlim now
  rw [hexp] at hcut hseg
  rw [hpend] at hrest
  refine ⟨c, hcut, ⟨⟨hrest, hseg, ?_, ?_⟩, horden.sublist List.filter_sublist, Nat.le_add_right ..,
    by simp, rfl⟩⟩
  · intro t ht
    have hdue := (List.mem_filter.mp ht).2
    simp only [List.mem_filter, not_and]
    intro _
    simpa using hdue
  · intro t
    rw [hused]
    by_cases hdue : s.Expirado now t
    · simp [hdue]
    · simp [hdue]

/-- **The whole call**, when no handler arms a timer that waits for its own. -/
lemma exists_vencido (hcola : s.cola.Has xs) (horden : xs.Pairwise s.Precede)
    (hused : ∀ t, s.used t = true ↔ t ∈ xs) (now : Timeval) (ass : List (List (Arma κ)))
    (hlim : xs.length + (ass.map List.length).sum ≤ lim)
    (hp : NoEsperan (xs.filter fun t => s.Expirado now t) ass) :
    ∃ ts s' ys, s.timerTimeoutTraza lim now ass = some (ts, s') ∧ s.timerTimeout lim now ass = some s'
      ∧ s.Vencido s' now xs ys ts (ass.take ts.length).flatten := by
  obtain ⟨c, hcut, h₀⟩ := exists_cortar hcola horden hused now (show xs.length ≤ lim by omega)
  have hlen : (xs.filter fun t => s.Expirado now t).length ≤ xs.length := List.length_filter_le ..
  have hlen' : (xs.filter fun t => ¬ s.Expirado now t).length ≤ xs.length := List.length_filter_le ..
  obtain ⟨s', ys, hrun, h'⟩ := h₀.correrTraza (show _ ≤ lim by omega)
    (show _ ≤ lim + 1 by simp only [List.length_nil]; omega) hp
  have htraza : s.timerTimeoutTraza lim now ass = some (xs.filter fun t => s.Expirado now t, s') := by
    rw [timerTimeoutTraza, hcut]
    exact hrun
  refine ⟨_, s', ys, htraza, ?_, ⟨rfl, (Seg.nodup hcola).filter _, h'.lista.cola, Seg.nodup h'.lista.cola,
    h'.orden, ?_, h'.plazos, ?_⟩⟩
  · rw [← map_timerTimeoutTraza, htraza]
    rfl
  · intro t
    rw [h'.son, List.mem_filter, List.nil_append, decide_eq_true_eq]
  · intro t
    simp [h'.lista.usados]

/-- **Expiry is exact.**  Let the queue be the list `xs`, in the order of the deadlines, with the timers
of the list in use and no others, and let each handler arm again its own timer, after any delay, or arm
timers that are not queued.  Then `timer_timeout` runs the handlers of the timers that have expired, in
the order of the queue, each once, and no other; what is queued afterwards are the timers that have not
expired and those that the handlers have armed, in order. -/
theorem vencimiento_exacto (hcola : s.cola.Has xs) (horden : xs.Pairwise s.Precede)
    (hused : ∀ t, s.used t = true ↔ t ∈ xs) (now : Timeval) (ass : List (List (Arma κ)))
    (hlim : xs.length + (ass.map List.length).sum ≤ lim) (hp : s.Permitida lim (.timeout now ass)) :
    ∃ ts s' ys, s.timerTimeoutTraza lim now ass = some (ts, s') ∧ s.timerTimeout lim now ass = some s'
      ∧ s.Vencido s' now xs ys ts (ass.take ts.length).flatten := by
  obtain ⟨c, hcut, h₀⟩ := exists_cortar hcola horden hused now (show xs.length ≤ lim by omega)
  have hlen : (xs.filter fun t => s.Expirado now t).length ≤ xs.length := List.length_filter_le ..
  have hlen' : (xs.filter fun t => ¬ s.Expirado now t).length ≤ xs.length := List.length_filter_le ..
  refine exists_vencido hcola horden hused now ass hlim (h₀.noEsperan (show _ ≤ lim by omega) ?_ (hp _ hcut))
  simp only [List.length_nil]
  omega

/-- The timers `0`, `1` and `3` are queued, the first two for the same time. -/
def tresTimers : TimerMem ℕ :=
  { cola := ⟨some 0, fun t => if t = 0 then some 1 else if t = 1 then some 3 else none⟩
    used := fun t => decide (t ∈ [0, 1, 3])
    timeout := fun t => if t = 3 then ⟨9, 0⟩ else ⟨1, 0⟩, armado := id, armados := 4 }

/-- `0` and `1` expire; the handler of `0` arms it again, and that of `1` arms `2`. -/
theorem vencimiento_exacto_tresTimers :
    ∃ ts s' ys, tresTimers.timerTimeoutTraza 9 ⟨5, 0⟩ [[⟨0, 7000, ⟨5, 0⟩⟩], [⟨2, 500, ⟨5, 0⟩⟩]] = some (ts, s')
      ∧ tresTimers.timerTimeout 9 ⟨5, 0⟩ [[⟨0, 7000, ⟨5, 0⟩⟩], [⟨2, 500, ⟨5, 0⟩⟩]] = some s'
      ∧ tresTimers.Vencido s' ⟨5, 0⟩ [0, 1, 3] ys ts
        (([[⟨0, 7000, ⟨5, 0⟩⟩], [⟨2, 500, ⟨5, 0⟩⟩]] : List (List (Arma ℕ))).take ts.length).flatten :=
  have hcola : tresTimers.cola.Has [0, 1, 3] := ⟨rfl, rfl, rfl, rfl⟩
  vencimiento_exacto hcola (by unfold Precede; decide) (fun _ => by rw [tresTimers, decide_eq_true_eq]) _ _
    (by decide) (by decide)

end TimerMem

end Antop
