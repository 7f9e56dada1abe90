import Antop.Dispatch

/-!
# The registration stays alive

`rv_t` is the only way a node renews its registration.  Its handler does not arm it again during a
merge or a fragmentation, so whoever ends one has to.

* `Node.RegistrationAlive` — `rv_t` is queued, or a merge or a fragmentation is going on.
* `alive_registerRv` — every path that ends in `register_rv` leaves the registration alive.
* `Node.keepsRegistration` — the two paths that end a merge at its initiator without it.
* `registration_alive_iff` — a run keeps the registration alive exactly when neither path is taken
  with `rv_t` gone from the queue.
-/

namespace Antop

open Transition

namespace Node

/-- `rv_t` is queued unless `flag_mezcla` or `flag_fragmentacion` is set. -/
def RegistrationAlive (n : Node) : Prop :=
  n.timers.Queued .rvT ∨ n.flagMezcla ∨ n.flagFragmentacion

instance (n : Node) : Decidable n.RegistrationAlive := by
  unfold RegistrationAlive TimerQueue.Queued
  infer_instance

/-- What carries a run: in the middle of a batch `rv_t` may be among the timers still to be run. -/
def RegistrationKept (n : Node) : Prop :=
  n.RegistrationAlive ∨ ∃ t ∈ n.timers.expiredTQ, t.id = .rvT

lemma RegistrationKept.alive {n : Node} (h : n.RegistrationKept) (hidle : n.timers.expiredTQ = []) :
    n.RegistrationAlive := by
  rcases h with h | ⟨t, ht, -⟩
  · exact h
  · simp [hidle] at ht

/-! ## What keeps the registration -/

/-- A change that keeps the timers and the flags keeps the registration. -/
lemma RegistrationKept.of_keeps {n n' : Node} (h : n.RegistrationKept)
    (ht : KeepsTimers n.timers n'.timers) (hm : n'.flagMezcla = n.flagMezcla)
    (hf : n'.flagFragmentacion = n.flagFragmentacion) : n'.RegistrationKept := by
  rcases h with (h | h | h) | h
  · exact Or.inl (Or.inl (ht.queued _ h))
  · exact Or.inl (Or.inr (Or.inl (hm ▸ h)))
  · exact Or.inl (Or.inr (Or.inr (hf ▸ h)))
  · exact Or.inr (ht.expiredTQ ▸ h)

/-- Away from a merge and a fragmentation the timers alone decide. -/
lemma RegistrationKept.of_timers {n n' : Node} (h : n.RegistrationKept) (hm : n.flagMezcla = false)
    (hf : n.flagFragmentacion = false) (ht : n'.timers = n.timers) : n'.RegistrationKept := by
  rcases h with (h | h | h) | h
  · exact Or.inl (Or.inl (ht ▸ h))
  · simp [hm] at h
  · simp [hf] at h
  · exact Or.inr (ht ▸ h)

/-- **Every call of `register_rv` leaves the registration alive.** -/
lemma alive_registerRv (env : Env) (n : Node) : (registerRv env n).RegistrationAlive := by
  rw [registerRv_eq]
  by_cases hm : n.flagMezcla
  · exact Or.inr (Or.inl hm)
  by_cases hf : n.flagFragmentacion
  · exact Or.inr (Or.inr hf)
  refine Or.inl ?_
  simp only [registeredTimers, hm, hf, Bool.or_self, Bool.false_eq_true, if_false]
  exact queued_timerAddMsec_self _ _ _ _

lemma alive_finMezcla (env : Env) (n : Node) : (n.finMezcla env).RegistrationAlive :=
  alive_registerRv env _

lemma alive_finFragmentacion (env : Env) (n : Node) :
    (n.finFragmentacion env).RegistrationAlive := alive_registerRv env _

lemma alive_cerrarPrimaria {env : Env} {n : Node} (h : n.flagMezcla) :
    (n.cerrarPrimaria env).RegistrationAlive := by
  unfold cerrarPrimaria
  split_ifs
  · exact alive_finMezcla env n
  · exact Or.inr (Or.inl h)

/-! ## The handlers -/

lemma alive_processMar1 {env : Env} {p : CtrlPkt} {n n' : Node} (h : n.processMar1 env p = some n') :
    n'.RegistrationAlive := by
  unfold processMar1 at h
  dsimp only at h
  split_ifs at h
  · obtain rfl := Option.some.inj h
    unfold processMar1Secundaria
    dsimp only
    split_ifs
    · exact alive_finMezcla env _
    · exact Or.inr (Or.inl rfl)
  · obtain ⟨t, rv, o, ⟨-, rfl⟩ | ⟨-, -, rfl⟩⟩ := processMar1Primaria_eq h
    · exact Or.inr (Or.inl rfl)
    · exact alive_cerrarPrimaria rfl

lemma alive_processMar2 (env : Env) (p : CtrlPkt) (n : Node) :
    (n.processMar2 env p).RegistrationAlive := by
  unfold processMar2
  dsimp only
  split_ifs
  · unfold processMar2Secundaria
    dsimp only
    split_ifs
    · exact alive_finMezcla env _
    · exact Or.inr (Or.inl rfl)
  · obtain ⟨t, rv, o, ⟨-, h⟩ | ⟨-, -, h⟩⟩ := processMar2Primaria_eq env p { n with flagMezcla := true }
    · rw [h]
      exact Or.inr (Or.inl rfl)
    · rw [h]
      exact alive_cerrarPrimaria rfl

lemma alive_processFar {env : Env} {p : CtrlPkt} {n n' : Node} (h : n.processFar env p = some n') :
    n'.RegistrationAlive := by
  unfold processFar at h
  dsimp only at h
  split_ifs at h
  · obtain rfl := Option.some.inj h
    obtain ⟨o, h⟩ := processFarSecundaria_eq env p { n with flagFragmentacion := true }
    rw [h]
    dsimp only
    split_ifs
    · exact alive_finFragmentacion env _
    · exact Or.inr (Or.inr rfl)
  · obtain ⟨t, rv, o, fin, rfl⟩ := processFarPrimaria_eq h
    cases fin
    · exact Or.inr (Or.inr rfl)
    · exact alive_finFragmentacion env _

lemma kept_processFan {env : Env} {n : Node} (h : n.RegistrationKept) :
    (n.processFan env).RegistrationKept := by
  unfold processFan
  split_ifs
  · exact Or.inl (alive_finFragmentacion env n)
  · exact h

lemma kept_processMan2 {env : Env} {p : CtrlPkt} {n : Node} (h : n.RegistrationKept) :
    (n.processMan2 env p).RegistrationKept := by
  unfold processMan2
  split_ifs with hm
  · dsimp only
    split_ifs
    · exact Or.inl (alive_finMezcla env _)
    · exact Or.inl (Or.inr (Or.inl hm))
  · exact h

/-- `MAN1` at a node that is not an initiator. -/
lemma kept_processMan1 {env : Env} {p : CtrlPkt} {n : Node} (h : n.RegistrationKept)
    (hini : ¬ (n.flagMezcla ∧ n.primAddr = dirDefault)) : (n.processMan1 env p).RegistrationKept := by
  unfold processMan1
  rw [if_neg hini]
  split_ifs with hm
  · dsimp only
    split_ifs
    · exact Or.inl (alive_finMezcla env _)
    · exact Or.inl (Or.inr (Or.inl hm))
  · exact h

lemma kept_detector {env : Env} {n : Node} (h : n.RegistrationKept) :
    (n.detectorDeFragmentacion env).RegistrationKept := by
  rcases detectorDeFragmentacion_cases env n with heq | heq | ⟨-, heq⟩
  · rwa [heq]
  · rw [heq]
    exact h.of_keeps (.refl _) rfl rfl
  · rw [heq, fragmentacion_eq]
    exact Or.inl (Or.inr (Or.inr rfl))

lemma kept_processHb {env : Env} {p : CtrlPkt} {n n' : Node} (h : n.RegistrationKept)
    (hstep : n.processHb env p = some n') : n'.RegistrationKept := by
  rcases processHb_cases hstep with rfl | ⟨-, rfl⟩ | rfl | ⟨-, secFlag, m, hm, rfl⟩
  · exact h
  · exact Or.inl (Or.inr (Or.inl rfl))
  · obtain ⟨ts, o, f, l, heq, hts⟩ := chkSecAddr1_eq env p.primAddr n
    rw [heq]
    exact h.of_keeps hts rfl rfl
  · rw [oirVecino_eq hm]
    exact kept_detector (h.of_keeps (.refl _) rfl rfl)

lemma kept_sendHb {env : Env} {timer : Bool} {n : Node} (h : n.RegistrationKept) :
    (n.sendHb env timer).RegistrationKept := by
  have hchecks : (n.sendHbChecks env).RegistrationKept := by
    by_cases hidle : !n.flagFragmentacion ∧ !n.flagMezcla
    · exact h.of_timers (by simpa using hidle.2) (by simpa using hidle.1) (sendHbChecks_timers env n)
    · rwa [sendHbChecks, if_neg hidle]
  obtain ⟨ts, o, heq, hts⟩ := sendHb_eq env timer n
  rw [heq]
  exact hchecks.of_keeps hts rfl rfl

lemma kept_checkNeighbors {env : Env} {n n' : Node} (h : n.RegistrationKept)
    (hstep : n.checkNeighbors env = some n') : n'.RegistrationKept := by
  obtain ⟨m, hm, rfl⟩ := Option.map_eq_some_iff.mp hstep
  obtain ⟨t, rc, rv, rfl⟩ := checkNeighborsLoop_eq hm
  exact h.of_keeps (keepsTimers_timerAddMsec _ _ _ _) rfl rfl

lemma kept_processSan1 {p : CtrlPkt} {n n' : Node} (h : n.RegistrationKept)
    (hstep : n.processSan1 p = some n') : n'.RegistrationKept := by
  obtain ⟨m, hm, rfl⟩ := Option.map_eq_some_iff.mp hstep
  obtain ⟨t, -, rfl⟩ := addNeighbor_eq_some.mp hm
  exact h.of_keeps (.refl _) rfl rfl

lemma kept_sendPanc {env : Env} {dst primary chosen : In6Addr} {n : Node} (h : n.RegistrationKept) :
    (n.sendPanc env dst primary chosen).RegistrationKept := by
  unfold sendPanc
  dsimp only
  split_ifs
  · exact h.of_keeps (.refl _) rfl rfl
  · exact h.of_keeps (.refl _) rfl rfl

/-! ## The two paths that lose it -/

/-- The packets on which an initiator ends its merge without `register_rv`: a `MAN1`, and a `MAR1`
of its own network that is not processed any further. -/
def terminaSinRegistrar (n : Node) (p : CtrlPkt) : Prop :=
  p.adAddr.redNumero = n.redNumero ∧ n.primAddr = dirDefault
    ∧ (p.pktTypeF = .man1 ∧ n.flagMezcla
      ∨ p.pktTypeF = .mar1 ∧ ¬ (n.secAddrFlag ∧ p.adAddr.addr = n.primAddrAux))

instance (n : Node) (p : CtrlPkt) : Decidable (n.terminaSinRegistrar p) := by
  unfold terminaSinRegistrar
  infer_instance

/-- A step that ends a merge at its initiator finds `rv_t` still queued, or a fragmentation going
on. -/
def keepsRegistration (n : Node) : Event → Prop
  | .recv _ (.ctrl p) =>
      n.timers.expiredTQ = [] → n.terminaSinRegistrar p →
        n.timers.Queued .rvT ∨ n.flagFragmentacion
  | _ => True

/-- An initiator that takes its address back sets `flag_mezcla` to 0 and touches no timer. -/
lemma alive_volverDelDefault {n : Node} :
    n.volverDelDefault.RegistrationAlive ↔ n.timers.Queued .rvT ∨ n.flagFragmentacion := by
  rw [RegistrationAlive]
  have hm : ¬ n.volverDelDefault.flagMezcla := by simp [volverDelDefault]
  rw [or_iff_right hm]
  rfl

lemma alive_processMan1_initiator {env : Env} {p : CtrlPkt} {n : Node}
    (hini : n.flagMezcla ∧ n.primAddr = dirDefault) :
    (n.processMan1 env p).RegistrationAlive ↔ n.timers.Queued .rvT ∨ n.flagFragmentacion := by
  rw [← alive_volverDelDefault, processMan1, if_pos hini]
  dsimp only
  split_ifs
  · rfl
  · rfl

/-- A packet that takes neither of the two paths keeps the registration. -/
lemma kept_ctrl {env : Env} {p : CtrlPkt} {n n' : Node} (h : n.RegistrationKept)
    (hp : ¬ n.terminaSinRegistrar p) (hstep : antopProcessPkt env (.ctrl p) n = some n') :
    n'.RegistrationKept := by
  cases atendido_of_paquete hstep with
  | nada => exact h
  | par => exact h.of_keeps (.refl _) rfl rfl
  | pan => exact kept_sendPanc h
  | hb hhb => exact kept_processHb h hhb
  | sap => exact h.of_keeps (.refl _) rfl rfl
  | san hsan => exact kept_processSan1 h hsan
  | far hfar => exact Or.inl (alive_processFar hfar)
  | fan => exact kept_processFan h
  | mar1 hmar1 hd =>
      rw [dispatchMar1_eq] at hd
      split_ifs at hd with hown hsec hsend
      · exact Or.inl (alive_processMar1 hd)
      · exact absurd ⟨hown.1, hown.2, Or.inr ⟨hmar1, hsec⟩⟩ hp
      · exact Or.inl (alive_processMar1 hd)
      · obtain rfl := Option.some.inj hd
        exact h
  | mar2 => exact Or.inl (alive_processMar2 env p n)
  | man1 hman1 hred =>
      exact kept_processMan1 h fun hini => hp ⟨hred, hini.2, Or.inl ⟨hman1, hini.1⟩⟩
  | man2 => exact kept_processMan2 h

/-- A packet that takes one of the two paths leaves the registration to the timer as it is. -/
lemma alive_of_terminaSinRegistrar {env : Env} {p : CtrlPkt} {n n' : Node}
    (hp : n.terminaSinRegistrar p) (hstep : antopProcessPkt env (.ctrl p) n = some n') :
    n'.timers = n.timers
      ∧ (n'.RegistrationAlive ↔ n.timers.Queued .rvT ∨ n.flagFragmentacion) := by
  obtain ⟨hred, hdef, ⟨hman1, hmezcla⟩ | ⟨hmar1, hsec⟩⟩ := hp
  · have hini : n.flagMezcla ∧ n.primAddr = dirDefault := ⟨hmezcla, hdef⟩
    simp only [antopProcessPkt, hman1, if_pos hred, Option.some.injEq] at hstep
    subst hstep
    refine ⟨?_, alive_processMan1_initiator hini⟩
    rw [processMan1, if_pos hini]
    dsimp only
    split_ifs
    · rfl
    · rfl
  · simp only [antopProcessPkt, hmar1] at hstep
    rw [dispatchMar1_eq, if_pos ⟨hred, hdef⟩, if_neg hsec] at hstep
    obtain rfl := Option.some.inj hstep
    exact ⟨rfl, alive_volverDelDefault⟩

lemma kept_timerHandler {env : Env} {id : TimerId} {n n' : Node}
    (h : n.RegistrationKept ∨ id = .rvT) (hstep : timerHandler env id n = some n') :
    n'.RegistrationKept := by
  cases id with
  | hbT =>
      obtain rfl := Option.some.inj hstep
      exact kept_sendHb (h.resolve_right (by simp))
  | chkNeighT => exact kept_checkNeighbors (h.resolve_right (by simp)) hstep
  | rvT =>
      obtain rfl := Option.some.inj hstep
      exact Or.inl (alive_registerRv env n)
  | sanT k =>
      obtain rfl := Option.some.inj hstep
      exact (h.resolve_right (by simp)).of_keeps (.refl _) rfl rfl

/-- **One step**: it keeps the registration, or it does not meet the guard and loses it. -/
lemma kept_step {n n' : Node} {e : Event} (h : n.RegistrationKept) (hstep : n.step e = some n') :
    n.keepsRegistration e ∧ n'.RegistrationKept
      ∨ ¬ n.keepsRegistration e ∧ ¬ (n'.timers.expiredTQ = [] → n'.RegistrationAlive) := by
  rcases step_cases hstep with ⟨env, pkt, rfl, hexp, hrecv⟩ | ⟨now, rfl, hexp, rfl⟩
    | ⟨env, t, rest, rfl, hexp, hfire⟩ | ⟨hespera, rfl⟩
  · cases pkt with
    | rv p =>
        refine Or.inl ⟨trivial, ?_⟩
        simp only [antopProcessPkt] at hrecv
        split at hrecv
        · obtain rfl := Option.some.inj hrecv
          exact h
        · obtain rfl := Option.some.inj hrecv
          exact h
    | ctrl p =>
        by_cases hp : n.terminaSinRegistrar p
        · obtain ⟨htimers, halive⟩ := alive_of_terminaSinRegistrar (n := n.vaciar) hp hrecv
          by_cases hrv : n.timers.Queued .rvT ∨ n.flagFragmentacion
          · exact Or.inl ⟨fun _ _ => hrv, Or.inl (halive.mpr hrv)⟩
          · refine Or.inr ⟨fun hg => hrv (hg hexp hp), fun hno => hrv (halive.mp (hno ?_))⟩
            rw [htimers]
            exact hexp
        · exact Or.inl ⟨fun _ hter => absurd hter hp, kept_ctrl (n := n.vaciar) h hp hrecv⟩
  · refine Or.inl ⟨trivial, ?_⟩
    rcases h.alive hexp with hq | hflag
    · rcases queued_or_expired_of_queued now hq with hq | hq
      · exact Or.inl (Or.inl hq)
      · exact Or.inr hq
    · exact Or.inl (Or.inr hflag)
  · refine Or.inl ⟨trivial, kept_timerHandler ?_ hfire⟩
    rcases h with halive | ⟨u, hu, hid⟩
    · exact Or.inl (Or.inl halive)
    · rw [hexp, List.mem_cons] at hu
      rcases hu with rfl | hu
      · exact Or.inr hid
      · exact Or.inl (Or.inr ⟨u, hu, hid⟩)
  · refine Or.inl ⟨?_, h⟩
    match e with
    | .recv _ (.ctrl p) => exact fun hexp => absurd hexp hespera
    | .recv _ (.rv p) => trivial
    | .timeout now => trivial
    | .fire env => trivial

/-! ## Runs -/

/-- **When the registration stays alive.**  In every run of a started node, `rv_t` is queued or a
merge or a fragmentation is going on whenever no timer handler is due, exactly when no step ends
the initiator's merge with `rv_t` gone. -/
theorem registration_alive_iff (clock : Timeval) (n₀ : Node) (es : List Event) :
    (∀ u ∈ states Node.step (n₀.arrancar clock) es,
        u.timers.expiredTQ = [] → u.RegistrationAlive)
      ↔ ∀ t ∈ steps Node.step (n₀.arrancar clock) es, t.1.keepsRegistration t.2.1 := by
  refine property_iff_guard (fun u hu hidle => RegistrationKept.alive hu hidle)
    (fun s e s' hs he => kept_step hs he) (Or.inl (Or.inl ?_))
  exact queued_timerAddMsec_self _ _ _ _

/-- A merge that the answer ends after `rv_t` has fired inside it: from then on nothing renews the
registration. -/
theorem registration_lost :
    ¬ ∀ (clock : Timeval) (n₀ : Node) (es : List Event),
      ∀ u ∈ states Node.step (n₀.arrancar clock) es,
        u.timers.expiredTQ = [] → u.RegistrationAlive := by
  intro h
  have hrun := h ⟨0, 0⟩ (primAddrInit 64 "a")
    [.recv .zero (.ctrl { CtrlPkt.zero with
        pktTypeF := .hb, primAddr := slotAddr root 0
        adAddr := { CtrlPkt.zero.adAddr with redNumero := 5 } }),
      .timeout ⟨4, 0⟩, .fire .zero,
      .recv .zero (.ctrl { CtrlPkt.zero with pktTypeF := .man1 })]
  revert hrun
  decide +kernel

end Node

end Antop
