import Antop.Dispatch

/-!
# What no handler changes

The dimension, the universal address and `flag_conexion` are set before the main loop, in `main` and in
`get_prim_addr`.

* `Node.fijo` — these three.
* `fijo_antopProcessPkt`, `fijo_timerHandler` — no packet and no timer changes them.
* **`fijo_states`** — they are the same in all states of a run.
-/

namespace Antop

open Transition

namespace Node

/-- `hc_dim`, `univ_addr` and `flag_conexion`. -/
def fijo (n : Node) : ℕ × String × Bool := (n.hcDim, n.univAddr, n.flagConexion)

lemma fijo_eq_iff {n m : Node} :
    n.fijo = m.fijo ↔ n.hcDim = m.hcDim ∧ n.univAddr = m.univAddr ∧ n.flagConexion = m.flagConexion := by
  simp only [fijo, Prod.mk.injEq]

/-! ## Packets -/

lemma fijo_registerRv (env : Env) (n : Node) : (registerRv env n).fijo = n.fijo := by
  rw [registerRv_eq]
  rfl

lemma fijo_finMezcla (env : Env) (n : Node) : (n.finMezcla env).fijo = n.fijo :=
  fijo_registerRv env _

lemma fijo_finFragmentacion (env : Env) (n : Node) :
    (n.finFragmentacion env).fijo = n.fijo := fijo_registerRv env _

lemma fijo_cerrarPrimaria (env : Env) (n : Node) :
    (n.cerrarPrimaria env).fijo = n.fijo := by
  unfold cerrarPrimaria
  split_ifs
  · exact fijo_finMezcla env n
  · rfl

lemma fijo_processFar {env : Env} {p : CtrlPkt} {n n' : Node} (h : n.processFar env p = some n') :
    n'.fijo = n.fijo := by
  unfold processFar at h
  dsimp only at h
  split_ifs at h
  · obtain rfl := Option.some.inj h
    obtain ⟨o, heq⟩ := processFarSecundaria_eq env p { n with flagFragmentacion := true }
    rw [heq]
    dsimp only
    split_ifs
    · exact fijo_finFragmentacion env _
    · rfl
  · obtain ⟨t, rv, o, fin, rfl⟩ := processFarPrimaria_eq h
    cases fin
    · rfl
    · exact fijo_finFragmentacion env _

lemma fijo_processFan (env : Env) (n : Node) : (n.processFan env).fijo = n.fijo := by
  unfold processFan
  split_ifs
  · exact fijo_finFragmentacion env n
  · rfl

lemma fijo_tomarMar1 (env : Env) (p : CtrlPkt) (n : Node) :
    (n.tomarMar1 env p).fijo = n.fijo := fijo_cerrarPrimaria env _

lemma fijo_entrarMar1 (p : CtrlPkt) (n : Node) : (n.entrarMar1 p).fijo = n.fijo := by
  simp only [fijo, entrarMar1, storePrimMask]

/-- What a node that answers a `MAR` changes before it takes the address over. -/
lemma fijo_envios (n : Node) (k : ℕ) (t : List Neighbor) (rv : List LookupTable)
    (o : List (In6Addr × CtrlPkt)) : ((n.sumarMask k).conTablas t rv o).fijo = n.fijo := rfl

lemma fijo_processMar1 {env : Env} {p : CtrlPkt} {n n' : Node}
    (h : n.processMar1 env p = some n') : n'.fijo = n.fijo := by
  unfold processMar1 at h
  dsimp only at h
  split_ifs at h
  · obtain rfl := Option.some.inj h
    obtain ⟨o, heq⟩ := processMar1Secundaria_eq env p { n with flagMezcla := true }
    rw [heq]
    dsimp only
    split_ifs
    · exact fijo_finMezcla env _
    · rfl
  · obtain ⟨t, rv, o, ⟨-, rfl⟩ | ⟨-, -, rfl⟩⟩ := processMar1Primaria_eq h
    · rw [fijo_envios, fijo_entrarMar1]
      rfl
    · rw [fijo_tomarMar1, fijo_envios, fijo_entrarMar1]
      rfl

lemma fijo_dispatchMar1 {env : Env} {p : CtrlPkt} {n n' : Node}
    (h : n.dispatchMar1 env p = some n') : n'.fijo = n.fijo := by
  rw [dispatchMar1_eq] at h
  split_ifs at h
  · exact (fijo_processMar1 h).trans rfl
  · obtain rfl := Option.some.inj h
    rfl
  · exact fijo_processMar1 h
  · obtain rfl := Option.some.inj h
    rfl

lemma fijo_processMar2 (env : Env) (p : CtrlPkt) (n : Node) :
    (n.processMar2 env p).fijo = n.fijo := by
  unfold processMar2
  dsimp only
  split_ifs
  · obtain ⟨o, heq⟩ := processMar2Secundaria_eq env p { n with flagMezcla := true }
    rw [heq]
    dsimp only
    split_ifs
    · exact fijo_finMezcla env _
    · rfl
  · obtain ⟨t, rv, o, ⟨-, heq⟩ | ⟨-, -, heq⟩⟩ :=
      processMar2Primaria_eq env p { n with flagMezcla := true }
    · rw [heq]
      rfl
    · rw [heq]
      exact fijo_cerrarPrimaria env _

lemma fijo_processMan1 (env : Env) (p : CtrlPkt) (n : Node) :
    (n.processMan1 env p).fijo = n.fijo := by
  unfold processMan1
  split_ifs
  · dsimp only
    split_ifs
    · rfl
    · rfl
  · dsimp only
    split_ifs
    · exact fijo_finMezcla env _
    · rfl
  · rfl

lemma fijo_processMan2 (env : Env) (p : CtrlPkt) (n : Node) :
    (n.processMan2 env p).fijo = n.fijo := by
  unfold processMan2
  split_ifs
  · dsimp only
    split_ifs
    · exact fijo_finMezcla env _
    · rfl
  · rfl

lemma fijo_processHb {env : Env} {p : CtrlPkt} {n n' : Node} (h : n.processHb env p = some n') :
    n'.fijo = n.fijo := by
  rcases processHb_cases h with rfl | ⟨-, rfl⟩ | rfl | ⟨-, secFlag, m, hm, rfl⟩
  · rfl
  · rfl
  · obtain ⟨ts, o, f, l, heq, -⟩ := chkSecAddr1_eq env p.primAddr n
    rw [heq]
    rfl
  · have hoir : m.fijo = n.fijo := by rw [oirVecino_eq hm]; rfl
    rw [← hoir]
    rcases detectorDeFragmentacion_cases env m with heq | heq | ⟨-, heq⟩
    · rw [heq]
    · rw [heq]
      rfl
    · rw [heq, fragmentacion_eq]
      rfl

/-- **No packet** changes them. -/
lemma fijo_antopProcessPkt {env : Env} {p : CtrlPkt} {n n' : Node}
    (h : antopProcessPkt env (.ctrl p) n = some n') : n'.fijo = n.fijo := by
  cases atendido_of_paquete h with
  | nada => rfl
  | par => rfl
  | pan =>
      unfold sendPanc
      dsimp only
      split_ifs
      · rfl
      · rfl
  | hb h => exact fijo_processHb h
  | sap => rfl
  | san h =>
      obtain ⟨t, rfl⟩ := processSan1_eq h
      rfl
  | far h => exact fijo_processFar h
  | fan => exact fijo_processFan env n
  | mar1 _ h => exact fijo_dispatchMar1 h
  | mar2 => exact fijo_processMar2 env p n
  | man1 => exact fijo_processMan1 env p n
  | man2 => exact fijo_processMan2 env p n

/-! ## Timers -/

lemma fijo_sendHbChecks (env : Env) (n : Node) : (n.sendHbChecks env).fijo = n.fijo := by
  have honly : (n.checkIfIAmOnly env).fijo = n.fijo := by
    unfold checkIfIAmOnly
    split_ifs
    · rfl
    · rfl
  have hsec (m : Node) : m.checkNeighOfSecondaryAddress.fijo = m.fijo := by
    unfold checkNeighOfSecondaryAddress
    dsimp only
    split_ifs
    · rfl
    · rfl
    · rfl
  unfold sendHbChecks
  split_ifs
  · exact (hsec _).trans honly
  · rfl

/-- **No timer** changes them. -/
lemma fijo_timerHandler {env : Env} {id : TimerId} {n n' : Node} (h : timerHandler env id n = some n') :
    n'.fijo = n.fijo := by
  cases id with
  | hbT =>
      obtain rfl := Option.some.inj h
      obtain ⟨ts, o, heq, -⟩ := sendHb_eq env true n
      rw [heq]
      exact fijo_sendHbChecks env n
  | chkNeighT =>
      obtain ⟨m, hm, rfl⟩ := Option.map_eq_some_iff.mp h
      obtain ⟨t, rc, rv, rfl⟩ := checkNeighborsLoop_eq hm
      rfl
  | rvT =>
      obtain rfl := Option.some.inj h
      exact fijo_registerRv env n
  | sanT k =>
      obtain rfl := Option.some.inj h
      rfl

/-! ## Runs -/

lemma fijo_step {n n' : Node} {e : Event} (h : n.step e = some n') : n'.fijo = n.fijo := by
  rcases step_cases h with ⟨env, pkt, rfl, -, hrecv⟩ | ⟨now, rfl, -, rfl⟩
    | ⟨env, t, rest, rfl, -, hfire⟩ | ⟨-, rfl⟩
  · cases pkt with
    | rv p =>
        simp only [antopProcessPkt] at hrecv
        split at hrecv
        · obtain rfl := Option.some.inj hrecv
          rfl
        · obtain rfl := Option.some.inj hrecv
          rfl
    | ctrl p => exact (fijo_antopProcessPkt hrecv).trans rfl
  · rfl
  · exact (fijo_timerHandler hfire).trans rfl
  · rfl

/-- **Along a run** they stay. -/
theorem fijo_states (n : Node) (es : List Event) : ∀ u ∈ states Node.step n es, u.fijo = n.fijo :=
  invariant (fun _ _ _ hs he => (fijo_step he).trans hs) rfl

end Node

end Antop
