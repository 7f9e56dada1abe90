import Antop.HcbAddress
import Antop.HeartBeat
import Antop.Library.Transition

/-!
# The main loop

A running node takes one step for each handler it runs.  `Node.step` is that step, and a run of a
node is a list of events given to it:

* `recv` — a packet is read and dispatched by `antopProcessPkt`;
* `timeout` — `timer_timeout` takes the expired timers off the queue;
* `fire` — the handler of the first of them runs.

Until `timer_timeout` has run the last handler the daemon reads nothing, so an event that has to
wait leaves the state as it is.  A step is `none` when the daemon crashes or hangs in it.
-/

namespace Antop

/-- A datagram on the ANTop port. -/
inductive Pkt
  | ctrl (p : CtrlPkt)
  | rv (p : RvCtrlPkt)

/-- What makes a running node take a step. -/
inductive Event
  | recv (env : Env) (pkt : Pkt)
  | timeout (now : Timeval)
  | fire (env : Env)

namespace Node

/-- The case `MAR1` of `antop_process_pkt`: an initiator that sees its own network number back takes
its address again, and only messages for the primary address are processed. -/
def dispatchMar1 (env : Env) (p : CtrlPkt) (n : Node) : Option Node :=
  let n := if p.adAddr.redNumero = n.redNumero ∧ n.primAddr = dirDefault then n.volverDelDefault else n
  if (p.adAddr.redNumero ≠ n.redNumero ∨ n.secAddrFlag) ∧ p.adAddr.addr = n.primAddr then
    n.processMar1 env p
  else some n

/-- `MAR1` at an initiator: it goes through unless the message is for its secondary address. -/
lemma dispatchMar1_eq (env : Env) (p : CtrlPkt) (n : Node) :
    n.dispatchMar1 env p =
      if p.adAddr.redNumero = n.redNumero ∧ n.primAddr = dirDefault then
        if n.secAddrFlag ∧ p.adAddr.addr = n.primAddrAux then n.volverDelDefault.processMar1 env p
        else some n.volverDelDefault
      else if (p.adAddr.redNumero ≠ n.redNumero ∨ n.secAddrFlag) ∧ p.adAddr.addr = n.primAddr then
        n.processMar1 env p
      else some n := by
  unfold dispatchMar1
  by_cases h : p.adAddr.redNumero = n.redNumero ∧ n.primAddr = dirDefault
  · have hred : ¬ p.adAddr.redNumero ≠ n.volverDelDefault.redNumero := not_not.mpr h.1
    rw [if_pos h, if_pos h]
    simp only [hred, false_or]
    rfl
  · rw [if_neg h, if_neg h]

/-- `antop_process_pkt`.  The answers to rendezvous queries change none of the variables of a
`Node`. -/
def antopProcessPkt (env : Env) : Pkt → Node → Option Node
  | .rv p, n =>
      match p.type with
      | .rvReg => some { n with rvTable := rvTableAdd p n.rvTable }
      | _ => some n
  | .ctrl p, n =>
      match p.pktTypeF with
      | .par => some (n.sendPap env p.srcAddr)
      | .pan =>
          if p.adAddr.redNumero ≠ n.redNumero then some n
          else if n.primAddr = p.adAddr.addr then
            some (n.sendPanc env p.srcAddr p.adAddr.addr p.primAddr)
          else some n
      | .hb => if n.flagFragmentacion ∨ n.flagMezcla then some n else n.processHb env p
      | .sap =>
          if p.adAddr.redNumero ≠ n.redNumero then some n
          else if n.flagFragmentacion ∨ n.flagMezcla then some n
          else some (n.processSap1 p)
      | .san => n.processSan1 p
      | .far => n.processFar env p
      | .fan => some (n.processFan env)
      | .mar1 => n.dispatchMar1 env p
      | .mar2 =>
          if p.adAddr.redNumero ≠ n.redNumero ∨ n.secAddrFlag then some (n.processMar2 env p)
          else some n
      | .man1 => if p.adAddr.redNumero = n.redNumero then some (n.processMan1 env p) else some n
      | .man2 => if p.adAddr.redNumero = n.redNumero then some (n.processMan2 env p) else some n
      | _ => some n

/-- What `antop_process_pkt` can make of a node with a control packet. -/
inductive Atendido (env : Env) (p : CtrlPkt) (n : Node) : Node → Prop
  | nada : Atendido env p n n
  | par : Atendido env p n (n.sendPap env p.srcAddr)
  | pan : Atendido env p n (n.sendPanc env p.srcAddr p.adAddr.addr p.primAddr)
  | hb {n' : Node} (h : n.processHb env p = some n') : Atendido env p n n'
  | sap : Atendido env p n (n.processSap1 p)
  | san {n' : Node} (h : n.processSan1 p = some n') : Atendido env p n n'
  | far {n' : Node} (h : n.processFar env p = some n') : Atendido env p n n'
  | fan : Atendido env p n (n.processFan env)
  | mar1 {n' : Node} (htype : p.pktTypeF = .mar1) (h : n.dispatchMar1 env p = some n') : Atendido env p n n'
  | mar2 : Atendido env p n (n.processMar2 env p)
  | man1 (htype : p.pktTypeF = .man1) (hred : p.adAddr.redNumero = n.redNumero) :
      Atendido env p n (n.processMan1 env p)
  | man2 : Atendido env p n (n.processMan2 env p)

/-- **What a packet can do.** -/
lemma atendido_of_paquete {env : Env} {p : CtrlPkt} {n n' : Node}
    (h : antopProcessPkt env (.ctrl p) n = some n') : Atendido env p n n' := by
  unfold antopProcessPkt at h
  dsimp only at h
  split at h
  · exact Option.some.inj h ▸ .par
  · split_ifs at h
    · exact Option.some.inj h ▸ .nada
    · exact Option.some.inj h ▸ .pan
    · exact Option.some.inj h ▸ .nada
  · split_ifs at h
    · exact Option.some.inj h ▸ .nada
    · exact .hb h
  · split_ifs at h
    · exact Option.some.inj h ▸ .nada
    · exact Option.some.inj h ▸ .nada
    · exact Option.some.inj h ▸ .sap
  · exact .san h
  · exact .far h
  · exact Option.some.inj h ▸ .fan
  next htype => exact .mar1 htype h
  · split_ifs at h
    · exact Option.some.inj h ▸ .mar2
    · exact Option.some.inj h ▸ .nada
  next htype =>
    split_ifs at h with hred
    · exact Option.some.inj h ▸ .man1 htype hred
    · exact Option.some.inj h ▸ .nada
  · split_ifs at h
    · exact Option.some.inj h ▸ .man2
    · exact Option.some.inj h ▸ .nada
  · exact Option.some.inj h ▸ .nada

/-- The handler of a timer. -/
def timerHandler (env : Env) (id : TimerId) (n : Node) : Option Node :=
  match id with
  | .hbT => some (n.sendHb env true)
  | .chkNeighT => n.checkNeighbors env
  | .rvT => some (n.registerRv env)
  | .sanT _ => some n.sanTHandler

/-- The node with nothing sent yet. -/
def vaciar (n : Node) : Node := { n with out := [], rvOut := [] }

/-- The node with the first expired timer taken off, as its handler finds it. -/
def tomarTimer (id : TimerId) (rest : List Timer) (n : Node) : Node :=
  { n with timers := { release id n.timers with expiredTQ := rest } }

/-- One step of a running node.  `out` and `rvOut` hold what it sends in this step. -/
def step (n : Node) (e : Event) : Option Node :=
  match n.timers.expiredTQ with
  | [] =>
      match e with
      | .recv env pkt => antopProcessPkt env pkt n.vaciar
      | .timeout now => some { n.vaciar with timers := cutExpired now n.timers }
      | .fire _ => some n.vaciar
  | t :: rest =>
      match e with
      | .fire env => timerHandler env t.id (n.vaciar.tomarTimer t.id rest)
      | _ => some n.vaciar

/-- The event has to wait: for the handlers that are due, or for one to be due. -/
def espera (n : Node) : Event → Prop
  | .fire _ => n.timers.expiredTQ = []
  | _ => n.timers.expiredTQ ≠ []

/-- **What a step can do.** -/
lemma step_cases {n n' : Node} {e : Event} (h : n.step e = some n') :
    (∃ env pkt, e = .recv env pkt ∧ n.timers.expiredTQ = []
        ∧ antopProcessPkt env pkt n.vaciar = some n')
      ∨ (∃ now, e = .timeout now ∧ n.timers.expiredTQ = []
        ∧ n' = { n.vaciar with timers := cutExpired now n.timers })
      ∨ (∃ env t rest, e = .fire env ∧ n.timers.expiredTQ = t :: rest
        ∧ timerHandler env t.id (n.vaciar.tomarTimer t.id rest) = some n')
      ∨ n.espera e ∧ n' = n.vaciar := by
  unfold step at h
  cases hexp : n.timers.expiredTQ with
  | nil =>
      rw [hexp] at h
      cases e with
      | recv env pkt => exact Or.inl ⟨env, pkt, rfl, rfl, h⟩
      | timeout now => exact Or.inr (Or.inl ⟨now, rfl, rfl, (Option.some.inj h).symm⟩)
      | fire env => exact Or.inr (Or.inr (Or.inr ⟨hexp, (Option.some.inj h).symm⟩))
  | cons t rest =>
      rw [hexp] at h
      have hne : n.timers.expiredTQ ≠ [] := by simp [hexp]
      cases e with
      | recv env pkt => exact Or.inr (Or.inr (Or.inr ⟨hne, (Option.some.inj h).symm⟩))
      | timeout now => exact Or.inr (Or.inr (Or.inr ⟨hne, (Option.some.inj h).symm⟩))
      | fire env => exact Or.inr (Or.inr (Or.inl ⟨env, t, rest, rfl, rfl, h⟩))

/-- What `main` does once `get_prim_addr` has returned: the timers are armed and the node counts as
initialised. -/
def arrancar (clock : Timeval) (n : Node) : Node :=
  let n := { n with primAddrFlag := true }
  let n := (n.timerAddMsec .hbT 5000 clock).timerAddMsec .chkNeighT 8000 clock
  { n.timerAddMsec .rvT 3000 clock with flagInit := true }

/-! ## A node to run -/

/-- The first child of the root, `2001:db8::8000:0:0:1`. -/
def hijo : Node :=
  { primAddrInit 64 "h" with
    primAddr := slotAddr root 0, primMask := 1, primMaskInicial := 1
    iface := {slotAddr root 0}
    neighTable := [{ primAddr := root, secAddrConn := false, count := 0, primMask := 1
                     primMaskInicial := 0, available := true }]
    neighborToRoot := { addr := root, distance := 0 } }

/-- The expiry of the three timers at the second `t`, and their handlers. -/
def ronda (t : ℤ) : List Event :=
  .timeout ⟨t, 0⟩ :: List.replicate 3 (.fire { Env.zero with clock := ⟨t, 0⟩ })

end Node

end Antop
