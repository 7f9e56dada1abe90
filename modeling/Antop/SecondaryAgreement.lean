import Antop.NeighborTable

/-!
# Secondary addresses and their messages

A secondary address comes about by a `SAP` and its `SAN`, and follows a merge by a `MAR1` of its own.

* `Node.mar1_secundario_descartado` — the dispatcher drops every `MAR1` of another network for the
  secondary address: the branch of `process_mar1` for it is never taken.
* `Proponente` — a node with the last `SAP` it has sent.
* `Proponente.solo_por_acuerdo_iff` — along a run, a `SAN` changes the secondary address and the masks
  only by agreement exactly when every `SAN` is agreed, or repeats what is in place.
-/

namespace Antop

open Transition

namespace Node

/-! ## The merge of a secondary address -/

/-- A `MAR1` for the secondary address is followed: `process_mar1` runs its branch for that address,
and the merge is over when a `MAR1` for the primary address, with which the node has not to wait for
answers, is processed as well, before it or after it. -/
structure SigueLaMezcla (env : Env) (p : CtrlPkt) (n : Node) : Prop where
  rama : antopProcessPkt env (.ctrl p) n
    = some ({ n with flagMezcla := true }.processMar1Secundaria env p)
  cierre : ∀ p₁ : CtrlPkt, p₁.pktTypeF = .mar1 → p₁.adAddr.addr = n.primAddr →
    p₁.adAddr.redNumero = p.adAddr.redNumero → n.esperaMar1 p₁ = false →
    (∃ n₁ n₂, antopProcessPkt env (.ctrl p₁) n = some n₁
        ∧ antopProcessPkt env (.ctrl p) n₁ = some n₂ ∧ n₂.flagMezcla = false)
      ∧ ∃ n₁ n₂, antopProcessPkt env (.ctrl p) n = some n₁
        ∧ antopProcessPkt env (.ctrl p₁) n₁ = some n₂ ∧ n₂.flagMezcla = false

/-- **A `MAR1` for the secondary address is dropped**, and so never followed. -/
theorem mar1_secundario_descartado (env : Env) {p : CtrlPkt} {n : Node}
    (hne : n.secAddr ≠ n.primAddr) (hp : p.pktTypeF = .mar1)
    (hred : p.adAddr.redNumero ≠ n.redNumero) (haddr : p.adAddr.addr = n.secAddr) :
    antopProcessPkt env (.ctrl p) n = some n ∧ ¬ n.SigueLaMezcla env p := by
  have hdrop : antopProcessPkt env (.ctrl p) n = some n := by
    simp only [antopProcessPkt, hp]
    rw [dispatchMar1_eq, if_neg fun hc => hred hc.1, if_neg fun hc => hne (haddr.symm.trans hc.2)]
  have hnum : ({ n with flagMezcla := true }.processMar1Secundaria env p).redNumero
      = p.adAddr.redNumero := by
    obtain ⟨o, heq⟩ := processMar1Secundaria_eq env p { n with flagMezcla := true }
    rw [heq]
    dsimp only
    split_ifs
    · simp
    · rfl
  refine ⟨hdrop, fun h => hred ?_⟩
  rw [← hnum, ← Option.some.inj (hdrop.symm.trans h.rama)]

/-- The first child of the root with a secondary address from its own block. -/
def hijoConSecundaria : Node :=
  { hijo with
    secAddr := slotAddr (slotAddr root 0) 1, secMask := 2, secAddrFlag := true, primMask := 2 }

/-- A `MAR1` of the network 7 for the secondary address, passed on by a neighbour. -/
def mar1Secundario : CtrlPkt :=
  { CtrlPkt.zero with
    pktTypeF := .mar1, srcAddr := root, primAddr := slotAddr root 1
    adAddr := { tLenght := 1, addr := slotAddr (slotAddr root 0) 1, mask := 1, redNumero := 7 } }

/-- It is dropped. -/
theorem mar1_secundario_descartado_hijo :
    antopProcessPkt .zero (.ctrl mar1Secundario) hijoConSecundaria = some hijoConSecundaria
      ∧ ¬ hijoConSecundaria.SigueLaMezcla .zero mar1Secundario :=
  mar1_secundario_descartado .zero (by decide) rfl (by decide) rfl

/-- The node keeps its number, and the address of the old network. -/
theorem mar1_secundario_not_followed :
    ¬ ∀ (env : Env) (p : CtrlPkt) (n : Node), n.secAddrFlag = true → n.secAddr ≠ n.primAddr →
      p.pktTypeF = .mar1 → p.adAddr.redNumero ≠ n.redNumero → p.adAddr.addr = n.secAddr →
      n.SigueLaMezcla env p := by
  intro h
  have hrama := (h .zero mar1Secundario hijoConSecundaria rfl (by decide) rfl (by decide) rfl).rama
  have hnum := congrArg (Option.map Node.redNumero) hrama
  revert hnum
  decide

end Node

/-! ## The agreement on a secondary address -/

/-- A node, with the address and the mask of the last `SAP` it has sent. -/
structure Proponente where
  node : Node
  ultimoSap : Option (In6Addr × UChar)

namespace Proponente

/-- The address and the mask of the last `SAP` among some messages. -/
def ultimoSapDe (out : List (In6Addr × CtrlPkt)) : Option (In6Addr × UChar) :=
  ((out.filter fun m => m.2.pktTypeF = .sap).getLast?).map fun m => (m.2.adAddr.addr, m.2.adAddr.mask)

/-- A step of the node, after which the last `SAP` is known. -/
def step (s : Proponente) (e : Event) : Option Proponente :=
  (s.node.step e).map fun n => { node := n, ultimoSap := (ultimoSapDe n.out).or s.ultimoSap }

/-- A `SAN` is the answer the node is waiting for: it carries the address and the mask of its last
`SAP`, and comes from its network. -/
def Acordado (s : Proponente) (msg : CtrlPkt) : Prop :=
  s.node.flagAddrAvai = false ∧ s.ultimoSap = some (msg.adAddr.addr, msg.adAddr.mask)
    ∧ msg.adAddr.redNumero = s.node.redNumero

/-- A `SAN` repeats what is in place, and asks for no greater mask. -/
def Repetido (s : Proponente) (msg : CtrlPkt) : Prop :=
  s.node.secAddrFlag = true ∧ s.node.secAddr = msg.adAddr.addr ∧ s.node.secMask = msg.adAddr.mask
    ∧ ¬ s.node.subeMask msg

/-- The secondary address, its mask and flag and the primary mask are the same. -/
def MismaSecundaria (n n' : Node) : Prop :=
  n'.secAddr = n.secAddr ∧ n'.secMask = n.secMask ∧ n'.secAddrFlag = n.secAddrFlag
    ∧ n'.primMask = n.primMask

instance (s : Proponente) (msg : CtrlPkt) : Decidable (s.Acordado msg) := by
  unfold Acordado
  infer_instance

instance (n n' : Node) : Decidable (MismaSecundaria n n') := by
  unfold MismaSecundaria
  infer_instance

/-- A step in which a `SAN` is read changes these only by agreement. -/
def SoloPorAcuerdo (s : Proponente) (e : Event) (s' : Proponente) : Prop :=
  match e with
  | .recv _ (.ctrl msg) =>
      msg.pktTypeF = .san → s.node.timers.expiredTQ = [] →
        MismaSecundaria s.node s'.node ∨ s.Acordado msg
  | _ => True

instance (s : Proponente) (e : Event) (s' : Proponente) : Decidable (s.SoloPorAcuerdo e s') :=
  match e with
  | .recv _ (.ctrl msg) =>
      inferInstanceAs (Decidable (msg.pktTypeF = .san → s.node.timers.expiredTQ = [] →
        MismaSecundaria s.node s'.node ∨ s.Acordado msg))
  | .recv _ (.rv _) => inferInstanceAs (Decidable True)
  | .timeout _ => inferInstanceAs (Decidable True)
  | .fire _ => inferInstanceAs (Decidable True)

/-- What a step needs for that. -/
def guardaSan (s : Proponente) (e : Event) : Prop :=
  match e with
  | .recv _ (.ctrl msg) =>
      msg.pktTypeF = .san → s.node.timers.expiredTQ = [] → s.Repetido msg ∨ s.Acordado msg
  | _ => True

/-- **`process_san1`** leaves the secondary address and the masks exactly when the message repeats
them. -/
lemma mismaSecundaria_processSan1 {msg : CtrlPkt} {s : Proponente} {n' : Node}
    (h : s.node.vaciar.processSan1 msg = some n') : MismaSecundaria s.node n' ↔ s.Repetido msg := by
  obtain ⟨t, rfl⟩ := Node.processSan1_eq h
  have hmask : (if s.node.subeMask msg then msg.adAddr.mask else s.node.primMask) = s.node.primMask
      ↔ ¬ s.node.subeMask msg := by
    by_cases hsube : s.node.subeMask msg
    · have hlt := hsube.1
      simp only [hsube, if_true, not_true, iff_false]
      bv_omega
    · simp [hsube]
  change msg.adAddr.addr = s.node.secAddr ∧ msg.adAddr.mask = s.node.secMask
    ∧ true = s.node.secAddrFlag
    ∧ (if s.node.subeMask msg then msg.adAddr.mask else s.node.primMask) = s.node.primMask ↔ _
  rw [hmask, Repetido]
  constructor
  · rintro ⟨ha, hm, hf, hs⟩
    exact ⟨hf.symm, ha.symm, hm.symm, hs⟩
  · rintro ⟨hf, ha, hm, hs⟩
    exact ⟨ha.symm, hm.symm, hf.symm, hs⟩

/-- **One step.** -/
lemma soloPorAcuerdo_iff {s s' : Proponente} {e : Event} (hstep : s.step e = some s') :
    s.SoloPorAcuerdo e s' ↔ s.guardaSan e := by
  obtain ⟨n', hn', rfl⟩ := Option.map_eq_some_iff.mp hstep
  match e with
  | .timeout now => exact Iff.rfl
  | .fire env => exact Iff.rfl
  | .recv env (.rv p) => exact Iff.rfl
  | .recv env (.ctrl msg) =>
      refine forall₂_congr fun hp hexp => or_congr_left ?_
      have hsan : s.node.vaciar.processSan1 msg = some n' := by
        simpa only [Node.step, hexp, Node.antopProcessPkt, hp] using hn'
      exact mismaSecundaria_processSan1 hsan

/-- **When a secondary address is only adopted by agreement.**  Along any run, a `SAN` changes the
secondary address, its mask and flag and the primary mask only when it is the answer to the last
`SAP` and that answer is awaited, exactly when every `SAN` is such an answer or repeats what is in
place. -/
theorem solo_por_acuerdo_iff (s : Proponente) (es : List Event) :
    (∀ t ∈ steps step s es, t.1.SoloPorAcuerdo t.2.1 t.2.2)
      ↔ ∀ t ∈ steps step s es, t.1.guardaSan t.2.1 :=
  forall_steps_iff (P := SoloPorAcuerdo) (G := guardaSan)
    fun _ _ _ hstep => soloPorAcuerdo_iff hstep

/-- A heartbeat of the second child of the root. -/
def hbDelHermano : CtrlPkt :=
  { CtrlPkt.zero with
    pktTypeF := .hb, srcAddr := slotAddr root 1, primAddr := slotAddr root 1
    adAddr := { tLenght := 2, addr := .zero, mask := 2, redNumero := 0 } }

/-- The first child proposes an address to the second one, whose answer is agreed. -/
example :
    ∃ t ∈ steps step ⟨Node.hijo.arrancar ⟨0, 0⟩, none⟩
        [.recv .zero (.ctrl hbDelHermano), .recv .zero (.ctrl Node.sanDelHermano)],
      t.1.Acordado Node.sanDelHermano ∧ ¬ MismaSecundaria t.1.node t.2.2.node := by
  decide +kernel

/-- Nobody has asked for a `SAN` that is adopted. -/
theorem unsolicited_san_adopted :
    ¬ ∀ (n : Node) (es : List Event), ∀ t ∈ steps step ⟨n, none⟩ es,
      t.1.SoloPorAcuerdo t.2.1 t.2.2 := by
  intro h
  have hrun := h (Node.hijo.arrancar ⟨0, 0⟩) [.recv .zero (.ctrl Node.sanDelHermano)]
  revert hrun
  decide

end Proponente

end Antop
