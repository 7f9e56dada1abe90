import Antop.Dispatch

/-!
# How often the messages of a merge are applied

A node without a secondary address that is not the initiator goes through a merge in three phases:
it does not carry the number of the merge yet, it carries it and waits for an answer with
`flag_mezcla` set, it carries it and is done.

* `step_esMezcla` — what a message of the merge can do: nothing, lead out of the first phase, or
  end the second.
* `mezcla_once` — at most one `MAR` is processed and the address changes at most once; after that
  the messages of the merge leave the node where it is.
-/

namespace Antop

open Transition

/-- The event is a message of the merge with the number `red`. -/
def esMezcla (red : UChar) : Event → Prop
  | .recv _ (.ctrl p) =>
      (p.pktTypeF = .mar1 ∨ p.pktTypeF = .mar2 ∨ p.pktTypeF = .man1 ∨ p.pktTypeF = .man2)
        ∧ p.adAddr.redNumero = red
  | _ => False

namespace Node

/-- The event is a `MAR` that a node which is no initiator hands to `process_mar1` or
`process_mar2`. -/
def procesaMar (n : Node) (e : Event) (_ : Node) : Bool :=
  match e with
  | .recv _ (.ctrl p) =>
      n.timers.expiredTQ = [] ∧ (p.adAddr.redNumero ≠ n.redNumero ∨ n.secAddrFlag)
        ∧ (p.pktTypeF = .mar1 ∧ p.adAddr.addr = n.primAddr ∨ p.pktTypeF = .mar2)
  | _ => false

/-- The step changes `prim_addr`. -/
def cambiaPrimAddr (n : Node) (_ : Event) (n' : Node) : Bool := n'.primAddr ≠ n.primAddr

/-- The node carries the number of the merge and waits for nothing. -/
def MezclaTerminada (red : UChar) (n : Node) : Prop := n.redNumero = red ∧ n.flagMezcla = false

/-! ## The handlers -/

/-- A node without a secondary address after a `MAR` numbered `red`: it has moved only if it is
done. -/
def TrasMar (red : UChar) (n n' : Node) : Prop :=
  n'.secAddrFlag = false ∧ n'.redNumero = red
    ∧ (n'.primAddr ≠ n.primAddr → n'.flagMezcla = false)

/-- The end of a merge: whatever the address, the node is done. -/
lemma trasMar_finMezcla {red : UChar} {env : Env} {n m : Node} (hsec : m.secAddrFlag = false)
    (hred : m.redNumero = red) : TrasMar red n (m.finMezcla env) :=
  ⟨by simpa using hsec, by simpa using hred, fun _ => finMezcla_flagMezcla env m⟩

/-- A node that keeps its address has not moved. -/
lemma trasMar_of_primAddr {red : UChar} {n n' : Node} (hsec : n'.secAddrFlag = false)
    (hred : n'.redNumero = red) (hprim : n'.primAddr = n.primAddr) : TrasMar red n n' :=
  ⟨hsec, hred, fun h => absurd hprim h⟩

lemma trasMar_processMar1 {env : Env} {p : CtrlPkt} {n n' : Node} (hsec : n.secAddrFlag = false)
    (h : n.processMar1 env p = some n') : TrasMar p.adAddr.redNumero n n' := by
  unfold processMar1 at h
  dsimp only at h
  split_ifs at h
  · obtain rfl := Option.some.inj h
    obtain ⟨o, h⟩ := processMar1Secundaria_eq env p { n with flagMezcla := true }
    rw [h]
    dsimp only
    split_ifs
    · exact trasMar_finMezcla hsec rfl
    · exact trasMar_of_primAddr hsec rfl rfl
  · obtain ⟨t, rv, o, ⟨-, rfl⟩ | ⟨-, -, rfl⟩⟩ := processMar1Primaria_eq h
    · exact trasMar_of_primAddr (by simp [hsec]) (by simp [entrarMar1]) (by simp)
    · rw [tomarMar1, cerrarPrimaria_of_not_sec (by simp [hsec])]
      exact trasMar_finMezcla (by simp [hsec]) (by simp [entrarMar1])

lemma trasMar_processMar2 (env : Env) (p : CtrlPkt) {n : Node} (hsec : n.secAddrFlag = false) :
    TrasMar p.adAddr.redNumero n (n.processMar2 env p) := by
  unfold processMar2
  dsimp only
  split_ifs
  · obtain ⟨o, h⟩ := processMar2Secundaria_eq env p { n with flagMezcla := true }
    rw [h]
    dsimp only
    split_ifs
    · exact trasMar_finMezcla hsec rfl
    · exact trasMar_of_primAddr hsec rfl rfl
  · obtain ⟨t, rv, o, ⟨-, h⟩ | ⟨-, -, h⟩⟩ := processMar2Primaria_eq env p { n with flagMezcla := true }
    · rw [h]
      exact trasMar_of_primAddr (by simp [hsec]) (by simp [entrarMar2]) (by simp)
    · rw [h, tomarMar2, cerrarPrimaria_of_not_sec (by simp [hsec])]
      exact trasMar_finMezcla (by simp [hsec]) (by simp [entrarMar2])

/-- An answer to a node that waits ends the merge. -/
lemma trasMan_finMezcla {red : UChar} {env : Env} {m : Node} (hsec : m.secAddrFlag = false)
    (hred : m.redNumero = red) :
    (if m.mezclaCompleta then m.finMezcla env else m).secAddrFlag = false
      ∧ (if m.mezclaCompleta then m.finMezcla env else m).MezclaTerminada red := by
  rw [if_pos (by simp [mezclaCompleta, hsec])]
  exact ⟨by simpa using hsec, by simpa using hred, finMezcla_flagMezcla env m⟩

/-! ## One step -/

/-- **What a message of the merge can do** at a node without a secondary address that is no
initiator: nothing, lead out of the first phase, or end the second. -/
lemma step_esMezcla {red : UChar} {n n' : Node} {e : Event} (hsec : n.secAddrFlag = false)
    (hdef : n.primAddr ≠ dirDefault) (he : esMezcla red e) (h : n.step e = some n') :
    (n.procesaMar e n' = false ∧ n' = n.vaciar)
      ∨ (n.redNumero ≠ red ∧ TrasMar red n n')
      ∨ (n.procesaMar e n' = false ∧ (n.redNumero = red ∧ n.flagMezcla)
        ∧ n'.secAddrFlag = false ∧ n'.MezclaTerminada red) := by
  rcases step_cases h with ⟨env, pkt, rfl, hexp, hrecv⟩ | ⟨now, rfl, -, -⟩
    | ⟨env, t, rest, rfl, -, -⟩ | ⟨hespera, rfl⟩
  · cases pkt with
    | rv p => exact absurd he id
    | ctrl p =>
        obtain ⟨htype, hnum⟩ := he
        have hinit : ¬ (p.adAddr.redNumero = n.vaciar.redNumero ∧ n.vaciar.primAddr = dirDefault) :=
          fun hc => hdef hc.2
        rcases htype with hp | hp | hp | hp
        · simp only [antopProcessPkt, hp] at hrecv
          rw [dispatchMar1_eq, if_neg hinit] at hrecv
          split_ifs at hrecv with hc
          · refine Or.inr (Or.inl ⟨?_, ?_⟩)
            · rw [← hnum]
              exact (hc.1.resolve_right (by simp [vaciar, hsec])).symm
            · rw [← hnum]
              exact trasMar_processMar1 (n := n.vaciar) hsec hrecv
          · refine Or.inl ⟨?_, (Option.some.inj hrecv).symm⟩
            have hc : ¬ ((p.adAddr.redNumero ≠ n.redNumero ∨ n.secAddrFlag)
                ∧ p.adAddr.addr = n.primAddr) := hc
            simp [procesaMar, hp]
            tauto
        · simp only [antopProcessPkt, hp] at hrecv
          split_ifs at hrecv with hc
          · obtain rfl := Option.some.inj hrecv
            refine Or.inr (Or.inl ⟨?_, ?_⟩)
            · rw [← hnum]
              exact (hc.resolve_right (by simp [vaciar, hsec])).symm
            · rw [← hnum]
              exact trasMar_processMar2 env p (n := n.vaciar) hsec
          · refine Or.inl ⟨?_, (Option.some.inj hrecv).symm⟩
            have hc : ¬ (p.adAddr.redNumero ≠ n.redNumero ∨ n.secAddrFlag) := hc
            simp [procesaMar, hp]
            tauto
        · have hmar : n.procesaMar (.recv env (.ctrl p)) n' = false := by simp [procesaMar, hp]
          simp only [antopProcessPkt, hp] at hrecv
          split_ifs at hrecv with hred
          · obtain rfl := Option.some.inj hrecv
            unfold processMan1
            rw [if_neg fun hc => hdef hc.2]
            split_ifs with hm
            · refine Or.inr (Or.inr ⟨by simp [procesaMar, hp], ⟨hred.symm.trans hnum, hm⟩, ?_⟩)
              exact trasMan_finMezcla hsec (hred.symm.trans hnum)
            · exact Or.inl ⟨by simp [procesaMar, hp], rfl⟩
          · exact Or.inl ⟨hmar, (Option.some.inj hrecv).symm⟩
        · have hmar : n.procesaMar (.recv env (.ctrl p)) n' = false := by simp [procesaMar, hp]
          simp only [antopProcessPkt, hp] at hrecv
          split_ifs at hrecv with hred
          · obtain rfl := Option.some.inj hrecv
            unfold processMan2
            split_ifs with hm
            · refine Or.inr (Or.inr ⟨by simp [procesaMar, hp], ⟨hred.symm.trans hnum, hm⟩, ?_⟩)
              exact trasMan_finMezcla hsec (hred.symm.trans hnum)
            · exact Or.inl ⟨by simp [procesaMar, hp], rfl⟩
          · exact Or.inl ⟨hmar, (Option.some.inj hrecv).symm⟩
  · exact absurd he id
  · exact absurd he id
  · refine Or.inl ⟨?_, rfl⟩
    cases e with
    | recv env pkt =>
        cases pkt with
        | ctrl p =>
            have hexp : n.timers.expiredTQ ≠ [] := hespera
            simp [procesaMar, hexp]
        | rv p => exact absurd he id
    | timeout now => exact absurd he id
    | fire env => exact absurd he id

/-- The steps the claim is about: messages of the merge, at a node that is no initiator. -/
def sigueMezcla (red : UChar) (n : Node) (e : Event) : Prop :=
  esMezcla red e ∧ n.primAddr ≠ dirDefault

/-- A `MAR` is processed on the way out of the first phase. -/
lemma once_procesaMar (red : UChar) :
    Once Node.step (fun n => n.secAddrFlag = false) (fun n => n.redNumero = red)
      (fun n e => n.sigueMezcla red e) procesaMar where
  inv n e n' hsec hg h := by
    rcases step_esMezcla hsec hg.2 hg.1 h with ⟨-, rfl⟩ | ⟨-, htras⟩ | ⟨-, -, hsec', -⟩
    · exact hsec
    · exact htras.1
    · exact hsec'
  done n e n' hsec hg h hred := by
    rcases step_esMezcla hsec hg.2 hg.1 h with ⟨-, rfl⟩ | ⟨-, htras⟩ | ⟨-, -, -, hfin⟩
    · exact hred
    · exact htras.2.1
    · exact hfin.1
  never n e n' hsec hg h hred := by
    rcases step_esMezcla hsec hg.2 hg.1 h with ⟨hmar, -⟩ | ⟨hne, -⟩ | ⟨hmar, -⟩
    · exact hmar
    · exact absurd hred hne
    · exact hmar
  reach n e n' hsec hg h hmar := by
    rcases step_esMezcla hsec hg.2 hg.1 h with ⟨hno, -⟩ | ⟨-, htras⟩ | ⟨hno, -⟩
    · exact absurd hmar (by simp [hno])
    · exact htras.2.1
    · exact absurd hmar (by simp [hno])

/-- A message of the merge leaves a node that is done as it is. -/
lemma step_of_terminada {red : UChar} {n n' : Node} {e : Event} (hsec : n.secAddrFlag = false)
    (hg : n.sigueMezcla red e) (h : n.step e = some n') (hfin : n.MezclaTerminada red) :
    n' = n.vaciar := by
  rcases step_esMezcla hsec hg.2 hg.1 h with ⟨-, rfl⟩ | ⟨hne, -⟩ | ⟨-, ⟨-, hm⟩, -⟩
  · rfl
  · exact absurd hfin.1 hne
  · exact absurd hm (by simp [hfin.2])

/-- The address changes on the way into the last phase. -/
lemma once_cambiaPrimAddr (red : UChar) :
    Once Node.step (fun n => n.secAddrFlag = false) (MezclaTerminada red)
      (fun n e => n.sigueMezcla red e) cambiaPrimAddr where
  inv := (once_procesaMar red).inv
  done n e n' hsec hg h hfin := by
    rw [step_of_terminada hsec hg h hfin]
    exact hfin
  never n e n' hsec hg h hfin := by
    rw [step_of_terminada hsec hg h hfin]
    simp [cambiaPrimAddr, vaciar]
  reach n e n' hsec hg h hcambia := by
    rcases step_esMezcla hsec hg.2 hg.1 h with ⟨-, rfl⟩ | ⟨-, htras⟩ | ⟨-, -, -, hfin⟩
    · exact absurd hcambia (by simp [cambiaPrimAddr, vaciar])
    · exact ⟨htras.2.1, htras.2.2 (by simpa [cambiaPrimAddr] using hcambia)⟩
    · exact hfin

/-! ## Runs -/

/-- From where a node is done, the messages of the merge leave its place and its recovered addresses
as they are. -/
lemma states_of_terminada {red : UChar} {n : Node} {es : List Event} (hsec : n.secAddrFlag = false)
    (hfin : n.MezclaTerminada red) (hg : ∀ t ∈ steps Node.step n es, t.1.sigueMezcla red t.2.1) :
    ∀ u ∈ states Node.step n es, u.posicion = n.posicion ∧ u.rcvdAddr = n.rcvdAddr := by
  have hinv : ∀ u ∈ states Node.step n es, (u.secAddrFlag = false ∧ u.MezclaTerminada red)
      ∧ u.posicion = n.posicion ∧ u.rcvdAddr = n.rcvdAddr := by
    refine invariant_of_guard (fun u e u' hu hgu h => ?_) ⟨⟨hsec, hfin⟩, rfl, rfl⟩ hg
    rw [step_of_terminada hu.1.1 hgu h hu.1.2]
    exact hu
  exact fun u hu => (hinv u hu).2

/-- **The messages of a merge are applied at most once.**  A node without a secondary address
that is never the initiator, whatever number it carries, gets any messages of the merge in any
order, any number of times.  It processes at most one `MAR` and changes its address at most once;
once it has changed it, or is done with the merge, nothing moves its block or its recovered
addresses any more. -/
theorem mezcla_once {red : UChar} {n : Node} {es : List Event} (hsec : n.secAddrFlag = false)
    (hes : ∀ e ∈ es, esMezcla red e) (hdef : ∀ u ∈ states Node.step n es, u.primAddr ≠ dirDefault) :
    countSteps Node.step procesaMar n es ≤ 1
      ∧ countSteps Node.step cambiaPrimAddr n es ≤ 1
      ∧ ∀ es₁ es₂ u, es = es₁ ++ es₂ → run Node.step n es₁ = some u →
          0 < countSteps Node.step cambiaPrimAddr n es₁ ∨ u.MezclaTerminada red →
          ∀ v ∈ states Node.step u es₂, v.posicion = u.posicion ∧ v.rcvdAddr = u.rcvdAddr := by
  have hg : ∀ t ∈ steps Node.step n es, t.1.sigueMezcla red t.2.1 := fun t ht =>
    ⟨hes _ (event_mem_of_mem_steps ht), hdef _ (source_mem_states ht)⟩
  refine ⟨(once_procesaMar red).countSteps_le_one hsec hg,
    (once_cambiaPrimAddr red).countSteps_le_one hsec hg, ?_⟩
  rintro es₁ es₂ u rfl hrun hcambio
  rw [steps_append es₂ hrun, List.forall_mem_append] at hg
  have husec : u.secAddrFlag = false :=
    invariant_of_guard (once_procesaMar red).inv hsec hg.1 u (run_mem_states hrun)
  have hfin : u.MezclaTerminada red := by
    rcases hcambio with hpos | hfin
    · exact (once_cambiaPrimAddr red).done_of_countSteps_pos hsec hg.1 hrun (Or.inr hpos)
    · exact hfin
  exact states_of_terminada husec hfin hg.2

/-- A node that has given an address away, `2001:db8::8000:0:0:1` with the mask 2. -/
def hijoConHijo : Node :=
  { primAddrInit 64 "h" with
    primAddr := slotAddr root 0, primMask := 2, primMaskInicial := 1
    iface := {slotAddr root 0}
    neighTable := [
      { primAddr := root, secAddrConn := false, count := 0, primMask := 1, primMaskInicial := 0
        available := true },
      { primAddr := slotAddr (slotAddr root 0) 1, secAddrConn := false, count := 0, primMask := 2
        primMaskInicial := 2, available := true }]
    neighborToRoot := { addr := root, distance := 0 } }

/-- The first `MAR1` of a merge, from the initiator that has the address of the root. -/
def primerMar1 : CtrlPkt :=
  { CtrlPkt.zero with
    pktTypeF := .mar1, srcAddr := root, primAddr := dirDefault
    adAddr := { tLenght := 0, addr := slotAddr root 0, mask := 1, redNumero := 5 } }

/-- The first `MAR1` twice, an answer twice and the `MAR1` again: the address changes with the first
answer only. -/
theorem mezcla_once_hijoConHijo :
    let man1 := { primerMar1 with pktTypeF := .man1 }
    let es := [primerMar1, primerMar1, man1, man1, primerMar1].map fun p =>
      Event.recv .zero (.ctrl p)
    countSteps Node.step procesaMar hijoConHijo es ≤ 1
      ∧ countSteps Node.step cambiaPrimAddr hijoConHijo es ≤ 1 := by
  intro man1 es
  have hone := @mezcla_once 5 hijoConHijo es rfl
    (by simp [es, man1, primerMar1, esMezcla]) (by decide +kernel)
  exact ⟨hone.1, hone.2.1⟩

end Node

end Antop
