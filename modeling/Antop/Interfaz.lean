import Antop.Dispatch

/-!
# The addresses of the interface

`prim_addr` and `sec_addr` are variables, and the addresses of the interface are set apart from
them, by `add`, `del` and `del_and_addnew`.

* `Concuerda` — the addresses of the interface are the primary one and, with `sec_addr_flag`, the
  secondary one.  The lemmas from `concuerda_mover` on say what setting, deleting and
  `del_and_addnew` make of it.
* `Node.guardaInterfaz` — what each handler needs to keep variables and interface in agreement.
* `interfaz_concuerda_iff` — a run keeps them so exactly when all its steps meet that.
-/

namespace Antop

open Transition

/-! ## Sets of one or two addresses -/

/-- The interface has the primary address and, with the flag, the secondary one. -/
def Concuerda (iface : Finset In6Addr) (prim sec : In6Addr) (flag : Bool) : Prop :=
  iface = if flag then {prim, sec} else {prim}

instance (iface : Finset In6Addr) (prim sec : In6Addr) (flag : Bool) :
    Decidable (Concuerda iface prim sec flag) := by
  unfold Concuerda
  infer_instance

/-- When `del_and_addnew` may move the primary address to `a`.  The protected value is that of
`sec_addr`, whether or not it is in use. -/
def MoverOk (prim sec : In6Addr) (flag : Bool) (a : In6Addr) : Prop :=
  if flag then ¬ (a = sec ∧ prim = sec) else a ≠ sec ∧ prim ≠ sec

/-- When `del_and_addnew` may move the secondary address to `a`: it is in use. -/
def MoverSecundariaOk (prim sec : In6Addr) (flag : Bool) (a : In6Addr) : Prop :=
  if flag then ¬ (a = prim ∧ sec = prim) else a = prim ∧ sec ≠ prim

variable {iface : Finset In6Addr} {prim sec : In6Addr} {flag : Bool}

lemma pair_eq_singleton_iff (a b : In6Addr) : ({a, b} : Finset In6Addr) = {a} ↔ b = a := by
  constructor
  · intro h
    have hb : b ∈ ({a, b} : Finset In6Addr) := by simp
    rw [h] at hb
    simpa using hb
  · rintro rfl
    simp

/-- Moving the primary address. -/
lemma concuerda_mover (h : Concuerda iface prim sec flag) (a : In6Addr) :
    Concuerda (Node.cambiarIface sec prim a iface) a sec flag ↔ MoverOk prim sec flag a := by
  subst h
  unfold Concuerda Node.cambiarIface MoverOk
  by_cases ha : a = sec
  · subst ha
    cases flag
    · simp
    · by_cases hp : prim = a
      · subst hp
        simp
      · simp [hp]
  · by_cases hp : prim = sec
    · subst hp
      cases flag
      · simpa [ha, pair_eq_singleton_iff] using fun hc => ha hc.symm
      · simp [ha]
    · cases flag
      · simp [ha, hp]
      · simp [ha, hp]

/-- Moving the secondary address. -/
lemma concuerda_moverSecundaria (h : Concuerda iface prim sec flag) (a : In6Addr) :
    Concuerda (Node.cambiarIface prim sec a iface) prim a flag
      ↔ MoverSecundariaOk prim sec flag a := by
  subst h
  unfold Concuerda Node.cambiarIface MoverSecundariaOk
  by_cases ha : a = prim
  · subst ha
    by_cases hs : sec = a
    · subst hs
      cases flag
      · simp
      · simp
    · cases flag
      · simp [hs]
      · simp [hs, Finset.pair_comm a sec]
  · by_cases hs : sec = prim
    · subst hs
      cases flag
      · simp [ha]
      · simpa [ha] using Finset.pair_comm a sec
    · cases flag
      · simp [ha, hs]
      · have herase : ({prim, sec} : Finset In6Addr).erase sec = {prim} := by
          rw [Finset.pair_comm, Finset.erase_insert (by simpa using hs)]
        simpa [ha, hs, herase] using Finset.pair_comm a prim

/-- Taking an address back. -/
lemma concuerda_volver (h : Concuerda iface prim sec flag) (a : In6Addr) :
    Concuerda (insert a (iface.erase prim)) a sec flag ↔ (flag → sec = prim → sec = a) := by
  subst h
  unfold Concuerda
  cases flag
  · simp
  · by_cases hs : sec = prim
    · subst hs
      have hpair : ({a} : Finset In6Addr) = {a, sec} ↔ sec = a :=
        eq_comm.trans (pair_eq_singleton_iff a sec)
      simpa using hpair
    · have herase : ({prim, sec} : Finset In6Addr).erase prim = {sec} := by
        rw [Finset.erase_insert (by simpa using Ne.symm hs)]
      simp [herase, hs]

/-- An interface that lacks the secondary address does not get it back by moving the primary one. -/
lemma not_concuerda_mover (hne : prim ≠ sec) (a : In6Addr) :
    ¬ Concuerda (Node.cambiarIface sec prim a {prim}) a sec true := by
  unfold Concuerda Node.cambiarIface
  by_cases ha : a = sec
  · subst ha
    simp
  · intro h
    have hmem : sec ∈ ({a, sec} : Finset In6Addr) := by simp
    rw [← if_pos (c := true = true) (t := ({a, sec} : Finset In6Addr)) (e := {a}) rfl, ← h] at hmem
    simp [ha, hne, Ne.symm ha] at hmem

/-- Setting a secondary address. -/
lemma concuerda_agregar (h : Concuerda iface prim sec flag) (a : In6Addr) :
    Concuerda (insert a iface) prim a true ↔ (flag → sec = a ∨ sec = prim) := by
  subst h
  unfold Concuerda
  cases flag
  · simpa using Finset.pair_comm a prim
  · simp only [if_true, forall_const]
    constructor
    · intro heq
      have hmem : sec ∈ insert a ({prim, sec} : Finset In6Addr) := by simp
      rw [heq, Finset.mem_insert, Finset.mem_singleton] at hmem
      exact hmem.symm
    · rintro (rfl | rfl)
      · simp [Finset.pair_comm]
      · simpa using Finset.pair_comm a sec

/-- Taking the address `d` while the old one is still there. -/
lemma concuerda_default (h : Concuerda iface prim sec flag) (d : In6Addr) :
    Concuerda (insert d (iface.erase d)) d sec flag ↔ prim = d ∨ flag ∧ prim = sec := by
  have hkeep : insert d (iface.erase d) = insert d iface := by
    ext x
    simp only [Finset.mem_insert, Finset.mem_erase]
    tauto
  rw [Concuerda, hkeep, h]
  cases flag
  · simpa using pair_eq_singleton_iff d prim
  · simp only [if_true, true_and]
    constructor
    · intro heq
      have hmem : prim ∈ insert d ({prim, sec} : Finset In6Addr) := by simp
      rw [heq, Finset.mem_insert, Finset.mem_singleton] at hmem
      exact hmem
    · rintro (rfl | rfl)
      · simp
      · simp

/-- Dropping the secondary address. -/
lemma concuerda_soltar (h : Concuerda iface prim sec true) :
    Concuerda (iface.erase sec) prim .zero false ↔ prim ≠ sec := by
  subst h
  unfold Concuerda
  by_cases hp : prim = sec
  · subst hp
    simp
  · have herase : ({prim, sec} : Finset In6Addr).erase sec = {prim} := by
      rw [Finset.pair_comm, Finset.erase_insert (by simpa using Ne.symm hp)]
    simp [hp, herase]

/-- Resetting the primary address to `r` and dropping the null address, not the secondary one. -/
lemma concuerda_reiniciar (h : Concuerda iface prim sec true) {r : In6Addr} (hr : r ≠ .zero) :
    Concuerda ((insert r (iface.erase prim)).erase .zero) r .zero false
      ↔ sec = prim ∨ sec = r ∨ sec = .zero := by
  subst h
  unfold Concuerda
  simp only [if_true, Bool.false_eq_true, if_false]
  constructor
  · intro heq
    by_contra hno
    push Not at hno
    have hmem : sec ∈ (insert r (({prim, sec} : Finset In6Addr).erase prim)).erase .zero := by
      simp [hno]
    rw [heq, Finset.mem_singleton] at hmem
    exact hno.2.1 hmem
  · intro hsec
    ext x
    simp only [Finset.mem_erase, Finset.mem_insert, Finset.mem_singleton]
    constructor
    · rintro ⟨hx, rfl | ⟨hxp, rfl | rfl⟩⟩
      · rfl
      · exact absurd rfl hxp
      · exact (hsec.resolve_left hxp).resolve_right hx
    · rintro rfl
      exact ⟨hr, Or.inl rfl⟩

namespace Node

/-- The variables of the node agree with its interface. -/
def InterfazOk (n : Node) : Prop := Concuerda n.iface n.primAddr n.secAddr n.secAddrFlag

instance (n : Node) : Decidable n.InterfazOk := by
  unfold InterfazOk
  infer_instance

/-- The primary address may be moved to `a`. -/
def moverOk (n : Node) (a : In6Addr) : Prop := MoverOk n.primAddr n.secAddr n.secAddrFlag a

/-- The secondary address may be moved to `a`. -/
def moverSecundariaOk (n : Node) (a : In6Addr) : Prop :=
  MoverSecundariaOk n.primAddr n.secAddr n.secAddrFlag a

/-- The initiator may take its address back. -/
def volverOk (n : Node) : Prop :=
  n.secAddrFlag → n.secAddr = n.primAddr → n.secAddr = n.primAddrAux

@[simp] lemma interfazOk_finFragmentacion (env : Env) (n : Node) :
    (n.finFragmentacion env).InterfazOk ↔ n.InterfazOk := by simp [InterfazOk]

@[simp] lemma interfazOk_finMezcla (env : Env) (n : Node) :
    (n.finMezcla env).InterfazOk ↔ n.InterfazOk := by simp [InterfazOk]

@[simp] lemma interfazOk_registerRv (env : Env) (n : Node) :
    (registerRv env n).InterfazOk ↔ n.InterfazOk := by simp [InterfazOk]

/-! ## The handlers -/

/-- `process_san1`: a secondary address in use is not taken off the interface. -/
lemma InterfazOk.processSan1_iff {n n' : Node} (h : n.InterfazOk) {msg : CtrlPkt}
    (hstep : n.processSan1 msg = some n') :
    n'.InterfazOk ↔ (n.secAddrFlag → n.secAddr = msg.adAddr.addr ∨ n.secAddr = n.primAddr) := by
  obtain ⟨t, rfl⟩ := processSan1_eq hstep
  exact concuerda_agregar h msg.adAddr.addr

/-- `fragmentacion`. -/
lemma InterfazOk.fragmentacion_iff {n : Node} (h : n.InterfazOk) (env : Env) :
    (n.fragmentacion env).InterfazOk
      ↔ n.moverOk (shift n.hcDim 1 n.primMaskInicial.toNat root n.primAddr) := by
  rw [fragmentacion_eq]
  exact concuerda_mover h _

/-- What `process_far` needs. -/
def guardaFar (p : CtrlPkt) (n : Node) : Prop :=
  if p.adAddr.addr = n.secAddr then
    n.moverSecundariaOk (shift n.hcDim 1 p.adAddr.mask.toNat root n.secAddr)
  else n.moverOk (shift n.hcDim 1 p.adAddr.mask.toNat root n.primAddr)

/-- `process_far`. -/
lemma InterfazOk.processFar_iff {n n' : Node} (h : n.InterfazOk) {env : Env} {p : CtrlPkt}
    (hstep : n.processFar env p = some n') : n'.InterfazOk ↔ n.guardaFar p := by
  unfold processFar at hstep
  unfold guardaFar
  dsimp only at hstep
  split_ifs at hstep ⊢ with hsec
  · obtain rfl := Option.some.inj hstep
    obtain ⟨o, heq⟩ := processFarSecundaria_eq env p { n with flagFragmentacion := true }
    have hmover := concuerda_moverSecundaria h
      (shift n.hcDim 1 p.adAddr.mask.toNat root n.secAddr)
    rw [heq]
    dsimp only
    split_ifs
    · rw [interfazOk_finFragmentacion]
      exact hmover
    · exact hmover
  · obtain ⟨t, rv, o, fin, rfl⟩ := processFarPrimaria_eq hstep
    have hmover := concuerda_mover h (shift n.hcDim 1 p.adAddr.mask.toNat root n.primAddr)
    cases fin
    · exact hmover
    · rw [if_pos rfl, interfazOk_finFragmentacion]
      exact hmover

/-- `mezcla`: the old address stays on the interface. -/
lemma InterfazOk.mezcla_iff {n : Node} (h : n.InterfazOk) (env : Env) (dst : In6Addr) :
    (n.mezcla env dst).InterfazOk
      ↔ n.primAddr = dirDefault ∨ n.secAddrFlag ∧ n.primAddr = n.secAddr := by
  exact concuerda_default h dirDefault

/-- What `process_mar1` needs.  A node that waits does not move. -/
def guardaMar1 (p : CtrlPkt) (n : Node) : Prop :=
  if p.adAddr.addr = n.secAddr then
    n.moverSecundariaOk (shiftMezcla n.hcDim p.srcAddr n.secAddr p.adAddr.mask.toNat
      p.adAddr.tLenght.toNat)
  else
    n.esperaMar1 p = false → n.moverOk (shiftMezcla n.hcDim p.srcAddr n.primAddr
      p.adAddr.mask.toNat (n.maskQueCae p).toNat)

/-- Taking over the address of a `MAR1`. -/
lemma InterfazOk.tomarMar1_iff {n : Node} (h : n.InterfazOk) (env : Env) (p : CtrlPkt) :
    (n.tomarMar1 env p).InterfazOk ↔ n.moverOk (shiftMezcla n.hcDim p.srcAddr n.primAddr
      p.adAddr.mask.toNat n.primMaskMezcla.toNat) := by
  rw [tomarMar1, InterfazOk]
  simp only [cerrarPrimaria_frame, moverRecuperadas_frame, adoptarMar1_frame]
  exact concuerda_mover h _

/-- `process_mar1`. -/
lemma InterfazOk.processMar1_iff {n n' : Node} (h : n.InterfazOk) {env : Env} {p : CtrlPkt}
    (hstep : n.processMar1 env p = some n') : n'.InterfazOk ↔ n.guardaMar1 p := by
  unfold processMar1 at hstep
  unfold guardaMar1
  dsimp only at hstep
  split_ifs at hstep ⊢ with hsec
  · obtain rfl := Option.some.inj hstep
    obtain ⟨o, heq⟩ := processMar1Secundaria_eq env p { n with flagMezcla := true }
    have hmover := concuerda_moverSecundaria h (shiftMezcla n.hcDim p.srcAddr n.secAddr
      p.adAddr.mask.toNat p.adAddr.tLenght.toNat)
    rw [heq]
    dsimp only
    split_ifs
    · rw [interfazOk_finMezcla]
      exact hmover
    · exact hmover
  · obtain ⟨t, rv, o, ⟨hespera, rfl⟩ | ⟨hespera, -, rfl⟩⟩ := processMar1Primaria_eq hstep
    · have hespera : n.esperaMar1 p = true := hespera
      simp only [hespera, Bool.true_eq_false, false_imp_iff, iff_true]
      simp only [InterfazOk, conTablas_frame, sumarMask_frame, entrarMar1_frame]
      exact h
    · have hespera : n.esperaMar1 p = false := hespera
      rw [InterfazOk.tomarMar1_iff]
      · simp only [hespera, forall_const, moverOk, conTablas_frame, sumarMask_frame,
          entrarMar1_frame]
        rfl
      · simp only [InterfazOk, conTablas_frame, sumarMask_frame, entrarMar1_frame]
        exact h

/-- What `process_mar2` needs. -/
def guardaMar2 (p : CtrlPkt) (n : Node) : Prop :=
  if p.adAddr.addr = n.secAddr then
    n.moverSecundariaOk (mar2Addr n.hcDim p.srcAddr p.adAddr.mask)
  else n.esperaMar2 p = false → n.moverOk (mar2Addr n.hcDim p.srcAddr p.adAddr.mask)

/-- Taking over an address as a whole. -/
lemma InterfazOk.adoptarMar2_iff {n : Node} (h : n.InterfazOk) (aux1 : In6Addr) :
    (n.adoptarMar2 aux1).InterfazOk ↔ n.moverOk aux1 := concuerda_mover h _

/-- `process_mar2`. -/
lemma InterfazOk.processMar2_iff {n : Node} (h : n.InterfazOk) (env : Env) (p : CtrlPkt) :
    (n.processMar2 env p).InterfazOk ↔ n.guardaMar2 p := by
  unfold processMar2 guardaMar2
  dsimp only
  split_ifs with hsec
  · obtain ⟨o, heq⟩ := processMar2Secundaria_eq env p { n with flagMezcla := true }
    have hmover := concuerda_moverSecundaria h (mar2Addr n.hcDim p.srcAddr p.adAddr.mask)
    rw [heq]
    dsimp only
    split_ifs
    · rw [interfazOk_finMezcla]
      exact hmover
    · exact hmover
  · obtain ⟨t, rv, o, ⟨hespera, heq⟩ | ⟨hespera, -, heq⟩⟩ :=
      processMar2Primaria_eq env p { n with flagMezcla := true }
    · have hespera : n.esperaMar2 p = true := hespera
      rw [heq]
      simp only [hespera, Bool.true_eq_false, false_imp_iff, iff_true]
      simp only [InterfazOk, conTablas_frame, sumarMask_frame, entrarMar2_frame]
      exact h
    · have hespera : n.esperaMar2 p = false := hespera
      have hcerrar (m : Node) : (m.tomarMar2 env (mar2Addr n.hcDim p.srcAddr p.adAddr.mask)).InterfazOk
          ↔ (m.adoptarMar2 (mar2Addr n.hcDim p.srcAddr p.adAddr.mask)).InterfazOk := by
        simp only [tomarMar2, InterfazOk, cerrarPrimaria_frame]
      rw [heq, hcerrar, InterfazOk.adoptarMar2_iff]
      · simp only [hespera, forall_const, moverOk, conTablas_frame, sumarMask_frame,
          entrarMar2_frame]
      · simp only [InterfazOk, conTablas_frame, sumarMask_frame, entrarMar2_frame]
        exact h

/-- The initiator takes its address back. -/
lemma InterfazOk.volverDelDefault_iff {n : Node} (h : n.InterfazOk) :
    n.volverDelDefault.InterfazOk ↔ n.volverOk := concuerda_volver h _

/-- What `process_man1` needs. -/
def guardaMan1 (p : CtrlPkt) (n : Node) : Prop :=
  if n.flagMezcla ∧ n.primAddr = dirDefault then n.volverOk
  else n.flagMezcla → n.moverOk (shiftMezcla n.hcDim p.srcAddr n.primAddr p.adAddr.mask.toNat
    n.primMaskMezcla.toNat)

/-- `process_man1`. -/
lemma InterfazOk.processMan1_iff {n : Node} (h : n.InterfazOk) (env : Env) (p : CtrlPkt) :
    (n.processMan1 env p).InterfazOk ↔ n.guardaMan1 p := by
  unfold processMan1 guardaMan1
  by_cases hini : n.flagMezcla ∧ n.primAddr = dirDefault
  · rw [if_pos hini, if_pos hini]
    dsimp only
    split_ifs
    · exact h.volverDelDefault_iff
    · exact h.volverDelDefault_iff
  · rw [if_neg hini, if_neg hini]
    by_cases hm : n.flagMezcla
    · have hmover : ((n.adoptarMar1 p).moverRecuperadas p).InterfazOk ↔ n.moverOk
          (shiftMezcla n.hcDim p.srcAddr n.primAddr p.adAddr.mask.toNat n.primMaskMezcla.toNat) := by
        simp only [InterfazOk, moverRecuperadas_frame, adoptarMar1_frame]
        exact concuerda_mover h _
      rw [if_pos hm]
      dsimp only
      split_ifs
      · rw [interfazOk_finMezcla, hmover]
        exact ⟨fun hc _ => hc, fun hc => hc hm⟩
      · rw [hmover]
        exact ⟨fun hc _ => hc, fun hc => hc hm⟩
    · rw [if_neg hm]
      exact iff_of_true h fun hc => absurd hc hm

/-- `process_man2`. -/
lemma InterfazOk.processMan2_iff {n : Node} (h : n.InterfazOk) (env : Env) (p : CtrlPkt) :
    (n.processMan2 env p).InterfazOk ↔ (n.flagMezcla → n.moverOk p.srcAddr) := by
  unfold processMan2
  by_cases hm : n.flagMezcla
  · rw [if_pos hm]
    dsimp only
    split_ifs
    · rw [interfazOk_finMezcla, h.adoptarMar2_iff]
      exact ⟨fun hc _ => hc, fun hc => hc hm⟩
    · rw [h.adoptarMar2_iff]
      exact ⟨fun hc _ => hc, fun hc => hc hm⟩
  · rw [if_neg hm]
    exact iff_of_true h fun hc => absurd hc hm

/-! ## The heartbeat timer -/

/-- What the checks of `send_hb` need.  A node that is reset deletes the null address instead of its
secondary one. -/
def guardaHb (n : Node) : Prop :=
  if n.estaSolo then
    n.secAddrFlag → n.secAddr = n.primAddr ∨ n.secAddr = root ∨ n.secAddr = .zero
  else n.secAddrFlag → ¬ n.secondaryLinkAlive → n.primAddr ≠ n.secAddr

/-- What `check_neigh_of_secondary_address` does to the addresses. -/
lemma interfazOk_checkNeigh (n : Node) :
    n.checkNeighOfSecondaryAddress.InterfazOk ↔
      if n.secAddrFlag ∧ ¬ n.secondaryLinkAlive then
        Concuerda (n.iface.erase n.secAddr) n.primAddr .zero false
      else n.InterfazOk := by
  unfold checkNeighOfSecondaryAddress
  by_cases hs : n.secAddrFlag ∧ ¬ n.secondaryLinkAlive
  · rw [if_pos hs, if_pos hs]
    dsimp only
    split_ifs
    · exact Iff.rfl
    · exact Iff.rfl
  · rw [if_neg hs, if_neg hs]

lemma root_ne_zero : root ≠ .zero := by decide

/-- The checks of `send_hb`. -/
lemma InterfazOk.sendHbChecks_iff {n : Node} (h : n.InterfazOk) (env : Env) :
    (n.sendHbChecks env).InterfazOk ↔ (!n.flagFragmentacion ∧ !n.flagMezcla → n.guardaHb) := by
  unfold sendHbChecks guardaHb
  by_cases hidle : !n.flagFragmentacion ∧ !n.flagMezcla
  · have himp (P : Prop) : (!n.flagFragmentacion ∧ !n.flagMezcla → P) ↔ P :=
      ⟨fun hc => hc hidle, fun hc _ => hc⟩
    have hnsl (m : Node) : m.checkNSLTable.InterfazOk ↔ m.InterfazOk := Iff.rfl
    rw [if_pos hidle, himp, hnsl, interfazOk_checkNeigh]
    by_cases hsolo : n.estaSolo
    · rw [if_pos hsolo, checkIfIAmOnly, if_pos hsolo]
      by_cases hs : n.secAddrFlag
      · have hcon : Concuerda n.iface n.primAddr n.secAddr true := hs ▸ h
        rw [if_pos ⟨hs, not_secondaryLinkAlive_of_nil hsolo.1⟩]
        exact (concuerda_reiniciar hcon root_ne_zero).trans ⟨fun hc _ => hc, fun hc => hc hs⟩
      · rw [if_neg fun hc => hs hc.1]
        refine iff_of_true ?_ fun hc => absurd hc hs
        have hflag : n.secAddrFlag = false := by simpa using hs
        have hcon : Concuerda n.iface n.primAddr .zero false := by
          simpa [InterfazOk, Concuerda, hflag] using h
        have hback := (concuerda_volver hcon root).mpr (by simp)
        rw [← hflag] at hback
        exact hback
    · rw [if_neg hsolo, checkIfIAmOnly, if_neg hsolo]
      by_cases hc : n.secAddrFlag ∧ ¬ n.secondaryLinkAlive
      · have hcon : Concuerda n.iface n.primAddr n.secAddr true := hc.1 ▸ h
        rw [if_pos hc]
        exact (concuerda_soltar hcon).trans ⟨fun hb _ _ => hb, fun hb => hb hc.1 hc.2⟩
      · rw [if_neg hc]
        exact iff_of_true h fun h₁ h₂ => absurd ⟨h₁, h₂⟩ hc
  · rw [if_neg hidle]
    exact iff_of_true h fun hc => absurd hc hidle

/-! ## One step -/

/-- What a heartbeat needs: it starts no merge at a node whose old address is to go, and a
fragmentation it starts may move the address. -/
def guardaProcessHb (env : Env) (hb : CtrlPkt) (n : Node) : Prop :=
  (n.iniciaMezcla hb → n.primAddr = dirDefault ∨ n.secAddrFlag ∧ n.primAddr = n.secAddr)
    ∧ (n.escucha env hb → ∀ m, n.oirVecino hb (n.porSecundaria hb) = some m → m.seFragmenta env →
        n.moverOk (shift n.hcDim 1 n.primMaskInicial.toNat root n.primAddr))

/-- `process_hb`. -/
lemma InterfazOk.processHb_iff {n n' : Node} (h : n.InterfazOk) {env : Env} {hb : CtrlPkt}
    (hstep : n.processHb env hb = some n') : n'.InterfazOk ↔ n.guardaProcessHb env hb := by
  unfold guardaProcessHb
  by_cases hini : n.iniciaMezcla hb
  · rw [processHb_of_iniciaMezcla hini, Option.some.injEq] at hstep
    subst hstep
    have hsorda : ¬ n.escucha env hb := fun hesc => escucha_not_iniciaMezcla hesc hini
    rw [h.mezcla_iff]
    exact ⟨fun hc => ⟨fun _ => hc, fun hesc => absurd hesc hsorda⟩, fun hc => hc.1 hini⟩
  · by_cases hesc : n.escucha env hb
    · rw [processHb_of_escucha hesc] at hstep
      obtain ⟨m, hm, rfl⟩ := Option.map_eq_some_iff.mp hstep
      have hmOk : m.InterfazOk := by
        rw [oirVecino_eq hm]
        exact h
      have hsame : m.moverOk (shift m.hcDim 1 m.primMaskInicial.toNat root m.primAddr)
          ↔ n.moverOk (shift n.hcDim 1 n.primMaskInicial.toNat root n.primAddr) := by
        rw [oirVecino_eq hm]
        exact Iff.rfl
      have hguard : ((n.iniciaMezcla hb → n.primAddr = dirDefault
            ∨ n.secAddrFlag ∧ n.primAddr = n.secAddr)
          ∧ (n.escucha env hb → ∀ m, n.oirVecino hb (n.porSecundaria hb) = some m →
            m.seFragmenta env →
              n.moverOk (shift n.hcDim 1 n.primMaskInicial.toNat root n.primAddr)))
          ↔ (m.seFragmenta env →
              m.moverOk (shift m.hcDim 1 m.primMaskInicial.toNat root m.primAddr)) := by
        rw [hsame]
        refine ⟨fun hg => hg.2 hesc m hm, fun hg => ⟨fun hc => absurd hc hini, ?_⟩⟩
        intro _ m' hm' hfrag
        obtain rfl := Option.some.inj (hm.symm.trans hm')
        exact hg hfrag
      rw [hguard]
      by_cases hfrag : m.seFragmenta env
      · have hcon : m.conVecinoRaiz.InterfazOk := hmOk
        rw [detectorDeFragmentacion_of_seFragmenta hfrag, hcon.fragmentacion_iff]
        exact ⟨fun hc _ => hc, fun hc => hc hfrag⟩
      · refine iff_of_true ?_ fun hc => absurd hc hfrag
        rcases detectorDeFragmentacion_cases env m with heq | heq | ⟨hc, -⟩
        · rwa [heq]
        · rw [heq]
          exact hmOk
        · exact absurd hc hfrag
    · refine iff_of_true ?_ ⟨fun hc => absurd hc hini, fun hc => absurd hc hesc⟩
      rcases processHb_cases hstep with rfl | ⟨hc, -⟩ | rfl | ⟨hc, -⟩
      · exact h
      · exact absurd hc hini
      · obtain ⟨ts, o, f, l, heq, -⟩ := chkSecAddr1_eq env hb.primAddr n
        rw [heq]
        exact h
      · exact absurd hc hesc

lemma not_interfazOk_tomarMar1 {n : Node} {env : Env} {p : CtrlPkt} (hiface : n.iface = {n.primAddr})
    (hflag : n.secAddrFlag = true) (hne : n.primAddr ≠ n.secAddr) :
    ¬ (n.tomarMar1 env p).InterfazOk := by
  have hmover := not_concuerda_mover hne (shiftMezcla n.hcDim p.srcAddr n.primAddr
    p.adAddr.mask.toNat n.primMaskMezcla.toNat)
  rw [← hiface] at hmover
  rw [tomarMar1, InterfazOk]
  simp only [cerrarPrimaria_frame, moverRecuperadas_frame, adoptarMar1_frame]
  rw [hflag]
  exact hmover

/-- A node whose interface lacks its secondary address does not get it back with a `MAR1` for the
primary one. -/
lemma not_interfazOk_processMar1 {n n' : Node} {env : Env} {p : CtrlPkt}
    (hiface : n.iface = {n.primAddr}) (hflag : n.secAddrFlag = true) (hne : n.primAddr ≠ n.secAddr)
    (haddr : p.adAddr.addr ≠ n.secAddr) (hstep : n.processMar1 env p = some n') :
    ¬ n'.InterfazOk := by
  unfold processMar1 at hstep
  dsimp only at hstep
  rw [if_neg haddr] at hstep
  obtain ⟨t, rv, o, ⟨-, rfl⟩ | ⟨-, -, rfl⟩⟩ := processMar1Primaria_eq hstep
  · simp only [InterfazOk, conTablas_frame, sumarMask_frame, entrarMar1_frame]
    rw [hiface, hflag, Concuerda, if_pos rfl, eq_comm, pair_eq_singleton_iff]
    exact hne.symm
  · refine not_interfazOk_tomarMar1 ?_ ?_ ?_
    · simpa using hiface
    · simpa using hflag
    · simpa using hne

/-- What a packet needs to keep variables and interface in agreement. -/
def guardaInterfazPaquete (env : Env) (p : CtrlPkt) (n : Node) : Prop :=
  match p.pktTypeF with
  | .san => n.secAddrFlag → n.secAddr = p.adAddr.addr ∨ n.secAddr = n.primAddr
  | .hb => n.guardaProcessHb env p
  | .far => n.guardaFar p
  | .mar1 =>
      if p.adAddr.redNumero = n.redNumero ∧ n.primAddr = dirDefault then
        n.volverOk ∧ (n.secAddrFlag ∧ p.adAddr.addr = n.primAddrAux →
          n.volverDelDefault.guardaMar1 p)
      else
        (p.adAddr.redNumero ≠ n.redNumero ∨ n.secAddrFlag) ∧ p.adAddr.addr = n.primAddr →
          n.guardaMar1 p
  | .mar2 => p.adAddr.redNumero ≠ n.redNumero ∨ n.secAddrFlag → n.guardaMar2 p
  | .man1 => p.adAddr.redNumero = n.redNumero → n.guardaMan1 p
  | .man2 => p.adAddr.redNumero = n.redNumero → n.flagMezcla → n.moverOk p.srcAddr
  | _ => True

/-- What a step needs to keep variables and interface in agreement. -/
def guardaInterfaz (n : Node) : Event → Prop
  | .recv env (.ctrl p) => n.timers.expiredTQ = [] → n.vaciar.guardaInterfazPaquete env p
  | .fire _ => (n.timers.expiredTQ.head?.map Timer.id) = some .hbT →
      !n.flagFragmentacion ∧ !n.flagMezcla → n.guardaHb
  | _ => True

/-- `MAR1`, with the initiator that takes its address back first. -/
lemma InterfazOk.dispatchMar1_iff {n n' : Node} (h : n.InterfazOk) {env : Env} {p : CtrlPkt}
    (hstep : n.dispatchMar1 env p = some n') :
    n'.InterfazOk ↔
      if p.adAddr.redNumero = n.redNumero ∧ n.primAddr = dirDefault then
        n.volverOk ∧ (n.secAddrFlag ∧ p.adAddr.addr = n.primAddrAux →
          n.volverDelDefault.guardaMar1 p)
      else
        (p.adAddr.redNumero ≠ n.redNumero ∨ n.secAddrFlag) ∧ p.adAddr.addr = n.primAddr →
          n.guardaMar1 p := by
  rw [dispatchMar1_eq] at hstep
  by_cases hini : p.adAddr.redNumero = n.redNumero ∧ n.primAddr = dirDefault
  · rw [if_pos hini] at hstep ⊢
    by_cases hc : n.secAddrFlag ∧ p.adAddr.addr = n.primAddrAux
    · rw [if_pos hc] at hstep
      by_cases hv : n.volverOk
      · rw [(h.volverDelDefault_iff.mpr hv).processMar1_iff hstep]
        exact ⟨fun hg => ⟨hv, fun _ => hg⟩, fun hg => hg.2 hc⟩
      · -- the secondary address was `dir_default` too, and is off the interface now
        refine iff_of_false ?_ fun hg => hv hg.1
        unfold volverOk at hv
        push Not at hv
        obtain ⟨hflag, hsec, hne⟩ := hv
        refine not_interfazOk_processMar1 (n := n.volverDelDefault) ?_ hflag
          (fun heq => hne heq.symm) ?_ hstep
        · have hiface : n.iface = {n.primAddr} := by
            rw [InterfazOk, Concuerda, hflag, hsec] at h
            simpa using h
          change insert n.primAddrAux (n.iface.erase n.primAddr) = {n.primAddrAux}
          rw [hiface, Finset.erase_singleton]
          rfl
        · rw [hc.2]
          exact fun heq => hne heq.symm
    · rw [if_neg hc] at hstep
      obtain rfl := Option.some.inj hstep
      rw [h.volverDelDefault_iff]
      exact ⟨fun hv => ⟨hv, fun hb => absurd hb hc⟩, fun hg => hg.1⟩
  · rw [if_neg hini] at hstep ⊢
    exact iff_of_ite hstep h h.processMar1_iff

/-- **One packet.** -/
lemma InterfazOk.paquete_iff {n n' : Node} (h : n.InterfazOk) {env : Env} {p : CtrlPkt}
    (hstep : antopProcessPkt env (.ctrl p) n = some n') :
    n'.InterfazOk ↔ n.guardaInterfazPaquete env p := by
  unfold antopProcessPkt at hstep
  unfold guardaInterfazPaquete
  dsimp only at hstep
  cases hp : p.pktTypeF with
  | san =>
      simp only [hp] at hstep
      exact h.processSan1_iff hstep
  | hb =>
      simp only [hp] at hstep
      split_ifs at hstep with hflags
      · obtain rfl := Option.some.inj hstep
        refine iff_of_true h ⟨fun hini => ?_, fun hesc => ?_⟩
        · exact absurd hflags (not_or.mpr hini.1)
        · exact absurd hflags (not_or.mpr hesc.1)
      · exact h.processHb_iff hstep
  | far =>
      simp only [hp] at hstep
      exact h.processFar_iff hstep
  | mar1 =>
      simp only [hp] at hstep
      exact h.dispatchMar1_iff hstep
  | mar2 =>
      simp only [hp] at hstep
      refine iff_of_ite hstep h fun hs => ?_
      rw [← Option.some.inj hs, h.processMar2_iff]
  | man1 =>
      simp only [hp] at hstep
      refine iff_of_ite hstep h fun hs => ?_
      rw [← Option.some.inj hs, h.processMan1_iff]
  | man2 =>
      simp only [hp] at hstep
      refine iff_of_ite hstep h fun hs => ?_
      rw [← Option.some.inj hs, h.processMan2_iff]
  | pan =>
      simp only [hp] at hstep
      refine iff_of_true ?_ trivial
      split_ifs at hstep
      · exact Option.some.inj hstep ▸ h
      · obtain rfl := Option.some.inj hstep
        unfold sendPanc
        dsimp only
        split_ifs
        · exact h
        · exact h
      · exact Option.some.inj hstep ▸ h
  | sap =>
      simp only [hp] at hstep
      refine iff_of_true ?_ trivial
      split_ifs at hstep
      · exact Option.some.inj hstep ▸ h
      · exact Option.some.inj hstep ▸ h
      · obtain rfl := Option.some.inj hstep
        exact h
  | fan =>
      simp only [hp] at hstep
      obtain rfl := Option.some.inj hstep
      refine iff_of_true ?_ trivial
      unfold processFan
      split_ifs
      · rw [interfazOk_finFragmentacion]
        exact h
      · exact h
  | par | pap | panc | rvReg | rvAddrLookup | rvAddrSolve =>
      simp only [hp] at hstep
      obtain rfl := Option.some.inj hstep
      exact iff_of_true h trivial

/-- **One timer.** -/
lemma InterfazOk.timerHandler_iff {n n' : Node} (h : n.InterfazOk) {env : Env} {id : TimerId}
    (hstep : timerHandler env id n = some n') :
    n'.InterfazOk ↔ (id = .hbT → !n.flagFragmentacion ∧ !n.flagMezcla → n.guardaHb) := by
  cases id with
  | hbT =>
      obtain rfl := Option.some.inj hstep
      obtain ⟨ts, o, heq, -⟩ := sendHb_eq env true n
      rw [heq]
      exact (h.sendHbChecks_iff env).trans ⟨fun hc _ => hc, fun hc => hc rfl⟩
  | chkNeighT =>
      obtain ⟨m, hm, rfl⟩ := Option.map_eq_some_iff.mp hstep
      obtain ⟨t, rc, rv, rfl⟩ := checkNeighborsLoop_eq hm
      exact iff_of_true h fun hc => absurd hc (by simp)
  | rvT =>
      obtain rfl := Option.some.inj hstep
      rw [interfazOk_registerRv]
      exact iff_of_true h fun hc => absurd hc (by simp)
  | sanT k =>
      obtain rfl := Option.some.inj hstep
      exact iff_of_true h fun hc => absurd hc (by simp)

/-- **One step** keeps variables and interface in agreement exactly when it meets the guard. -/
lemma interfazOk_step_iff {n n' : Node} {e : Event} (h : n.InterfazOk) (hstep : n.step e = some n') :
    n'.InterfazOk ↔ n.guardaInterfaz e := by
  rcases step_cases hstep with ⟨env, pkt, rfl, hexp, hrecv⟩ | ⟨now, rfl, -, rfl⟩
    | ⟨env, t, rest, rfl, hexp, hfire⟩ | ⟨hespera, rfl⟩
  · have hvac : n.vaciar.InterfazOk := h
    cases pkt with
    | rv p =>
        refine iff_of_true ?_ trivial
        simp only [antopProcessPkt] at hrecv
        split at hrecv
        · exact Option.some.inj hrecv ▸ h
        · exact Option.some.inj hrecv ▸ h
    | ctrl p =>
        exact (hvac.paquete_iff hrecv).trans ⟨fun hc _ => hc, fun hc => hc hexp⟩
  · exact iff_of_true h trivial
  · rw [guardaInterfaz, hexp]
    simp only [List.head?_cons, Option.map_some, Option.some.injEq]
    have htimer : (n.vaciar.tomarTimer t.id rest).InterfazOk := h
    exact htimer.timerHandler_iff hfire
  · refine iff_of_true h ?_
    match e with
    | .recv _ (.ctrl p) => exact fun hexp => absurd hexp hespera
    | .recv _ (.rv p) => trivial
    | .timeout now => trivial
    | .fire env =>
        have hexp : n.timers.expiredTQ = [] := hespera
        simp [guardaInterfaz, hexp]

/-! ## Runs -/

/-- **When the interface agrees with the variables.**  Along any run from a node where they agree,
the addresses of the interface are the primary one and, with `sec_addr_flag`, the secondary one in
every state, exactly when each step meets the guard of its handler. -/
theorem interfaz_concuerda_iff {n : Node} (h : n.InterfazOk) (es : List Event) :
    (∀ u ∈ states Node.step n es, u.InterfazOk)
      ↔ ∀ t ∈ steps Node.step n es, t.1.guardaInterfaz t.2.1 :=
  invariant_iff_guard (fun _ _ _ hs he => interfazOk_step_iff hs he) h

/-- A run of the guarded kind: a secondary address is gained. -/
theorem interfaz_concuerda_iff_hijo :
    (∀ u ∈ states Node.step hijo
        [.recv .zero (.ctrl { CtrlPkt.zero with pktTypeF := .san, primAddr := slotAddr root 1 })],
      u.InterfazOk)
      ↔ ∀ t ∈ steps Node.step hijo
        [.recv .zero (.ctrl { CtrlPkt.zero with pktTypeF := .san, primAddr := slotAddr root 1 })],
      t.1.guardaInterfaz t.2.1 :=
  interfaz_concuerda_iff (by decide) _

/-- A heartbeat of a greater network: the node takes `dir_default`, and its old address stays on the
interface. -/
theorem old_address_stays :
    ¬ ∀ (clock : Timeval) (n : Node) (es : List Event), n.InterfazOk →
      ∀ u ∈ states Node.step (n.arrancar clock) es, u.InterfazOk := by
  intro h
  have hrun := h ⟨0, 0⟩ hijo
    [.recv .zero (.ctrl { CtrlPkt.zero with
      pktTypeF := .hb, primAddr := slotAddr root 1
      adAddr := { CtrlPkt.zero.adAddr with redNumero := 5 } })] (by decide)
  revert hrun
  decide +kernel

end Node

end Antop
