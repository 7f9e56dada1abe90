import Antop.Dispatch
import Antop.MezclaEnvios

/-!
# The address in a `MAR2`

The loop of `process_mar1` computes the new address of the node for each `MAR2` it sends, and it computes
it from a variable that holds the result of the time before.

* `ofertas_processMar1` — what the `MAR2`s carry: the address shifted once, twice and so on, and one
  mask after the other.
* `exists_processMar1` — `process_mar1` does not read a null pointer.
* `misma_direccion_iff` — when all of them carry the new address under different masks.
-/

namespace Antop

namespace Node

variable {env : Env} {msg : CtrlPkt} {n n' : Node}

/-! ## The loop -/

/-- `shift_mezcla` as the loop of `process_mar1` calls it. -/
def desplazaMar1 (msg : CtrlPkt) (n : Node) (a : In6Addr) : In6Addr :=
  shiftMezcla n.hcDim msg.srcAddr a msg.adAddr.mask.toNat n.primMaskMezcla.toNat

/-- A `MAR1` is no offer. -/
lemma ofertas_sendMar1 (env : Env) (n : Node) (primAddr dst src : In6Addr) (mask tLenght : UChar) :
    (n.sendMar1 env primAddr dst src mask tLenght).out.filterMap oferta = n.out.filterMap oferta := by
  rw [sendMar1, send, List.filterMap_append, List.filterMap_cons_none (by rfl), List.filterMap_nil,
    List.append_nil]

/-- A `MAR2` is one. -/
lemma ofertas_sendMar2 (env : Env) (n : Node) (primAddr dst src : In6Addr) (mask : UChar) :
    (n.sendMar2 env primAddr dst src mask).out.filterMap oferta
      = n.out.filterMap oferta ++ [(src, mask)] := by
  rw [sendMar2, send, List.filterMap_append]
  rfl

/-- **The offers of the loop**: each `MAR2` carries what the one before it carried, shifted again. -/
lemma ofertas_foldl_processMar1Envio (env : Env) (msg : CtrlPkt) (origen : In6Addr) (monitoreo : Bool)
    (n : Node) (a : In6Addr) (its : List Neighbor) (t : ℕ) (tb : List Neighbor) (rv : List LookupTable)
    (o : List (In6Addr × CtrlPkt)) (flag : Bool) :
    (its.foldl (processMar1Envio env msg origen monitoreo)
        ⟨(n.sumarMask t).conTablas tb rv o, (n.desplazaMar1 msg)^[t] a, flag⟩).node.out.filterMap oferta
      = o.filterMap oferta ++ (List.range (n.mar2Count origen monitoreo its)).map fun u =>
        ((n.desplazaMar1 msg)^[t + u + 1] a, n.primMask + BitVec.ofNat 8 (t + u + 1)) := by
  induction its generalizing t tb rv o flag with
  | nil => simp [mar2Count, conTablas]
  | cons it its ih =>
      rw [List.foldl_cons, mar2Count_cons]
      by_cases hv : n.visitaMar origen monitoreo it.primAddr
      · have hno : ¬ (((n.sumarMask t).conTablas tb rv o).secAddrFlag
            ∧ 1 < dist ((n.sumarMask t).conTablas tb rv o).primAddr it.primAddr) := hv.2
        rw [processMar1Envio, if_pos hv.1, if_neg hno]
        by_cases ha : n.haciaAbajo it.primAddr
        · have ha' : ((n.sumarMask t).conTablas tb rv o).haciaAbajo it.primAddr := ha
          rw [if_pos ha', if_neg fun h => h.2 ha, Nat.add_zero]
          refine (ih t _ _ _ true).trans ?_
          rw [ofertas_sendMar1]
          rfl
        · have ha' : ¬ ((n.sumarMask t).conTablas tb rv o).haciaAbajo it.primAddr := ha
          have hshift : shiftMezcla ((n.sumarMask t).conTablas tb rv o).hcDim msg.srcAddr
              ((n.desplazaMar1 msg)^[t] a) msg.adAddr.mask.toNat
              ((n.sumarMask t).conTablas tb rv o).primMaskMezcla.toNat
              = (n.desplazaMar1 msg)^[t + 1] a := by
            rw [Function.iterate_succ_apply']
            rfl
          rw [if_neg ha', if_pos ⟨hv, ha⟩, List.range_succ_eq_map, List.map_cons, List.map_map]
          dsimp only
          rw [hshift, storePrimMask_conTablas]
          refine (ih (t + 1) _ _ _ true).trans ?_
          rw [ofertas_sendMar2, List.append_assoc]
          refine congrArg (_ ++ ·) (congrArg₂ List.cons ?_ (List.map_congr_left fun u _ => ?_))
          · rfl
          · simp only [Function.comp_apply, Nat.succ_eq_add_one, show t + 1 + u + 1 = t + (u + 1) + 1 by omega]
      · have hv' : ¬ ((n.sumarMask t).conTablas tb rv o).visitaMar origen monitoreo it.primAddr := hv
        obtain ⟨tb', rv', hs⟩ := processMar1Envio_salta env msg
          (s := ⟨(n.sumarMask t).conTablas tb rv o, (n.desplazaMar1 msg)^[t] a, flag⟩) hv'
        rw [if_neg fun h => hv h.1, Nat.add_zero, hs]
        exact ih t tb' rv' o flag

/-! ## `process_mar1` -/

/-- The first shift gives the new address. -/
lemma desplazaMar1_primAddr (msg : CtrlPkt) (n : Node) :
    (n.entrarMar1 msg).desplazaMar1 msg n.primAddr = n.dirDeMar1 msg := by
  simp only [desplazaMar1, dirDeMar1, entrarMar1_frame, entrarMar1_numero]

lemma ofertas_processMar1Directo (hred : n.redNumero = msg.adAddr.redNumero)
    (h : n.processMar1Directo env msg = some n') : n'.out.filterMap oferta = n.out.filterMap oferta := by
  obtain ⟨m, hm, hout⟩ := out_processMar1Directo hred h
  rw [hout, List.filterMap_append, List.filterMap_cons_none (oferta_respuesta hm (by decide)),
    List.filterMap_nil, List.append_nil]

lemma ofertas_confirmarMar1 (env : Env) (hred : n.redNumero = msg.adAddr.redNumero) :
    (n.confirmarMar1 env msg).out.filterMap oferta = n.out.filterMap oferta := by
  obtain ⟨m, hm, hout⟩ := out_confirmarMar1 env hred
  rw [hout, List.filterMap_append, List.filterMap_cons_none (oferta_respuesta hm (by decide)),
    List.filterMap_nil, List.append_nil]

/-- What the `MAR2`s of the primary part carry. -/
lemma ofertas_processMar1Primaria (h : n.processMar1Primaria env msg = some n') :
    n'.out.filterMap oferta = n.out.filterMap oferta ++ (List.range (n.mar2sDeMar1 msg)).map fun u =>
      (((n.entrarMar1 msg).desplazaMar1 msg)^[u + 1] n.primAddr,
        (n.entrarMar1 msg).primMask + BitVec.ofNat 8 (u + 1)) := by
  obtain ⟨n₁, h₁, h⟩ := Option.bind_eq_some_iff.mp h
  obtain ⟨t₁, ht, hn₁⟩ := Option.map_eq_some_iff.mp h₁
  have hn₁ : n₁ = n.conTablas t₁ n.rvTable n.out := hn₁.symm
  subst hn₁
  by_cases hc : n.iniciaCiclo msg
  · rw [if_pos hc] at h
    have hloop := ofertas_foldl_processMar1Envio env msg (auxAntopMsg msg).primAddr (n.flagMonitoreo msg)
      (n.entrarMar1 msg) n.primAddr t₁ 0 t₁ [] n.out false
    simp only [sumarMask_zero, Nat.zero_add] at hloop
    obtain ⟨tb, rv, o, hnode, -⟩ := processMar1Envios_eq env msg (n.flagMonitoreo msg)
      ((n.conTablas t₁ n.rvTable n.out).entrarMar1 msg)
    have hred : (((n.conTablas t₁ n.rvTable n.out).entrarMar1 msg).processMar1Envios env msg
        (n.flagMonitoreo msg)).node.redNumero = msg.adAddr.redNumero := by
      rw [hnode]
      rfl
    rw [mar2sDeMar1_eq ht, if_pos hc]
    dsimp only at h
    split_ifs at h
    · obtain rfl := Option.some.inj h
      exact (ofertas_confirmarMar1 env hred).trans hloop
    · exact (ofertas_processMar1Directo hred h).trans hloop
  · rw [if_neg hc] at h
    rw [mar2sDeMar1_eq ht, if_neg hc, List.range_zero, List.map_nil, List.append_nil]
    exact ofertas_processMar1Directo
      (n := (n.conTablas t₁ n.rvTable n.out).entrarMar1 msg) rfl h

lemma exists_addNeighborTable (hb : CtrlPkt) (secFlag : Bool) {t : List Neighbor} (ht : t ≠ []) :
    ∃ t', addNeighborTable hb secFlag t = some t' := by
  obtain ⟨head, rest, rfl⟩ := List.exists_cons_of_ne_nil ht
  rw [addNeighborTable]
  split_ifs
  · exact ⟨_, rfl⟩
  · exact ⟨_, rfl⟩

lemma exists_processMar1Directo (env : Env) (msg : CtrlPkt) (n : Node) :
    ∃ n', n.processMar1Directo env msg = some n' := by
  have hantes : ∃ m, n.antesDeTomar env msg = some m := by
    unfold antesDeTomar
    split_ifs
    · have hne : n.initNeighTable.neighTable ≠ [] := by
        unfold initNeighTable
        dsimp only
        split_ifs with hnil
        · exact List.cons_ne_nil _ _
        · exact hnil
      obtain ⟨t, ht⟩ := exists_addNeighborTable (auxAntopMsg msg) false hne
      exact ⟨_, addNeighbor_eq_some.mpr ⟨t, ht, rfl⟩⟩
    · exact ⟨_, rfl⟩
  obtain ⟨m, hm⟩ := hantes
  exact ⟨_, by rw [processMar1Directo, hm]; rfl⟩

/-- `process_mar1` comes to its end. -/
lemma exists_processMar1 (env : Env) (msg : CtrlPkt) (n : Node) :
    ∃ n', n.processMar1 env msg = some n' := by
  have hprimaria (m : Node) : ∃ n', m.processMar1Primaria env msg = some n' := by
    have htabla : ∃ t, m.tablaConEmisor msg = some t := by
      unfold tablaConEmisor
      split_ifs with h
      · exact exists_addNeighborTable _ _ h.1.2
      · exact ⟨_, rfl⟩
    obtain ⟨t, ht⟩ := htabla
    unfold processMar1Primaria
    rw [agregarEmisor, ht, Option.map_some]
    simp only [Option.bind_eq_bind, Option.bind_some]
    split_ifs
    · exact ⟨_, rfl⟩
    · exact exists_processMar1Directo env msg _
    · exact exists_processMar1Directo env msg _
  unfold processMar1
  dsimp only
  split_ifs
  · exact ⟨_, rfl⟩
  · exact hprimaria _

/-- The addresses and masks in the `MAR2`s that a `MAR1` makes a node send. -/
def ofertasMar1 (env : Env) (msg : CtrlPkt) (n : Node) : List (In6Addr × UChar) :=
  ((n.vaciar.processMar1 env msg).map fun n' => n'.out.filterMap oferta).getD []

/-- How many there are. -/
def mar2sEnviados (msg : CtrlPkt) (n : Node) : ℕ :=
  if msg.adAddr.addr = n.secAddr then 0 else n.mar2sDeMar1 msg

/-- For the secondary address nothing is offered. -/
lemma ofertas_processMar1Secundaria (env : Env) (msg : CtrlPkt) (n : Node) :
    (n.processMar1Secundaria env msg).out.filterMap oferta = n.out.filterMap oferta := by
  have hout : ∃ m : In6Addr × CtrlPkt, m.2.pktTypeF = .man1
      ∧ (n.processMar1Secundaria env msg).out = n.out ++ [m] := by
    unfold processMar1Secundaria
    dsimp only
    split_ifs
    · rw [out_finMezcla]
      exact ⟨_, rfl, rfl⟩
    · exact ⟨_, rfl, rfl⟩
  obtain ⟨m, hm, hout⟩ := hout
  have hno : oferta m = none := if_neg (by rw [hm]; decide)
  rw [hout, List.filterMap_append, List.filterMap_cons_none hno, List.filterMap_nil, List.append_nil]

/-- **What the `MAR2`s carry.** -/
lemma ofertasMar1_eq (env : Env) (msg : CtrlPkt) (n : Node) :
    n.ofertasMar1 env msg = (List.range (n.mar2sEnviados msg)).map fun u =>
      (((n.entrarMar1 msg).desplazaMar1 msg)^[u + 1] n.primAddr,
        (n.entrarMar1 msg).primMask + BitVec.ofNat 8 (u + 1)) := by
  obtain ⟨n', hn'⟩ := exists_processMar1 env msg n.vaciar
  unfold ofertasMar1 mar2sEnviados
  rw [hn', Option.map_some, Option.getD_some]
  unfold processMar1 at hn'
  dsimp only at hn'
  split_ifs at hn' ⊢ with hsec hsec' hsec'
  · obtain rfl := Option.some.inj hn'
    exact ofertas_processMar1Secundaria env msg _
  · exact absurd hsec hsec'
  · exact absurd hsec' hsec
  · exact (ofertas_processMar1Primaria hn').trans (List.nil_append _)

/-! ## One address -/

/-- All `MAR2`s carry the new address, under different masks; a node that takes over the address of an
answer to one of them takes over that one. -/
structure MismaDireccion (env : Env) (msg : CtrlPkt) (n : Node) : Prop where
  direccion : ∀ o ∈ n.ofertasMar1 env msg, o.1 = n.dirDeMar1 msg
  mascaras : ((n.ofertasMar1 env msg).map Prod.snd).Nodup
  adopta : ∀ o ∈ n.ofertasMar1 env msg, ∀ (env' : Env) (man2 : CtrlPkt) (u : Node),
    man2.srcAddr = o.1 → u.flagMezcla → (u.processMan2 env' man2).primAddr = n.dirDeMar1 msg

/-- `process_man2` takes over the address of the message. -/
lemma primAddr_processMan2 (env : Env) (man2 : CtrlPkt) {u : Node} (h : u.flagMezcla) :
    (u.processMan2 env man2).primAddr = man2.srcAddr := by
  unfold processMan2
  rw [if_pos h]
  dsimp only
  split_ifs
  · rw [(finMezcla_frame _ _).2.1]
    rfl
  · rfl

/-- Masks of eight bits are different as long as there are no more than 256 of them. -/
lemma nodup_mascaras_iff (m : UChar) (k : ℕ) :
    ((List.range k).map fun u => m + BitVec.ofNat 8 (u + 1)).Nodup ↔ k ≤ 256 := by
  constructor
  · intro h
    by_contra hk
    have hinj := (List.nodup_map_iff_inj_on List.nodup_range).mp h
    have h256 : m + BitVec.ofNat 8 (0 + 1) = m + BitVec.ofNat 8 (256 + 1) := by
      rw [show BitVec.ofNat 8 (256 + 1) = BitVec.ofNat 8 (0 + 1) by decide]
    exact absurd (hinj 0 (List.mem_range.mpr (by omega)) 256 (List.mem_range.mpr (by omega)) h256)
      (by decide)
  · intro hk
    refine (List.nodup_map_iff_inj_on List.nodup_range).mpr fun u hu v hv huv => ?_
    have hu := List.mem_range.mp hu
    have hv := List.mem_range.mp hv
    have hnat := congrArg BitVec.toNat huv
    rw [BitVec.toNat_add, BitVec.toNat_add, BitVec.toNat_ofNat, BitVec.toNat_ofNat] at hnat
    have hm := m.isLt
    omega

/-- The first address comes back each time exactly when there is no second one, or shifting it changes
nothing. -/
lemma iterate_desplaza_iff {f : In6Addr → In6Addr} {a : In6Addr} (k : ℕ) :
    (∀ u < k, f^[u + 1] a = f a) ↔ k ≤ 1 ∨ f (f a) = f a := by
  constructor
  · intro h
    by_cases hk : k ≤ 1
    · exact Or.inl hk
    · exact Or.inr (h 1 (by omega))
  · rintro (hk | hfix) u hu
    · rw [show u = 0 by omega]
      rfl
    · rw [Function.iterate_succ_apply]
      exact Function.iterate_fixed hfix u

/-- **The address in the `MAR2`s** is the new one in all of them exactly when at most one is sent, or the
new address is not changed by another shift; in this case there may be as many as there are masks. -/
theorem misma_direccion_iff (env : Env) (msg : CtrlPkt) (n : Node) :
    n.MismaDireccion env msg ↔ n.mar2sEnviados msg ≤ 1
      ∨ shiftMezcla n.hcDim msg.srcAddr (n.dirDeMar1 msg) msg.adAddr.mask.toNat (n.maskQueCae msg).toNat
          = n.dirDeMar1 msg ∧ n.mar2sEnviados msg ≤ 256 := by
  have hshift : shiftMezcla n.hcDim msg.srcAddr (n.dirDeMar1 msg) msg.adAddr.mask.toNat
      (n.maskQueCae msg).toNat = (n.entrarMar1 msg).desplazaMar1 msg (n.dirDeMar1 msg) := by
    simp only [desplazaMar1, entrarMar1_frame, entrarMar1_numero]
  have hdir : (∀ o ∈ n.ofertasMar1 env msg, o.1 = n.dirDeMar1 msg)
      ↔ n.mar2sEnviados msg ≤ 1 ∨ (n.entrarMar1 msg).desplazaMar1 msg (n.dirDeMar1 msg)
        = n.dirDeMar1 msg := by
    rw [ofertasMar1_eq, ← desplazaMar1_primAddr, ← iterate_desplaza_iff]
    simp only [List.mem_map, List.mem_range, forall_exists_index, and_imp, forall_apply_eq_imp_iff₂]
  have hmask : ((n.ofertasMar1 env msg).map Prod.snd).Nodup ↔ n.mar2sEnviados msg ≤ 256 := by
    rw [ofertasMar1_eq, List.map_map]
    exact nodup_mascaras_iff _ _
  rw [hshift]
  constructor
  · intro h
    rcases hdir.mp h.direccion with hk | hfix
    · exact Or.inl hk
    · exact Or.inr ⟨hfix, hmask.mp h.mascaras⟩
  · intro h
    have hdirs := hdir.mpr (h.imp_right And.left)
    refine ⟨hdirs, hmask.mpr ?_, ?_⟩
    · rcases h with h | h
      · omega
      · exact h.2
    · intro o ho env' man2 u hsrc hu
      rw [primAddr_processMan2 env' man2 hu, hsrc]
      exact hdirs o ho

/-- A node at distance two from the root, with its two neighbours on the way. -/
def dosPadres : Node :=
  { hijo with
    primAddr := slotAddr (slotAddr root 0) 1, primMask := 2, primMaskInicial := 2
    neighTable := [slotAddr root 0, slotAddr root 1].map fun a =>
      { primAddr := a, secAddrConn := false, count := 0, primMask := 2, primMaskInicial := 1
        available := true } }

/-- The root of another network invites it. -/
def mar1DeRaiz : CtrlPkt :=
  { CtrlPkt.zero with
    pktTypeF := .mar1, srcAddr := root, primAddr := dirDefault
    adAddr := { tLenght := 0, addr := dosPadres.primAddr, mask := 0, redNumero := 7 } }

/-- The two neighbours are told different addresses. -/
theorem two_mar2_two_addresses :
    ¬ ∀ (env : Env) (msg : CtrlPkt) (n : Node), n.MismaDireccion env msg := by
  intro h
  have hdir := (h .zero mar1DeRaiz dosPadres).direccion
  revert hdir
  decide +kernel

end Node

end Antop
