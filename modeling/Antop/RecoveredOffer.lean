import Antop.Recuperadas

/-!
# The offer of a recovered address

`send_pap` keeps the recovered address it offers in `rcvd_offered`, and offers no other until that
one is taken.  `send_panc` takes the address off `rcvd_addr` but leaves `rcvd_offered` as it is, and
so do the handlers that shift `rcvd_addr`, empty it or use an entry of it.

* `Node.OfertaViva` — the address in `rcvd_offered` is one of `rcvd_addr`.
* `proposal_recuperada`, `proposal_bloqueada` — what `send_pap` makes of it.
* `Node.guardaOferta` — for each handler, what it needs to keep the offer alive.
* **`oferta_viva_iff`** — a run keeps the offer alive exactly when all its steps meet that.
-/

namespace Antop

open Transition

/-! ## The offer and the list -/

/-- `rcvd_offered` and the addresses in `rcvd_addr`. -/
structure Oferta where
  ofrecida : Option In6Addr
  recuperadas : List In6Addr

namespace Oferta

/-- The offered address is one of the recovered ones. -/
def Viva (o : Oferta) : Prop := ∀ a ∈ o.ofrecida, a ∈ o.recuperadas

instance (o : Oferta) : Decidable o.Viva :=
  inferInstanceAs (Decidable (∀ a ∈ o.ofrecida, a ∈ o.recuperadas))

/-- The address is not offered, or is there once more. -/
def QuedaOtra (o : Oferta) (a : In6Addr) : Prop := a ∈ o.ofrecida → 2 ≤ o.recuperadas.count a

/-- The offered address is one that some recovered address is moved to. -/
def Movida (o : Oferta) (f : In6Addr → In6Addr) : Prop := ∀ a ∈ o.ofrecida, ∃ b ∈ o.recuperadas, f b = a

/-- Taking an address off the list. -/
def quitar (o : Oferta) (a : In6Addr) : Oferta := { o with recuperadas := o.recuperadas.erase a }

/-- Moving the addresses of the list. -/
def mover (o : Oferta) (f : In6Addr → In6Addr) : Oferta := { o with recuperadas := o.recuperadas.map f }

/-- Emptying the list. -/
def olvidar (o : Oferta) : Oferta := { o with recuperadas := [] }

lemma Viva.quitar_iff {o : Oferta} (h : o.Viva) (a : In6Addr) : (o.quitar a).Viva ↔ o.QuedaOtra a := by
  constructor
  · intro hv ha
    have hmem : a ∈ o.recuperadas.erase a := hv a ha
    rw [← List.count_pos_iff, List.count_erase_self] at hmem
    omega
  · intro hq b hb
    change b ∈ o.recuperadas.erase a
    by_cases hba : b = a
    · subst hba
      have hcount := hq hb
      rw [← List.count_pos_iff, List.count_erase_self]
      omega
    · exact (List.mem_erase_of_ne hba).mpr (h b hb)

lemma viva_mover_iff (o : Oferta) (f : In6Addr → In6Addr) : (o.mover f).Viva ↔ o.Movida f :=
  forall₂_congr fun _ _ => List.mem_map

lemma viva_olvidar_iff (o : Oferta) : o.olvidar.Viva ↔ o.ofrecida = none := by
  constructor
  · intro h
    rw [Option.eq_none_iff_forall_not_mem]
    intro a ha
    exact absurd (h a ha) List.not_mem_nil
  · intro h a ha
    change a ∈ o.ofrecida at ha
    simp [h] at ha

end Oferta

namespace Node

/-- The offer of the node and its recovered addresses. -/
def oferta (n : Node) : Oferta := { ofrecida := n.rcvdOffered, recuperadas := n.recuperadas }

/-- A non-`NULL` `rcvd_offered` names an address of `rcvd_addr`. -/
abbrev OfertaViva (n : Node) : Prop := n.oferta.Viva

lemma oferta_of_eq {n n' : Node} (ho : n'.rcvdOffered = n.rcvdOffered) (hr : n'.rcvdAddr = n.rcvdAddr) :
    n'.oferta = n.oferta := by
  rw [oferta, oferta, recuperadas, recuperadas, ho, hr]

lemma recuperadas_delRcvdAddrTable (a : In6Addr) (l : List RecoveredAddr) :
    (delRcvdAddrTable a l).map RecoveredAddr.primAddr = (l.map RecoveredAddr.primAddr).erase a := by
  rw [List.erase_eq_eraseP', List.eraseP_map]
  rfl

/-! ## What `send_pap` offers -/

/-- **Recovered space is offered again**, as long as the offer is alive: when the address offered last
has been taken, `send_pap` offers a recovered one. -/
theorem proposal_recuperada {n : Node} (h : n.OfertaViva) (env : Env) (hne : n.recuperadas ≠ [])
    (htaken : ∀ a ∈ n.rcvdOffered, a ∉ n.recuperadas) :
    (n.proposal env).1.adAddr.addr ∈ n.recuperadas := by
  have hnew : n.rcvdOffered = none := by
    rw [Option.eq_none_iff_forall_not_mem]
    exact fun a ha => htaken a ha (h a ha)
  unfold proposal
  cases hlast : n.rcvdAddr.getLast? with
  | none => exact absurd (by rw [recuperadas, List.getLast?_eq_none_iff.mp hlast, List.map_nil]) hne
  | some rcvdAux =>
      simp only [hnew]
      exact List.mem_map_of_mem (List.mem_of_getLast? hlast)

/-- Once an offer is set, `send_pap` offers the next slot of the own block, whatever has been
recovered. -/
theorem proposal_bloqueada {n : Node} (env : Env) {a : In6Addr} (hold : n.rcvdOffered = some a)
    (hfree : n.primMask.toNat < n.hcDim) :
    (n.proposal env).1.adAddr.addr = slotAddr n.primAddr n.primMask.toNat
      ∧ (n.proposal env).2 = some a := by
  unfold proposal
  cases n.rcvdAddr.getLast? with
  | none =>
      simp only [hold]
      rw [if_neg (by omega)]
      exact ⟨rfl, rfl⟩
  | some rcvdAux =>
      simp only [hold]
      rw [if_neg (by omega)]
      exact ⟨rfl, rfl⟩

/-! ## The parts of the handlers -/

@[simp] lemma oferta_conTablas (n : Node) (t : List Neighbor) (rv : List LookupTable)
    (o : List (In6Addr × CtrlPkt)) : (n.conTablas t rv o).oferta = n.oferta := rfl

@[simp] lemma oferta_sumarMask (n : Node) (k : ℕ) : (n.sumarMask k).oferta = n.oferta := rfl

@[simp] lemma oferta_storePrimMask (n : Node) (v : ℤ) : (n.storePrimMask v).oferta = n.oferta := rfl

@[simp] lemma oferta_registerRv (env : Env) (n : Node) : (registerRv env n).oferta = n.oferta := by
  rw [registerRv_eq]
  rfl

@[simp] lemma oferta_finFragmentacion (env : Env) (n : Node) :
    (n.finFragmentacion env).oferta = n.oferta := by
  rw [finFragmentacion, oferta_registerRv]
  rfl

@[simp] lemma oferta_finMezcla (env : Env) (n : Node) : (n.finMezcla env).oferta = n.oferta := by
  rw [finMezcla, oferta_registerRv]
  rfl

@[simp] lemma oferta_cerrarPrimaria (env : Env) (n : Node) :
    (n.cerrarPrimaria env).oferta = n.oferta := by
  unfold cerrarPrimaria
  split_ifs
  · exact oferta_finMezcla env n
  · rfl

@[simp] lemma oferta_entrarMar1 (p : CtrlPkt) (n : Node) : (n.entrarMar1 p).oferta = n.oferta :=
  oferta_of_eq rfl rfl

@[simp] lemma oferta_entrarMar2 (p : CtrlPkt) (n : Node) : (n.entrarMar2 p).oferta = n.oferta :=
  oferta_of_eq rfl rfl

@[simp] lemma oferta_adoptarMar1 (p : CtrlPkt) (n : Node) : (n.adoptarMar1 p).oferta = n.oferta :=
  oferta_of_eq rfl rfl

@[simp] lemma oferta_adoptarMar2 (aux1 : In6Addr) (n : Node) :
    (n.adoptarMar2 aux1).oferta = n.oferta.olvidar := rfl

/-- Where a merge moves a recovered address. -/
def movidaPorMar1 (p : CtrlPkt) (n : Node) (mf : UChar) (a : In6Addr) : In6Addr :=
  shiftMezcla n.hcDim p.srcAddr a p.adAddr.mask.toNat mf.toNat

/-- Where a fragmentation moves a recovered address. -/
def movidaPorFar (n : Node) (mask : UChar) (a : In6Addr) : In6Addr := shift n.hcDim 1 mask.toNat root a

lemma oferta_moverRecuperadas (p : CtrlPkt) (n : Node) :
    (n.moverRecuperadas p).oferta = n.oferta.mover (n.movidaPorMar1 p n.primMaskMezcla) := by
  simp [oferta, Oferta.mover, moverRecuperadas, recuperadas, RecoveredAddr.shiftMezcla,
    movidaPorMar1, Function.comp_def]

lemma movidaPorMar1_eq (p : CtrlPkt) (n : Node) (mf : UChar) :
    n.movidaPorMar1 p mf
      = fun a => shiftMezcla n.hcDim p.srcAddr a p.adAddr.mask.toNat mf.toNat := rfl

/-- Taking over an address moves the recovered ones. -/
lemma oferta_tomarMar1 (env : Env) (p : CtrlPkt) (n : Node) :
    (n.tomarMar1 env p).oferta = n.oferta.mover (n.movidaPorMar1 p n.primMaskMezcla) := by
  rw [tomarMar1, oferta_cerrarPrimaria, oferta_moverRecuperadas, oferta_adoptarMar1]
  rfl

lemma map_shiftRoot (n : Node) (mask : UChar) :
    (n.rcvdAddr.map (RecoveredAddr.shiftRoot n.hcDim mask)).map RecoveredAddr.primAddr
      = n.recuperadas.map (n.movidaPorFar mask) := by
  simp [recuperadas, RecoveredAddr.shiftRoot, movidaPorFar, Function.comp_def]

/-! ## The handlers -/

/-- `send_pap`: what it offers is a recovered address. -/
lemma OfertaViva.sendPap {n : Node} (h : n.OfertaViva) (env : Env) (dst : In6Addr) :
    (n.sendPap env dst).OfertaViva := by
  have hoffer : ∀ a ∈ (n.proposal env).2, a ∈ n.recuperadas := by
    intro a ha
    unfold proposal at ha
    cases hlast : n.rcvdAddr.getLast? with
    | none =>
        simp only [hlast] at ha
        split_ifs at ha
        · exact h a ha
        · exact h a ha
    | some rcvdAux =>
        cases hold : n.rcvdOffered with
        | none =>
            simp only [hlast, hold, Option.mem_some_iff] at ha
            subst ha
            exact List.mem_map_of_mem (List.mem_of_getLast? hlast)
        | some b =>
            simp only [hlast, hold] at ha
            split_ifs at ha
            · exact h a (hold.trans ha)
            · exact h a (hold.trans ha)
  exact hoffer

/-- `send_panc`. -/
lemma OfertaViva.sendPanc_iff {n : Node} (h : n.OfertaViva) (env : Env)
    (dst primary chosen : In6Addr) :
    (n.sendPanc env dst primary chosen).OfertaViva ↔ n.oferta.QuedaOtra chosen := by
  by_cases hr : n.rcvdOffered = some chosen
  · have hquitar : (n.sendPanc env dst primary chosen).oferta = n.oferta.quitar chosen := by
      rw [sendPanc, if_pos hr]
      exact congrArg (Oferta.mk n.rcvdOffered) (recuperadas_delRcvdAddrTable chosen n.rcvdAddr)
    rw [OfertaViva, hquitar]
    exact h.quitar_iff chosen
  · have hsame : (n.sendPanc env dst primary chosen).oferta = n.oferta := by
      rw [sendPanc, if_neg hr]
      rfl
    rw [OfertaViva, hsame]
    exact iff_of_true h fun ha => absurd ha hr

/-- `process_san1`. -/
lemma OfertaViva.processSan1_iff {n n' : Node} (h : n.OfertaViva) {msg : CtrlPkt}
    (hstep : n.processSan1 msg = some n') : n'.OfertaViva ↔ n.oferta.QuedaOtra msg.adAddr.addr := by
  obtain ⟨t, rfl⟩ := processSan1_eq hstep
  rw [← h.quitar_iff, Oferta.quitar, oferta, OfertaViva, oferta]
  dsimp only
  rw [recuperadas, recuperadas_delRcvdAddrTable]
  rfl

/-- `fragmentacion`. -/
lemma ofertaViva_fragmentacion_iff (env : Env) (n : Node) :
    (n.fragmentacion env).OfertaViva ↔ n.oferta.Movida (n.movidaPorFar n.primMaskInicial) := by
  have hmover : (n.fragmentacion env).oferta = n.oferta.mover (n.movidaPorFar n.primMaskInicial) := by
    rw [fragmentacion_eq]
    exact congrArg (Oferta.mk n.rcvdOffered) (n.map_shiftRoot n.primMaskInicial)
  rw [OfertaViva, hmover, Oferta.viva_mover_iff]

/-- `process_far`. -/
lemma OfertaViva.processFar_iff {n n' : Node} (h : n.OfertaViva) {env : Env} {p : CtrlPkt}
    (hstep : n.processFar env p = some n') :
    n'.OfertaViva ↔
      (p.adAddr.addr ≠ n.secAddr → n.oferta.Movida (n.movidaPorFar p.adAddr.mask)) := by
  unfold processFar at hstep
  dsimp only at hstep
  split_ifs at hstep with hsec
  · obtain rfl := Option.some.inj hstep
    obtain ⟨o, heq⟩ := processFarSecundaria_eq env p { n with flagFragmentacion := true }
    have hsame : (processFarSecundaria env p { n with flagFragmentacion := true }).oferta
        = n.oferta := by
      rw [heq]
      dsimp only
      split_ifs
      · exact oferta_finFragmentacion env _
      · rfl
    rw [OfertaViva, hsame]
    exact iff_of_true h fun hc => absurd hsec hc
  · obtain ⟨t, rv, o, fin, rfl⟩ := processFarPrimaria_eq hstep
    have hmap := n.map_shiftRoot p.adAddr.mask
    rw [forall_prop_of_true hsec, ← Oferta.viva_mover_iff]
    cases fin
    · exact iff_of_eq (congrArg (fun l => (Oferta.mk n.rcvdOffered l).Viva) hmap)
    · rw [if_pos rfl, OfertaViva, oferta_finFragmentacion]
      exact iff_of_eq (congrArg (fun l => (Oferta.mk n.rcvdOffered l).Viva) hmap)

/-- `process_mar1` for the primary address moves the recovered addresses when it takes the new
address at once. -/
def mueveMar1 (p : CtrlPkt) (n : Node) : Prop :=
  n.esperaMar1 p = false → n.oferta.Movida (n.movidaPorMar1 p (n.maskQueCae p))

/-- `process_mar1`. -/
lemma OfertaViva.processMar1_iff {n n' : Node} (h : n.OfertaViva) {env : Env} {p : CtrlPkt}
    (hstep : n.processMar1 env p = some n') :
    n'.OfertaViva ↔ (p.adAddr.addr ≠ n.secAddr → n.mueveMar1 p) := by
  unfold processMar1 at hstep
  dsimp only at hstep
  split_ifs at hstep with hsec
  · obtain rfl := Option.some.inj hstep
    obtain ⟨o, heq⟩ := processMar1Secundaria_eq env p { n with flagMezcla := true }
    have hsame : (processMar1Secundaria env p { n with flagMezcla := true }).oferta = n.oferta := by
      rw [heq]
      dsimp only
      split_ifs
      · exact oferta_finMezcla env _
      · rfl
    rw [OfertaViva, hsame]
    exact iff_of_true h fun hc => absurd hsec hc
  · rw [forall_prop_of_true hsec]
    obtain ⟨t, rv, o, ⟨hesp, rfl⟩ | ⟨hesp, -, rfl⟩⟩ := processMar1Primaria_eq hstep
    · rw [OfertaViva, oferta_conTablas, oferta_sumarMask, oferta_entrarMar1]
      exact iff_of_true h fun hc => absurd (hesp.symm.trans hc) (by simp)
    · rw [OfertaViva, oferta_tomarMar1, oferta_conTablas, oferta_sumarMask, oferta_entrarMar1,
        Oferta.viva_mover_iff]
      refine Iff.trans ?_ ⟨fun hm _ => hm, fun hm => hm hesp⟩
      simp only [movidaPorMar1_eq, conTablas_frame, sumarMask_frame, entrarMar1_frame,
        conTablas_primMaskMezcla, sumarMask_primMaskMezcla, entrarMar1_numero]
      exact Iff.rfl

/-- `process_mar2`. -/
lemma OfertaViva.processMar2_iff {n : Node} (h : n.OfertaViva) (env : Env) (p : CtrlPkt) :
    (n.processMar2 env p).OfertaViva ↔
      (p.adAddr.addr ≠ n.secAddr → n.esperaMar2 p = false → n.rcvdOffered = none) := by
  unfold processMar2
  dsimp only
  split_ifs with hsec
  · obtain ⟨o, heq⟩ := processMar2Secundaria_eq env p { n with flagMezcla := true }
    have hsame : (processMar2Secundaria env p { n with flagMezcla := true }).oferta = n.oferta := by
      rw [heq]
      dsimp only
      split_ifs
      · exact oferta_finMezcla env _
      · rfl
    rw [OfertaViva, hsame]
    exact iff_of_true h fun hc => absurd hsec hc
  · rw [forall_prop_of_true hsec]
    obtain ⟨t, rv, o, ⟨hesp, heq⟩ | ⟨hesp, -, heq⟩⟩ :=
      processMar2Primaria_eq env p { n with flagMezcla := true }
    · rw [heq, OfertaViva, oferta_conTablas, oferta_sumarMask, oferta_entrarMar2]
      exact iff_of_true h fun hc => absurd (hesp.symm.trans hc) (by simp)
    · rw [heq, OfertaViva, tomarMar2, oferta_cerrarPrimaria, oferta_adoptarMar2, oferta_conTablas,
        oferta_sumarMask, oferta_entrarMar2, Oferta.viva_olvidar_iff]
      exact ⟨fun hm _ => hm, fun hm => hm hesp⟩

/-- `process_man1`. -/
lemma OfertaViva.processMan1_iff {n : Node} (h : n.OfertaViva) (env : Env) (p : CtrlPkt) :
    (n.processMan1 env p).OfertaViva ↔
      (n.flagMezcla ∧ n.primAddr ≠ dirDefault → n.oferta.Movida (n.movidaPorMar1 p n.primMaskMezcla)) := by
  unfold processMan1
  by_cases hini : n.flagMezcla ∧ n.primAddr = dirDefault
  · rw [if_pos hini]
    refine iff_of_true ?_ fun hc => absurd hini.2 hc.2
    dsimp only
    split_ifs
    · exact h
    · exact h
  · rw [if_neg hini]
    by_cases hmezcla : n.flagMezcla
    · have hother : n.flagMezcla ∧ n.primAddr ≠ dirDefault := ⟨hmezcla, fun hc => hini ⟨hmezcla, hc⟩⟩
      rw [forall_prop_of_true hother, if_pos hmezcla, ← Oferta.viva_mover_iff]
      have hmover : ((n.adoptarMar1 p).moverRecuperadas p).oferta
          = n.oferta.mover (n.movidaPorMar1 p n.primMaskMezcla) := by
        rw [oferta_moverRecuperadas, oferta_adoptarMar1]
        rfl
      dsimp only
      split_ifs
      · rw [OfertaViva, oferta_finMezcla, hmover]
      · rw [OfertaViva, hmover]
    · rw [if_neg hmezcla]
      exact iff_of_true h fun hc => absurd hc.1 hmezcla

/-- `process_man2`. -/
lemma OfertaViva.processMan2_iff {n : Node} (h : n.OfertaViva) (env : Env) (p : CtrlPkt) :
    (n.processMan2 env p).OfertaViva ↔ (n.flagMezcla → n.rcvdOffered = none) := by
  unfold processMan2
  split_ifs with hmezcla
  · have hvacia : (n.adoptarMar2 p.srcAddr).OfertaViva ↔ n.rcvdOffered = none := by
      rw [OfertaViva, oferta_adoptarMar2, Oferta.viva_olvidar_iff]
      rfl
    rw [forall_prop_of_true hmezcla, ← hvacia]
    dsimp only
    split_ifs
    · rw [OfertaViva, oferta_finMezcla]
    · exact Iff.rfl
  · exact iff_of_true h fun hc => absurd hc hmezcla

/-! ## Heartbeats and timers -/

/-- `mezcla` uses up the first recovered address with a mask. -/
def usaRecuperada (n : Node) : Prop :=
  ∀ it, (n.rcvdAddr.find? fun it => it.primMask ≠ 0) = some it → n.oferta.QuedaOtra it.primAddr

lemma OfertaViva.mezcla_iff {n : Node} (h : n.OfertaViva) (env : Env) (dst : In6Addr) :
    (n.mezcla env dst).OfertaViva ↔ n.usaRecuperada := by
  have hlist : (n.mezcla env dst).oferta
      = { n.oferta with recuperadas := n.maskAProponer.2.map RecoveredAddr.primAddr } := rfl
  rw [OfertaViva, hlist, maskAProponer, usaRecuperada]
  cases hfind : n.rcvdAddr.find? fun it => it.primMask ≠ 0 with
  | none => exact iff_of_true h fun it hit => absurd hit (by simp)
  | some it =>
      dsimp only
      rw [recuperadas_delRcvdAddrTable]
      refine (h.quitar_iff it.primAddr).trans ⟨fun hq it' hit' => ?_, fun hq => hq it rfl⟩
      rw [← Option.some.inj hit']
      exact hq

/-- What a heartbeat needs: the recovered address it uses up is not the one offered, and if it starts
a fragmentation, the offered address is one that a recovered address is shifted to. -/
def guardaHbOferta (env : Env) (hb : CtrlPkt) (n : Node) : Prop :=
  (n.iniciaMezcla hb → n.usaRecuperada)
    ∧ (n.escucha env hb → ∀ m, n.oirVecino hb (n.porSecundaria hb) = some m → m.seFragmenta env →
      n.oferta.Movida (n.movidaPorFar n.primMaskInicial))

/-- `process_hb`. -/
lemma OfertaViva.processHb_iff {n n' : Node} (h : n.OfertaViva) {env : Env} {hb : CtrlPkt}
    (hstep : n.processHb env hb = some n') : n'.OfertaViva ↔ n.guardaHbOferta env hb := by
  by_cases hmezcla : n.iniciaMezcla hb
  · rw [processHb_of_iniciaMezcla hmezcla] at hstep
    obtain rfl := Option.some.inj hstep
    refine (h.mezcla_iff env hb.primAddr).trans ⟨fun hu => ⟨fun _ => hu, fun hesc => ?_⟩, fun hg => ?_⟩
    · exact absurd hmezcla (escucha_not_iniciaMezcla hesc)
    · exact hg.1 hmezcla
  by_cases hesc : n.escucha env hb
  · rw [processHb_of_escucha hesc] at hstep
    obtain ⟨m, hm, rfl⟩ := Option.map_eq_some_iff.mp hstep
    have hguard : n.guardaHbOferta env hb ↔
        (m.seFragmenta env → n.oferta.Movida (n.movidaPorFar n.primMaskInicial)) := by
      refine ⟨fun hg => hg.2 hesc m hm, fun hg => ⟨fun hc => absurd hc hmezcla, fun _ m' hm' => ?_⟩⟩
      obtain rfl := Option.some.inj (hm.symm.trans hm')
      exact hg
    have hmof : m.oferta = n.oferta := by
      rw [oirVecino_eq hm, oferta_conTablas]
    have hmove : m.movidaPorFar m.primMaskInicial = n.movidaPorFar n.primMaskInicial := by
      rw [oirVecino_eq hm]
      rfl
    rw [hguard]
    by_cases hfrag : m.seFragmenta env
    · rw [detectorDeFragmentacion_of_seFragmenta hfrag, forall_prop_of_true hfrag,
        ofertaViva_fragmentacion_iff, ← hmove, ← hmof]
      exact Iff.rfl
    · have hsame : (m.detectorDeFragmentacion env).oferta = m.oferta := by
        rcases detectorDeFragmentacion_cases env m with heq | heq | ⟨hc, -⟩
        · rw [heq]
        · rw [heq]
          rfl
        · exact absurd hc hfrag
      rw [OfertaViva, hsame, hmof]
      exact iff_of_true h fun hc => absurd hc hfrag
  · have hguard : n.guardaHbOferta env hb := ⟨fun hc => absurd hc hmezcla, fun hc => absurd hc hesc⟩
    refine iff_of_true ?_ hguard
    rcases processHb_cases hstep with rfl | ⟨hc, -⟩ | rfl | ⟨hc, -⟩
    · exact h
    · exact absurd hc hmezcla
    · obtain ⟨ts, o, f, l, heq, -⟩ := chkSecAddr1_eq env hb.primAddr n
      rw [heq]
      exact h
    · exact absurd hc hesc

/-- `check_neighbors` only adds to the recovered addresses. -/
lemma checkNeighborsLoop_recupera {visited its : List Neighbor} {n n' : Node}
    (h : checkNeighborsLoop visited its n = some n') :
    n'.rcvdOffered = n.rcvdOffered ∧ n.recuperadas ⊆ n'.recuperadas := by
  induction its generalizing visited n with
  | nil =>
      obtain rfl := Option.some.inj h
      exact ⟨rfl, List.Subset.refl _⟩
  | cons it its ih =>
      rw [checkNeighborsLoop] at h
      split_ifs at h
      · exact ih h
      · exact ih h
      · exact ih h
      · split at h
        · exact absurd h (by simp)
        · obtain ⟨ho, hr⟩ := ih h
          dsimp only at ho hr
          split_ifs at ho hr
          · refine ⟨ho, List.Subset.trans ?_ hr⟩
            simp [recuperadas, recoverAddrSpace]
          · exact ⟨ho, hr⟩
      · exact ih h

lemma OfertaViva.checkNeighbors {n n' : Node} (h : n.OfertaViva) {env : Env}
    (hstep : n.checkNeighbors env = some n') : n'.OfertaViva := by
  obtain ⟨m, hm, rfl⟩ := Option.map_eq_some_iff.mp hstep
  obtain ⟨ho, hr⟩ := checkNeighborsLoop_recupera hm
  exact fun a ha => hr (h a (ho.symm.trans ha))

/-- `check_neigh_of_secondary_address` only adds to the recovered addresses. -/
lemma OfertaViva.checkNeighOfSecondaryAddress {n : Node} (h : n.OfertaViva) :
    n.checkNeighOfSecondaryAddress.OfertaViva := by
  unfold Node.checkNeighOfSecondaryAddress
  dsimp only
  split_ifs
  · exact h
  · intro a ha
    change a ∈ (n.rcvdAddr ++ [_]).map RecoveredAddr.primAddr
    rw [List.map_append]
    exact List.mem_append_left _ (h a ha)
  · exact h

/-- A node that has been reset has nothing to recover there. -/
lemma oferta_checkNeighOfSecondaryAddress {n : Node} (h : n.primMask = n.secMask) :
    n.checkNeighOfSecondaryAddress.oferta = n.oferta := by
  unfold checkNeighOfSecondaryAddress
  dsimp only
  split_ifs
  · rfl
  · rfl

/-- The checks of `send_hb` empty the list of a node that is alone. -/
lemma OfertaViva.sendHbChecks_iff {n : Node} (h : n.OfertaViva) (env : Env) :
    (n.sendHbChecks env).OfertaViva ↔
      (!n.flagFragmentacion ∧ !n.flagMezcla → n.estaSolo → n.rcvdOffered = none) := by
  have hnsl (m : Node) : m.checkNSLTable.oferta = m.oferta := rfl
  unfold sendHbChecks
  by_cases hidle : !n.flagFragmentacion ∧ !n.flagMezcla
  · rw [if_pos hidle, forall_prop_of_true hidle, OfertaViva, hnsl]
    by_cases hsolo : n.estaSolo
    · have hmask : (n.checkIfIAmOnly env).primMask = (n.checkIfIAmOnly env).secMask := by
        rw [checkIfIAmOnly, if_pos hsolo]
      have hvacia : (n.checkIfIAmOnly env).oferta = n.oferta.olvidar := by
        rw [checkIfIAmOnly, if_pos hsolo]
        rfl
      rw [oferta_checkNeighOfSecondaryAddress hmask, hvacia, Oferta.viva_olvidar_iff,
        forall_prop_of_true hsolo]
      exact Iff.rfl
    · rw [checkIfIAmOnly, if_neg hsolo]
      exact iff_of_true h.checkNeighOfSecondaryAddress fun hc => absurd hc hsolo
  · rw [if_neg hidle]
    exact iff_of_true h fun hc => absurd hc hidle

lemma OfertaViva.timerHandler_iff {n n' : Node} (h : n.OfertaViva) {env : Env} {id : TimerId}
    (hstep : timerHandler env id n = some n') :
    n'.OfertaViva ↔ (id = .hbT → !n.flagFragmentacion ∧ !n.flagMezcla → n.estaSolo →
      n.rcvdOffered = none) := by
  cases id with
  | hbT =>
      obtain rfl := Option.some.inj hstep
      obtain ⟨ts, o, heq, -⟩ := sendHb_eq env true n
      rw [heq]
      exact (h.sendHbChecks_iff env).trans ⟨fun hc _ => hc, fun hc => hc rfl⟩
  | chkNeighT => exact iff_of_true (h.checkNeighbors hstep) fun hc => absurd hc (by simp)
  | rvT =>
      obtain rfl := Option.some.inj hstep
      rw [OfertaViva, oferta_registerRv]
      exact iff_of_true h fun hc => absurd hc (by simp)
  | sanT k =>
      obtain rfl := Option.some.inj hstep
      exact iff_of_true h fun hc => absurd hc (by simp)

/-! ## One step -/

/-- What a packet needs to keep the offer alive. -/
def guardaOfertaPaquete (env : Env) (n : Node) (p : CtrlPkt) : Prop :=
  match p.pktTypeF with
  | .pan => p.adAddr.redNumero = n.redNumero → n.primAddr = p.adAddr.addr →
      n.oferta.QuedaOtra p.primAddr
  | .san => n.oferta.QuedaOtra p.adAddr.addr
  | .hb => n.guardaHbOferta env p
  | .far => p.adAddr.addr ≠ n.secAddr → n.oferta.Movida (n.movidaPorFar p.adAddr.mask)
  | .mar1 =>
      if p.adAddr.redNumero = n.redNumero ∧ n.primAddr = dirDefault then
        n.secAddrFlag ∧ p.adAddr.addr = n.primAddrAux → p.adAddr.addr ≠ n.secAddr →
          n.volverDelDefault.mueveMar1 p
      else
        (p.adAddr.redNumero ≠ n.redNumero ∨ n.secAddrFlag) ∧ p.adAddr.addr = n.primAddr →
          p.adAddr.addr ≠ n.secAddr → n.mueveMar1 p
  | .mar2 => p.adAddr.redNumero ≠ n.redNumero ∨ n.secAddrFlag → p.adAddr.addr ≠ n.secAddr →
      n.esperaMar2 p = false → n.rcvdOffered = none
  | .man1 => p.adAddr.redNumero = n.redNumero → n.flagMezcla ∧ n.primAddr ≠ dirDefault →
      n.oferta.Movida (n.movidaPorMar1 p n.primMaskMezcla)
  | .man2 => p.adAddr.redNumero = n.redNumero → n.flagMezcla → n.rcvdOffered = none
  | _ => True

/-- What a step needs to keep the offer alive. -/
def guardaOferta (n : Node) : Event → Prop
  | .recv env (.ctrl p) => n.timers.expiredTQ = [] → n.vaciar.guardaOfertaPaquete env p
  | .fire _ => (n.timers.expiredTQ.head?.map Timer.id) = some .hbT →
      !n.flagFragmentacion ∧ !n.flagMezcla → n.estaSolo → n.rcvdOffered = none
  | _ => True

/-- **One packet.** -/
lemma OfertaViva.paquete_iff {n n' : Node} (h : n.OfertaViva) {env : Env} {p : CtrlPkt}
    (hstep : antopProcessPkt env (.ctrl p) n = some n') :
    n'.OfertaViva ↔ n.guardaOfertaPaquete env p := by
  unfold antopProcessPkt at hstep
  unfold guardaOfertaPaquete
  dsimp only at hstep
  cases hp : p.pktTypeF with
  | par =>
      simp only [hp] at hstep
      obtain rfl := Option.some.inj hstep
      exact iff_of_true (h.sendPap env p.srcAddr) trivial
  | pan =>
      simp only [hp] at hstep
      split_ifs at hstep with hred haddr
      · obtain rfl := Option.some.inj hstep
        exact iff_of_true h fun hc => absurd hc hred
      · obtain rfl := Option.some.inj hstep
        rw [h.sendPanc_iff]
        exact ⟨fun hc _ _ => hc, fun hc => hc (not_not.mp hred) haddr⟩
      · obtain rfl := Option.some.inj hstep
        exact iff_of_true h fun _ hc => absurd hc haddr
  | san =>
      simp only [hp] at hstep
      exact h.processSan1_iff hstep
  | far =>
      simp only [hp] at hstep
      exact h.processFar_iff hstep
  | mar1 =>
      simp only [hp] at hstep
      rw [dispatchMar1_eq] at hstep
      dsimp only
      by_cases hini : p.adAddr.redNumero = n.redNumero ∧ n.primAddr = dirDefault
      · have hback : n.volverDelDefault.OfertaViva := h
        rw [if_pos hini] at hstep ⊢
        exact iff_of_ite hstep h hback.processMar1_iff
      · rw [if_neg hini] at hstep ⊢
        exact iff_of_ite hstep h h.processMar1_iff
  | mar2 =>
      simp only [hp] at hstep
      exact iff_of_ite hstep h fun hs => Option.some.inj hs ▸ h.processMar2_iff env p
  | man1 =>
      simp only [hp] at hstep
      exact iff_of_ite hstep h fun hs => Option.some.inj hs ▸ h.processMan1_iff env p
  | man2 =>
      simp only [hp] at hstep
      exact iff_of_ite hstep h fun hs => Option.some.inj hs ▸ h.processMan2_iff env p
  | hb =>
      simp only [hp] at hstep
      split_ifs at hstep with hc
      · obtain rfl := Option.some.inj hstep
        refine iff_of_true h ⟨fun hini => ?_, fun hesc => ?_⟩
        · exact absurd hc (not_or.mpr hini.1)
        · exact absurd hc (not_or.mpr hesc.1)
      · exact h.processHb_iff hstep
  | sap =>
      simp only [hp] at hstep
      refine iff_of_true ?_ trivial
      split_ifs at hstep
      · exact Option.some.inj hstep ▸ h
      · exact Option.some.inj hstep ▸ h
      · obtain rfl := Option.some.inj hstep
        exact h
  | fan =>
      simp only [hp] at hstep
      obtain rfl := Option.some.inj hstep
      refine iff_of_true ?_ trivial
      unfold processFan
      split_ifs
      · rw [OfertaViva, oferta_finFragmentacion]
        exact h
      · exact h
  | pap | panc | rvReg | rvAddrLookup | rvAddrSolve =>
      simp only [hp] at hstep
      obtain rfl := Option.some.inj hstep
      exact iff_of_true h trivial

/-- **One step** keeps the offer alive exactly when it meets the guard. -/
lemma ofertaViva_step_iff {n n' : Node} {e : Event} (h : n.OfertaViva) (hstep : n.step e = some n') :
    n'.OfertaViva ↔ n.guardaOferta e := by
  rcases step_cases hstep with ⟨env, pkt, rfl, hexp, hrecv⟩ | ⟨now, rfl, -, rfl⟩
    | ⟨env, t, rest, rfl, hexp, hfire⟩ | ⟨hespera, rfl⟩
  · cases pkt with
    | rv p =>
        refine iff_of_true ?_ trivial
        simp only [antopProcessPkt] at hrecv
        split at hrecv
        · exact Option.some.inj hrecv ▸ h
        · exact Option.some.inj hrecv ▸ h
    | ctrl p =>
        exact (OfertaViva.paquete_iff (n := n.vaciar) h hrecv).trans
          ⟨fun hc _ => hc, fun hc => hc hexp⟩
  · exact iff_of_true h trivial
  · rw [guardaOferta, hexp]
    simp only [List.head?_cons, Option.map_some, Option.some.injEq]
    exact OfertaViva.timerHandler_iff (n := n.vaciar.tomarTimer t.id rest) h hfire
  · refine iff_of_true h ?_
    cases e with
    | recv env pkt =>
        cases pkt with
        | ctrl p => exact fun hexp => absurd hexp hespera
        | rv p => trivial
    | timeout now => trivial
    | fire env =>
        have hexp : n.timers.expiredTQ = [] := hespera
        simp [guardaOferta, hexp]

/-! ## Runs -/

/-- **When the offer stays alive.**  Along any run from a node whose `rcvd_offered` names an address
of `rcvd_addr` it does so in every state exactly when each step meets the guard of its handler. -/
theorem oferta_viva_iff {n : Node} (h : n.OfertaViva) (es : List Event) :
    (∀ u ∈ states Node.step n es, u.OfertaViva)
      ↔ ∀ t ∈ steps Node.step n es, t.1.guardaOferta t.2.1 :=
  invariant_iff_guard (fun _ _ _ hs he => ofertaViva_step_iff hs he) h

/-- The `PAR` of a joiner. -/
def parDeUno : CtrlPkt := { CtrlPkt.zero with pktTypeF := .par, srcAddr := slotAddr root 5 }

/-- The `PAN` with which it takes the address of the first child. -/
def panDeUno : CtrlPkt :=
  { CtrlPkt.zero with
    pktTypeF := .pan, srcAddr := slotAddr root 5, primAddr := slotAddr root 0
    adAddr := { CtrlPkt.zero.adAddr with addr := root } }

/-- The child is given up, and its address is offered to a joiner. -/
theorem oferta_viva_iff_raizConHijo :
    (∀ u ∈ states Node.step (raizConHijo.arrancar ⟨0, 0⟩)
        (([8, 16, 24].flatMap ronda) ++ [.recv .zero (.ctrl parDeUno)]), u.OfertaViva)
      ↔ ∀ t ∈ steps Node.step (raizConHijo.arrancar ⟨0, 0⟩)
          (([8, 16, 24].flatMap ronda) ++ [.recv .zero (.ctrl parDeUno)]), t.1.guardaOferta t.2.1 :=
  oferta_viva_iff (by decide) _

/-- The root gives up its child, offers the address and confirms it: `rcvd_offered` then names an
address that is not in `rcvd_addr` any more. -/
theorem offer_not_released :
    ¬ ∀ (clock : Timeval) (n : Node) (es : List Event), n.OfertaViva →
      ∀ u ∈ states Node.step (n.arrancar clock) es, u.OfertaViva := by
  intro h
  have hrun := h ⟨0, 0⟩ raizConHijo
    (([8, 16, 24].flatMap ronda) ++ [.recv .zero (.ctrl parDeUno), .recv .zero (.ctrl panDeUno)])
    (by decide)
  revert hrun
  decide +kernel

end Node

end Antop
