import Antop.Dispatch

/-!
# The masks of a node

`prim_mask` counts the prefix of the node's block, `prim_mask_inicial` the prefix it was given.
Most handlers that change them test no bound.

* `Mascaras` — what the masks of a node are, with `Mascaras.store` and `Mascaras.sumar`, the two
  ways to change them, and `Mascaras.EnOrden`: `prim_mask_inicial ≤ prim_mask ≤ hc_dim`, and
  nothing stored in `prim_mask` has wrapped.
* `Node.guardaMascaras` — for each handler, what it needs to keep the masks in order.
* `mascaras_enOrden_iff` — a run keeps the masks in order exactly when all its steps meet that.
-/

namespace Antop

open Transition

/-! ## The masks -/

/-- The masks of a node, with its dimension and whether a value stored in `prim_mask` has
wrapped. -/
structure Mascaras where
  hcDim : ℕ
  inicial : UChar
  mask : UChar
  overflow : Bool

namespace Mascaras

/-- The masks are in order. -/
structure EnOrden (m : Mascaras) : Prop where
  inicial_le : m.inicial.toNat ≤ m.mask.toNat
  le_hcDim : m.mask.toNat ≤ m.hcDim
  no_overflow : m.overflow = false

lemma enOrden_def {m : Mascaras} :
    m.EnOrden ↔ m.inicial.toNat ≤ m.mask.toNat ∧ m.mask.toNat ≤ m.hcDim ∧ m.overflow = false :=
  ⟨fun h => ⟨h.1, h.2, h.3⟩, fun h => ⟨h.1, h.2.1, h.2.2⟩⟩

instance (m : Mascaras) : Decidable m.EnOrden := decidable_of_iff _ enOrden_def.symm

/-- A new initial mask, and the result of an arithmetic expression as the mask. -/
def store (m : Mascaras) (inicial : UChar) (v : ℤ) : Mascaras :=
  { m with
    inicial := inicial, mask := BitVec.ofInt 8 v
    overflow := m.overflow || !decide (0 ≤ v ∧ v ≤ 255) }

/-- `k` increments of the mask. -/
def sumar (m : Mascaras) (k : ℕ) : Mascaras :=
  { m with
    mask := m.mask + BitVec.ofNat 8 k
    overflow := m.overflow || decide (255 < m.mask.toNat + k) }

lemma enOrden_sumar_iff {m : Mascaras} (hm : m.overflow = false) (k : ℕ) :
    (m.sumar k).EnOrden ↔ m.inicial.toNat ≤ m.mask.toNat + k
      ∧ m.mask.toNat + k ≤ m.hcDim ∧ m.mask.toNat + k ≤ 255 := by
  rw [enOrden_def]
  simp only [sumar, hm, Bool.false_or, decide_eq_false_iff_not, BitVec.toNat_add,
    BitVec.toNat_ofNat]
  omega

/-- **What it takes to change the masks**: the stored value and the increments stay between the
initial mask and the bounds of the dimension and of the type. -/
lemma enOrden_store_sumar_iff {m : Mascaras} (hm : m.overflow = false) (inicial : UChar) (v : ℤ)
    (k : ℕ) :
    ((m.store inicial v).sumar k).EnOrden ↔
      0 ≤ v ∧ inicial.toNat ≤ v + k ∧ v + k ≤ m.hcDim ∧ v + k ≤ 255 := by
  by_cases hfits : 0 ≤ v ∧ v ≤ 255
  · have hmask : ((BitVec.ofInt 8 v).toNat : ℤ) = v := by
      rw [BitVec.toNat_ofInt]
      omega
    rw [enOrden_sumar_iff (by simp [store, hm, hfits])]
    simp only [store]
    omega
  · -- the wrap is remembered
    have hover : ((m.store inicial v).sumar k).overflow = true := by
      simp only [sumar, store, hm, hfits]
      rfl
    refine iff_of_false (fun h => ?_) fun h => ?_
    · exact absurd h.no_overflow (by simp [hover])
    · omega

lemma enOrden_store_iff {m : Mascaras} (hm : m.overflow = false) (inicial : UChar) (v : ℤ) :
    (m.store inicial v).EnOrden ↔ inicial.toNat ≤ v ∧ v ≤ m.hcDim ∧ v ≤ 255 := by
  have hzero : (m.store inicial v).sumar 0 = m.store inicial v := by
    have h : ¬ 255 < (m.store inicial v).mask.toNat := by
      have := (m.store inicial v).mask.isLt
      omega
    simp [sumar, h]
  rw [← hzero, enOrden_store_sumar_iff hm]
  omega

end Mascaras

namespace Node

/-- The masks of the node. -/
def mascaras (n : Node) : Mascaras :=
  { hcDim := n.hcDim, inicial := n.primMaskInicial, mask := n.primMask
    overflow := n.primMaskOverflow }

/-- `prim_mask_inicial ≤ prim_mask ≤ hc_dim`, without a wrap. -/
abbrev MaskInv (n : Node) : Prop := n.mascaras.EnOrden

lemma mascaras_storePrimMask (n : Node) (v : ℤ) :
    (n.storePrimMask v).mascaras = n.mascaras.store n.primMaskInicial v := rfl

@[simp] lemma mascaras_conTablas (n : Node) (t : List Neighbor) (rv : List LookupTable)
    (o : List (In6Addr × CtrlPkt)) : (n.conTablas t rv o).mascaras = n.mascaras := rfl

@[simp] lemma mascaras_sumarMask (n : Node) (k : ℕ) :
    (n.sumarMask k).mascaras = n.mascaras.sumar k := rfl

@[simp] lemma mascaras_finMezcla (env : Env) (n : Node) :
    (n.finMezcla env).mascaras = n.mascaras := by simp [mascaras]

@[simp] lemma mascaras_finFragmentacion (env : Env) (n : Node) :
    (n.finFragmentacion env).mascaras = n.mascaras := by simp [mascaras]

@[simp] lemma mascaras_tomarMar1 (env : Env) (p : CtrlPkt) (n : Node) :
    (n.tomarMar1 env p).mascaras = n.mascaras := by simp [mascaras, tomarMar1]

@[simp] lemma mascaras_tomarMar2 (env : Env) (aux1 : In6Addr) (n : Node) :
    (n.tomarMar2 env aux1).mascaras = n.mascaras := by simp [mascaras, tomarMar2]

@[simp] lemma mascaras_registerRv (env : Env) (n : Node) :
    (registerRv env n).mascaras = n.mascaras := by simp [mascaras]

/-! ## The handlers -/

/-- The next slot of the own block may be counted as given. -/
def CabeOtro (n : Node) : Prop := n.primMask.toNat + 1 ≤ n.hcDim ∧ n.primMask.toNat + 1 ≤ 255

lemma MaskInv.storePrimMask_succ_iff {n : Node} (h : n.MaskInv) :
    (n.mascaras.store n.primMaskInicial (n.primMask.toNat + 1)).EnOrden ↔ n.CabeOtro := by
  rw [Mascaras.enOrden_store_iff h.no_overflow, CabeOtro]
  have := h.inicial_le
  simp only [mascaras] at this ⊢
  omega

/-- `send_panc`. -/
lemma MaskInv.sendPanc_iff {n : Node} (h : n.MaskInv) (env : Env) (dst primary chosen : In6Addr) :
    (n.sendPanc env dst primary chosen).MaskInv ↔ n.rcvdOffered = some chosen ∨ n.CabeOtro := by
  by_cases hr : n.rcvdOffered = some chosen
  · have hsame : (n.sendPanc env dst primary chosen).mascaras = n.mascaras := by
      rw [sendPanc, if_pos hr]
      rfl
    rw [MaskInv, hsame]
    exact iff_of_true h (Or.inl hr)
  · have hsum : (n.sendPanc env dst primary chosen).mascaras
        = n.mascaras.store n.primMaskInicial (n.primMask.toNat + 1) := by
      rw [sendPanc, if_neg hr]
      rfl
    rw [or_iff_right hr, MaskInv, hsum]
    exact storePrimMask_succ_iff h

/-- `process_san1`. -/
lemma MaskInv.processSan1_iff {n n' : Node} (h : n.MaskInv) {msg : CtrlPkt}
    (hstep : n.processSan1 msg = some n') :
    n'.MaskInv ↔ (n.subeMask msg → msg.adAddr.mask.toNat ≤ n.hcDim) := by
  obtain ⟨t, rfl⟩ := processSan1_eq hstep
  have hini := h.inicial_le
  rw [MaskInv, Mascaras.enOrden_def]
  simp only [mascaras] at hini ⊢
  split_ifs with hs
  · have hlt : n.primMask.toNat < msg.adAddr.mask.toNat := BitVec.lt_def.mp hs.1
    constructor
    · exact fun hc _ => hc.2.1
    · exact fun hc => ⟨by omega, hc hs, h.no_overflow⟩
  · exact iff_of_true ⟨hini, h.le_hcDim, h.no_overflow⟩ fun hc => absurd hc hs

/-- `fragmentacion`: the initial mask is dropped, and it was within the mask. -/
lemma MaskInv.fragmentacion {n : Node} (h : n.MaskInv) (env : Env) : (n.fragmentacion env).MaskInv := by
  have hstore : (n.fragmentacion env).mascaras
      = n.mascaras.store 0 (n.primMask.toNat - n.primMaskInicial.toNat) := by
    rw [fragmentacion_eq]
    rfl
  have hini := h.inicial_le
  have hdim := h.le_hcDim
  have := n.primMask.isLt
  rw [MaskInv, hstore, Mascaras.enOrden_store_iff h.no_overflow]
  simp only [mascaras] at hini hdim ⊢
  rw [show (0 : UChar).toNat = 0 from rfl]
  omega

/-- `process_far`: the mask of the message must not exceed the initial one. -/
lemma MaskInv.processFar_iff {n n' : Node} (h : n.MaskInv) {env : Env} {p : CtrlPkt}
    (hstep : n.processFar env p = some n') :
    n'.MaskInv ↔ (p.adAddr.addr ≠ n.secAddr → p.adAddr.mask.toNat ≤ n.primMaskInicial.toNat) := by
  unfold processFar at hstep
  dsimp only at hstep
  split_ifs at hstep with hsec
  · obtain rfl := Option.some.inj hstep
    obtain ⟨o, heq⟩ := processFarSecundaria_eq env p { n with flagFragmentacion := true }
    have hsame : (processFarSecundaria env p { n with flagFragmentacion := true }).mascaras
        = n.mascaras := by
      rw [heq]
      dsimp only
      split_ifs
      · exact mascaras_finFragmentacion env _
      · rfl
    rw [MaskInv, hsame]
    exact iff_of_true h fun hc => absurd hsec hc
  · obtain ⟨t, rv, o, fin, rfl⟩ := processFarPrimaria_eq hstep
    have hini := h.inicial_le
    have hdim := h.le_hcDim
    have hstore : (n.mascaras.store (n.primMaskInicial - p.adAddr.mask)
        (n.primMask.toNat - p.adAddr.mask.toNat)).EnOrden
          ↔ p.adAddr.mask.toNat ≤ n.primMaskInicial.toNat := by
      have := n.primMask.isLt
      have := n.primMaskInicial.isLt
      have := p.adAddr.mask.isLt
      rw [Mascaras.enOrden_store_iff h.no_overflow]
      simp only [mascaras, BitVec.toNat_sub] at hini hdim ⊢
      omega
    have himp : (p.adAddr.addr ≠ n.secAddr → p.adAddr.mask.toNat ≤ n.primMaskInicial.toNat)
        ↔ p.adAddr.mask.toNat ≤ n.primMaskInicial.toNat :=
      ⟨fun hc => hc hsec, fun hc _ => hc⟩
    rw [himp, ← hstore]
    cases fin
    · exact Iff.rfl
    · rw [if_pos rfl, MaskInv, mascaras_finFragmentacion]
      exact Iff.rfl

/-- What `process_mar1` for the primary address makes of the masks: they move under the mask of the
message, and each `MAR2` counts one slot more. -/
def mascarasMar1 (p : CtrlPkt) (n : Node) : Mascaras :=
  (n.mascaras.store (p.adAddr.mask + 1 + (n.primMaskInicial - n.maskQueCae p))
    (n.primMask.toNat + p.adAddr.mask.toNat - ((n.maskQueCae p).toNat - 1))).sumar (n.mar2sDeMar1 p)

/-- The bounds `process_mar1` needs for the primary address. -/
def CabeMar1 (p : CtrlPkt) (n : Node) : Prop :=
  let v : ℤ := n.primMask.toNat + p.adAddr.mask.toNat - ((n.maskQueCae p).toNat - 1)
  0 ≤ v
    ∧ (p.adAddr.mask + 1 + (n.primMaskInicial - n.maskQueCae p)).toNat ≤ v + n.mar2sDeMar1 p
    ∧ v + n.mar2sDeMar1 p ≤ n.hcDim ∧ v + n.mar2sDeMar1 p ≤ 255

/-- `process_mar1`. -/
lemma MaskInv.processMar1_iff {n n' : Node} (h : n.MaskInv) {env : Env} {p : CtrlPkt}
    (hstep : n.processMar1 env p = some n') :
    n'.MaskInv ↔ (p.adAddr.addr ≠ n.secAddr → n.CabeMar1 p) := by
  unfold processMar1 at hstep
  dsimp only at hstep
  split_ifs at hstep with hsec
  · obtain rfl := Option.some.inj hstep
    obtain ⟨o, heq⟩ := processMar1Secundaria_eq env p { n with flagMezcla := true }
    have hsame : (processMar1Secundaria env p { n with flagMezcla := true }).mascaras
        = n.mascaras := by
      rw [heq]
      dsimp only
      split_ifs
      · exact mascaras_finMezcla env _
      · rfl
    rw [MaskInv, hsame]
    exact iff_of_true h fun hc => absurd hsec hc
  · have hmasc : n'.mascaras = n.mascarasMar1 p := by
      obtain ⟨t, rv, o, ⟨-, rfl⟩ | ⟨-, -, rfl⟩⟩ := processMar1Primaria_eq hstep
      · rw [mascaras_conTablas, mascaras_sumarMask]
        rfl
      · rw [mascaras_tomarMar1, mascaras_conTablas, mascaras_sumarMask]
        rfl
    rw [MaskInv, hmasc, mascarasMar1, Mascaras.enOrden_store_sumar_iff h.no_overflow]
    exact ⟨fun hc _ => hc, fun hc => hc hsec⟩

/-- The bounds `process_mar2` needs for the primary address. -/
def CabeMar2 (p : CtrlPkt) (n : Node) : Prop :=
  p.adAddr.mask.toNat + n.mar2sDeMar2 p ≤ n.hcDim ∧ p.adAddr.mask.toNat + n.mar2sDeMar2 p ≤ 255

/-- `process_mar2`. -/
lemma MaskInv.processMar2_iff {n : Node} (h : n.MaskInv) (env : Env) (p : CtrlPkt) :
    (n.processMar2 env p).MaskInv ↔ (p.adAddr.addr ≠ n.secAddr → n.CabeMar2 p) := by
  unfold processMar2
  dsimp only
  split_ifs with hsec
  · obtain ⟨o, heq⟩ := processMar2Secundaria_eq env p { n with flagMezcla := true }
    have hsame : (processMar2Secundaria env p { n with flagMezcla := true }).mascaras
        = n.mascaras := by
      rw [heq]
      dsimp only
      split_ifs
      · exact mascaras_finMezcla env _
      · rfl
    rw [MaskInv, hsame]
    exact iff_of_true h fun hc => absurd hsec hc
  · have hmasc : (processMar2Primaria env p { n with flagMezcla := true }).mascaras
        = { n.mascaras with inicial := p.adAddr.mask, mask := p.adAddr.mask }.sumar
          (n.mar2sDeMar2 p) := by
      obtain ⟨t, rv, o, ⟨-, heq⟩ | ⟨-, -, heq⟩⟩ := processMar2Primaria_eq env p { n with flagMezcla := true }
      · rw [heq, mascaras_conTablas, mascaras_sumarMask]
        rfl
      · rw [heq, mascaras_tomarMar2, mascaras_conTablas, mascaras_sumarMask]
        rfl
    rw [MaskInv, hmasc]
    refine (Mascaras.enOrden_sumar_iff ?_ _).trans ?_
    · exact h.no_overflow
    · simp only [mascaras, CabeMar2, ne_eq, hsec, not_false_eq_true, forall_const]
      omega

/-- `process_man1`. -/
lemma MaskInv.processMan1_iff {n : Node} (h : n.MaskInv) (env : Env) (p : CtrlPkt) :
    (n.processMan1 env p).MaskInv ↔
      (n.flagMezcla ∧ n.primAddr = dirDefault → p.adAddr.mask = n.primMask → n.CabeOtro) := by
  unfold processMan1
  by_cases hini : n.flagMezcla ∧ n.primAddr = dirDefault
  · rw [if_pos hini]
    by_cases hmask : p.adAddr.mask = n.primMask
    · have hc : p.adAddr.mask = n.volverDelDefault.primMask := hmask
      dsimp only
      rw [if_pos hc, MaskInv, mascaras_storePrimMask]
      exact h.storePrimMask_succ_iff.trans ⟨fun hb _ _ => hb, fun hb => hb hini hmask⟩
    · have hc : ¬ p.adAddr.mask = n.volverDelDefault.primMask := hmask
      dsimp only
      rw [if_neg hc]
      exact iff_of_true h fun _ hb => absurd hb hmask
  · rw [if_neg hini]
    refine iff_of_true ?_ fun hb => absurd hb hini
    split_ifs
    · dsimp only
      split_ifs
      · rw [MaskInv, mascaras_finMezcla]
        exact h
      · exact h
    · exact h

/-- `process_man2`. -/
lemma MaskInv.processMan2 {n : Node} (h : n.MaskInv) (env : Env) (p : CtrlPkt) :
    (n.processMan2 env p).MaskInv := by
  unfold Node.processMan2
  split_ifs
  · dsimp only
    split_ifs
    · rw [MaskInv, mascaras_finMezcla]
      exact h
    · exact h
  · exact h

/-! ## The heartbeat timer -/

/-- What the checks of `send_hb` need: a node that is reset has no secondary address, and one that
takes its secondary block back into its own has given it away. -/
def CabeHb (n : Node) : Prop :=
  if n.estaSolo then n.secAddrFlag = false
  else n.secAddrFlag → ¬ n.secondaryLinkAlive → n.primMask = n.secMask →
    n.primMaskInicial.toNat + 1 ≤ n.primMask.toNat

lemma mascaras_checkNeigh (n : Node) :
    n.checkNeighOfSecondaryAddress.mascaras =
      if (n.secAddrFlag ∧ ¬ n.secondaryLinkAlive) ∧ n.primMask = n.secMask then
        n.mascaras.store n.primMaskInicial (n.primMask.toNat - 1)
      else n.mascaras := by
  unfold checkNeighOfSecondaryAddress
  by_cases hs : n.secAddrFlag ∧ ¬ n.secondaryLinkAlive
  · by_cases hm : n.primMask = n.secMask
    · rw [if_pos hs, if_pos ⟨hs, hm⟩]
      dsimp only
      rw [if_pos hm]
      rfl
    · rw [if_pos hs, if_neg fun hc => hm hc.2]
      dsimp only
      rw [if_neg hm]
      rfl
  · rw [if_neg hs, if_neg fun hc => hs hc.1]

/-- The checks of `send_hb`. -/
lemma MaskInv.sendHbChecks_iff {n : Node} (h : n.MaskInv) (env : Env) :
    (n.sendHbChecks env).MaskInv ↔ (!n.flagFragmentacion ∧ !n.flagMezcla → n.CabeHb) := by
  unfold sendHbChecks CabeHb
  by_cases hidle : !n.flagFragmentacion ∧ !n.flagMezcla
  · have himp (P : Prop) : (!n.flagFragmentacion ∧ !n.flagMezcla → P) ↔ P :=
      ⟨fun hc => hc hidle, fun hc _ => hc⟩
    have hnsl (m : Node) : m.checkNSLTable.mascaras = m.mascaras := rfl
    rw [if_pos hidle, himp, MaskInv, hnsl, mascaras_checkNeigh]
    have hini := h.inicial_le
    have hdim := h.le_hcDim
    have hlt := n.primMask.isLt
    simp only [mascaras] at hini hdim
    by_cases hsolo : n.estaSolo
    · rw [if_pos hsolo, checkIfIAmOnly, if_pos hsolo]
      by_cases hs : n.secAddrFlag
      · -- the masks are 0 now, and the secondary address has no neighbour any more
        rw [if_pos ⟨⟨hs, not_secondaryLinkAlive_of_nil hsolo.1⟩, rfl⟩]
        refine (Mascaras.enOrden_store_iff ?_ _ _).trans (iff_of_false (fun hc => ?_) (by simp [hs]))
        · exact h.no_overflow
        · have : (0 : ℤ) ≤ 0 - 1 := hc.1
          omega
      · rw [if_neg fun hc => hs hc.1.1]
        refine iff_of_true (Mascaras.enOrden_def.mpr ⟨le_refl 0, Nat.zero_le _, h.no_overflow⟩) ?_
        simpa using hs
    · rw [if_neg hsolo, checkIfIAmOnly, if_neg hsolo]
      by_cases hc : (n.secAddrFlag ∧ ¬ n.secondaryLinkAlive) ∧ n.primMask = n.secMask
      · rw [if_pos hc, Mascaras.enOrden_store_iff h.no_overflow]
        simp only [hc.1.1, hc.1.2, hc.2, mascaras, not_false_eq_true, forall_const] at hini hdim hlt ⊢
        omega
      · rw [if_neg hc]
        exact iff_of_true h fun h₁ h₂ h₃ => absurd ⟨⟨h₁, h₂⟩, h₃⟩ hc
  · rw [if_neg hidle]
    exact iff_of_true h fun hc => absurd hc hidle

/-! ## One step -/

/-- What a packet needs to keep the masks in order. -/
def guardaPaquete (n : Node) (p : CtrlPkt) : Prop :=
  match p.pktTypeF with
  | .pan => p.adAddr.redNumero = n.redNumero → n.primAddr = p.adAddr.addr →
      n.rcvdOffered = some p.primAddr ∨ n.CabeOtro
  | .san => n.subeMask p → p.adAddr.mask.toNat ≤ n.hcDim
  | .far => p.adAddr.addr ≠ n.secAddr → p.adAddr.mask.toNat ≤ n.primMaskInicial.toNat
  | .mar1 =>
      if p.adAddr.redNumero = n.redNumero ∧ n.primAddr = dirDefault then
        n.secAddrFlag ∧ p.adAddr.addr = n.primAddrAux → p.adAddr.addr ≠ n.secAddr →
          n.volverDelDefault.CabeMar1 p
      else
        (p.adAddr.redNumero ≠ n.redNumero ∨ n.secAddrFlag) ∧ p.adAddr.addr = n.primAddr →
          p.adAddr.addr ≠ n.secAddr → n.CabeMar1 p
  | .mar2 => p.adAddr.redNumero ≠ n.redNumero ∨ n.secAddrFlag → p.adAddr.addr ≠ n.secAddr →
      n.CabeMar2 p
  | .man1 => p.adAddr.redNumero = n.redNumero → n.flagMezcla ∧ n.primAddr = dirDefault →
      p.adAddr.mask = n.primMask → n.CabeOtro
  | _ => True

/-- What a step needs to keep the masks in order. -/
def guardaMascaras (n : Node) : Event → Prop
  | .recv _ (.ctrl p) => n.timers.expiredTQ = [] → n.guardaPaquete p
  | .fire _ => (n.timers.expiredTQ.head?.map Timer.id) = some .hbT →
      !n.flagFragmentacion ∧ !n.flagMezcla → n.CabeHb
  | _ => True

/-- A heartbeat leaves the masks in order. -/
lemma MaskInv.processHb {n n' : Node} (h : n.MaskInv) {env : Env} {p : CtrlPkt}
    (hstep : n.processHb env p = some n') : n'.MaskInv := by
  rcases processHb_cases hstep with rfl | ⟨-, rfl⟩ | rfl | ⟨-, secFlag, m, hm, rfl⟩
  · exact h
  · exact h
  · obtain ⟨ts, o, f, l, heq, -⟩ := chkSecAddr1_eq env p.primAddr n
    rw [heq]
    exact h
  · have hmInv : m.MaskInv := by
      rw [oirVecino_eq hm, MaskInv, mascaras_conTablas]
      exact h
    rcases detectorDeFragmentacion_cases env m with heq | heq | ⟨-, heq⟩
    · rwa [heq]
    · rw [heq]
      exact hmInv
    · rw [heq]
      exact MaskInv.fragmentacion (n := m.conVecinoRaiz) hmInv env

/-- **One packet.** -/
lemma MaskInv.paquete_iff {n n' : Node} (h : n.MaskInv) {env : Env} {p : CtrlPkt}
    (hstep : antopProcessPkt env (.ctrl p) n = some n') : n'.MaskInv ↔ n.guardaPaquete p := by
  unfold antopProcessPkt at hstep
  unfold guardaPaquete
  dsimp only at hstep
  cases hp : p.pktTypeF with
  | pan =>
      simp only [hp] at hstep
      split_ifs at hstep with hred haddr
      · obtain rfl := Option.some.inj hstep
        exact iff_of_true h fun hc => absurd hc hred
      · obtain rfl := Option.some.inj hstep
        rw [h.sendPanc_iff]
        exact ⟨fun hc _ _ => hc, fun hc => hc (not_not.mp hred) haddr⟩
      · obtain rfl := Option.some.inj hstep
        exact iff_of_true h fun _ hc => absurd hc haddr
  | san =>
      simp only [hp] at hstep
      exact h.processSan1_iff hstep
  | far =>
      simp only [hp] at hstep
      exact h.processFar_iff hstep
  | mar1 =>
      simp only [hp] at hstep
      rw [dispatchMar1_eq] at hstep
      dsimp only
      by_cases hini : p.adAddr.redNumero = n.redNumero ∧ n.primAddr = dirDefault
      · have hback : n.volverDelDefault.MaskInv := h
        rw [if_pos hini] at hstep ⊢
        exact iff_of_ite hstep h hback.processMar1_iff
      · rw [if_neg hini] at hstep ⊢
        exact iff_of_ite hstep h h.processMar1_iff
  | mar2 =>
      simp only [hp] at hstep
      exact iff_of_ite hstep h fun hs => Option.some.inj hs ▸ h.processMar2_iff env p
  | man1 =>
      simp only [hp] at hstep
      exact iff_of_ite hstep h fun hs => Option.some.inj hs ▸ h.processMan1_iff env p
  | hb =>
      simp only [hp] at hstep
      split_ifs at hstep with hc
      · obtain rfl := Option.some.inj hstep
        exact iff_of_true h trivial
      · exact iff_of_true (h.processHb hstep) trivial
  | sap =>
      simp only [hp] at hstep
      refine iff_of_true ?_ trivial
      split_ifs at hstep
      · exact Option.some.inj hstep ▸ h
      · exact Option.some.inj hstep ▸ h
      · obtain rfl := Option.some.inj hstep
        exact h
  | fan =>
      simp only [hp] at hstep
      obtain rfl := Option.some.inj hstep
      refine iff_of_true ?_ trivial
      unfold processFan
      split_ifs
      · rw [MaskInv, mascaras_finFragmentacion]
        exact h
      · exact h
  | man2 =>
      simp only [hp] at hstep
      refine iff_of_true ?_ trivial
      split_ifs at hstep
      · obtain rfl := Option.some.inj hstep
        exact h.processMan2 env p
      · exact Option.some.inj hstep ▸ h
  | par | pap | panc | rvReg | rvAddrLookup | rvAddrSolve =>
      simp only [hp] at hstep
      obtain rfl := Option.some.inj hstep
      exact iff_of_true h trivial

/-- **One timer.** -/
lemma MaskInv.timerHandler_iff {n n' : Node} (h : n.MaskInv) {env : Env} {id : TimerId}
    (hstep : timerHandler env id n = some n') :
    n'.MaskInv ↔ (id = .hbT → !n.flagFragmentacion ∧ !n.flagMezcla → n.CabeHb) := by
  cases id with
  | hbT =>
      obtain rfl := Option.some.inj hstep
      obtain ⟨ts, o, heq, -⟩ := sendHb_eq env true n
      rw [heq]
      exact (h.sendHbChecks_iff env).trans ⟨fun hc _ => hc, fun hc => hc rfl⟩
  | chkNeighT =>
      obtain ⟨m, hm, rfl⟩ := Option.map_eq_some_iff.mp hstep
      obtain ⟨t, rc, rv, rfl⟩ := checkNeighborsLoop_eq hm
      exact iff_of_true h fun hc => absurd hc (by simp)
  | rvT =>
      obtain rfl := Option.some.inj hstep
      rw [MaskInv, mascaras_registerRv]
      exact iff_of_true h fun hc => absurd hc (by simp)
  | sanT k =>
      obtain rfl := Option.some.inj hstep
      exact iff_of_true h fun hc => absurd hc (by simp)

/-- **One step** keeps the masks in order exactly when it meets the guard. -/
lemma maskInv_step_iff {n n' : Node} {e : Event} (h : n.MaskInv) (hstep : n.step e = some n') :
    n'.MaskInv ↔ n.guardaMascaras e := by
  rcases step_cases hstep with ⟨env, pkt, rfl, hexp, hrecv⟩ | ⟨now, rfl, -, rfl⟩
    | ⟨env, t, rest, rfl, hexp, hfire⟩ | ⟨hespera, rfl⟩
  · cases pkt with
    | rv p =>
        refine iff_of_true ?_ trivial
        simp only [antopProcessPkt] at hrecv
        split at hrecv
        · exact Option.some.inj hrecv ▸ h
        · exact Option.some.inj hrecv ▸ h
    | ctrl p =>
        exact (MaskInv.paquete_iff (n := n.vaciar) h hrecv).trans
          ⟨fun hc _ => hc, fun hc => hc hexp⟩
  · exact iff_of_true h trivial
  · rw [guardaMascaras, hexp]
    simp only [List.head?_cons, Option.map_some, Option.some.injEq]
    exact MaskInv.timerHandler_iff (n := n.vaciar.tomarTimer t.id rest) h hfire
  · refine iff_of_true h ?_
    match e with
    | .recv _ (.ctrl p) => exact fun hexp => absurd hexp hespera
    | .recv _ (.rv p) => trivial
    | .timeout now => trivial
    | .fire env =>
        have hexp : n.timers.expiredTQ = [] := hespera
        simp [guardaMascaras, hexp]

/-! ## Runs -/

/-- **When the masks stay in order.**  Along any run from a node whose masks are in order they are
so in every state exactly when each step meets the guard of its handler. -/
theorem mascaras_enOrden_iff {n : Node} (h : n.MaskInv) (es : List Event) :
    (∀ u ∈ states Node.step n es, u.MaskInv)
      ↔ ∀ t ∈ steps Node.step n es, t.1.guardaMascaras t.2.1 :=
  invariant_iff_guard (fun _ _ _ hs he => maskInv_step_iff hs he) h

/-- The `SAN` with which the root's second child, `2001:db8::4000:0:0:1`, agrees to the secondary
address `2001:db8::c000:0:0:1` of its first one. -/
def sanDelVecino : CtrlPkt :=
  { CtrlPkt.zero with
    pktTypeF := .san, srcAddr := slotAddr root 1, primAddr := slotAddr root 1
    adAddr := { tLenght := 2, addr := slotAddr (slotAddr root 0) 1, mask := 2, redNumero := 0 } }

/-- A run of the guarded kind: the secondary address is gained. -/
theorem mascaras_enOrden_iff_hijo :
    (∀ u ∈ states Node.step hijo [.recv .zero (.ctrl sanDelVecino)], u.MaskInv)
      ↔ ∀ t ∈ steps Node.step hijo [.recv .zero (.ctrl sanDelVecino)], t.1.guardaMascaras t.2.1 :=
  mascaras_enOrden_iff (by decide) _

/-- A node that has gained a secondary address and hears nobody any more: `check_if_i_am_only`
resets the masks, and `check_neigh_of_secondary_address` then takes 1 from a mask that is 0. -/
theorem mask_wraps :
    ¬ ∀ (clock : Timeval) (n : Node) (es : List Event), n.MaskInv →
      ∀ u ∈ states Node.step (n.arrancar clock) es, u.MaskInv := by
  intro h
  have hrun := h ⟨0, 0⟩ hijo
    (.recv .zero (.ctrl sanDelVecino) :: ([8, 16, 24, 32].flatMap ronda)) (by decide)
  revert hrun
  decide +kernel

end Node

end Antop
