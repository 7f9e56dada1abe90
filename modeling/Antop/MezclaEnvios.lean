import Antop.Mezcla
import Antop.Dispatch

/-!
# What a merge sends

The loops of `process_mar1` and `process_mar2` send a message to each neighbour they visit.  Up to the
first `MAR2` of a `process_mar1` they do it in the same way: the `MAR2`s offer one slot of the new
address after the other, and a `MAR1` is passed on as it was.

* `envios` — the messages of a loop; `alcanza_envios` and `ofertas_envios` say whom they reach and what
  they offer.
* `Node.Renumera` — what becomes of a node that reads a `MAR1` or a `MAR2`.
* `Node.renumera_processMar1`, `Node.renumera_processMar2` — that it does.
-/

namespace Antop

/-! ## The messages of a loop -/

/-- A message that renumbers its reader. -/
def esMar (m : CtrlPkt) : Prop := m.pktTypeF = .mar1 ∨ m.pktTypeF = .mar2

/-- The answer to one. -/
def esMan (m : CtrlPkt) : Prop := m.pktTypeF = .man1 ∨ m.pktTypeF = .man2

instance (m : CtrlPkt) : Decidable (esMar m) := by
  unfold esMar
  infer_instance

instance (m : CtrlPkt) : Decidable (esMan m) := by
  unfold esMan
  infer_instance

/-- The slot a `MAR2` offers: the address it is under, and its mask. -/
def oferta (m : In6Addr × CtrlPkt) : Option (In6Addr × UChar) :=
  if m.2.pktTypeF = .mar2 then some (m.2.srcAddr, m.2.adAddr.mask) else none

section Envios

variable (visita abajo : In6Addr → Prop) [DecidablePred visita] [DecidablePred abajo]
  (mar1 : In6Addr → CtrlPkt) (mar2 : In6Addr → ℕ → CtrlPkt)

/-- The messages of a loop over the neighbours, when it has sent `t` `MAR2`s before. -/
def envios : List Neighbor → ℕ → List (In6Addr × CtrlPkt)
  | [], _ => []
  | it :: its, t =>
      if visita it.primAddr then
        if abajo it.primAddr then (it.primAddr, mar1 it.primAddr) :: envios its t
        else (it.primAddr, mar2 it.primAddr (t + 1)) :: envios its (t + 1)
      else envios its t

variable {visita abajo mar1 mar2}

lemma mem_envios {its : List Neighbor} {t : ℕ} {m : In6Addr × CtrlPkt}
    (h : m ∈ envios visita abajo mar1 mar2 its t) :
    (∃ it, abajo it ∧ m = (it, mar1 it)) ∨ ∃ it u, m = (it, mar2 it u) := by
  induction its generalizing t with
  | nil => simp [envios] at h
  | cons it its ih =>
      rw [envios] at h
      split_ifs at h with hv ha
      · rcases List.mem_cons.mp h with rfl | h
        · exact Or.inl ⟨it.primAddr, ha, rfl⟩
        · exact ih h
      · rcases List.mem_cons.mp h with rfl | h
        · exact Or.inr ⟨it.primAddr, t + 1, rfl⟩
        · exact ih h
      · exact ih h

/-- **Every neighbour that is visited** is sent a message. -/
lemma alcanza_envios {its : List Neighbor} {it : Neighbor} (t : ℕ) (h : it ∈ its)
    (hv : visita it.primAddr) : ∃ m ∈ envios visita abajo mar1 mar2 its t, m.1 = it.primAddr := by
  induction its generalizing t with
  | nil => simp at h
  | cons it' its ih =>
      rw [envios]
      rcases List.mem_cons.mp h with rfl | h
      · rw [if_pos hv]
        split_ifs
        · exact ⟨_, List.mem_cons_self, rfl⟩
        · exact ⟨_, List.mem_cons_self, rfl⟩
      · split_ifs
        · obtain ⟨m, hm, heq⟩ := ih t h
          exact ⟨m, List.mem_cons_of_mem _ hm, heq⟩
        · obtain ⟨m, hm, heq⟩ := ih (t + 1) h
          exact ⟨m, List.mem_cons_of_mem _ hm, heq⟩
        · exact ih t h

/-- **The offers** are one slot after the other. -/
lemma ofertas_envios {src : In6Addr} {mask : ℕ → UChar} (h₁ : ∀ it, (mar1 it).pktTypeF = .mar1)
    (h₂ : ∀ it u, oferta (it, mar2 it u) = some (src, mask u)) (its : List Neighbor) (t : ℕ) :
    (envios visita abajo mar1 mar2 its t).filterMap oferta
      = (List.range (its.countP fun it => visita it.primAddr ∧ ¬ abajo it.primAddr)).map
          fun u => (src, mask (t + u + 1)) := by
  have hno (it : In6Addr) : oferta (it, mar1 it) = none := if_neg (by rw [h₁]; decide)
  induction its generalizing t with
  | nil => rfl
  | cons it its ih =>
      rw [envios, List.countP_cons]
      split_ifs with hv ha hc hc hc
      · simp [ha] at hc
      · rw [List.filterMap_cons_none (hno _), ih]
        rfl
      · rw [List.filterMap_cons_some (h₂ _ _), ih, List.range_succ_eq_map, List.map_cons, List.map_map]
        refine congrArg₂ List.cons rfl (List.map_congr_left fun u _ => ?_)
        exact congrArg (fun k => (src, mask k)) (by simp only [Nat.succ_eq_add_one]; omega)
      · simp [hv, ha] at hc
      · simp [hv] at hc
      · exact ih t

end Envios

namespace Node

/-! ## The loop of `process_mar2` -/

/-- The packet of `send_mar2`. -/
def mar2Pkt (env : Env) (n : Node) (primAddr dst src : In6Addr) (mask : UChar) : CtrlPkt :=
  { env.heap with
    pktTypeF := .mar2, srcAddr := src, primAddr := primAddr
    adAddr := { env.heap.adAddr with addr := dst, mask := mask, redNumero := n.redNumero } }

/-- The packet of `send_mar1`. -/
def mar1Pkt (env : Env) (n : Node) (primAddr dst src : In6Addr) (mask tLenght : UChar) : CtrlPkt :=
  { env.heap with
    pktTypeF := .mar1, srcAddr := src, primAddr := primAddr
    adAddr := { tLenght := tLenght, addr := dst, mask := mask, redNumero := n.redNumero } }

/-- The `MAR2` of a loop after which `u` of them have been sent. -/
def mar2DeCiclo (env : Env) (n : Node) (aux1 it : In6Addr) (u : ℕ) : CtrlPkt :=
  n.mar2Pkt env n.primAddr it aux1 (n.primMask + BitVec.ofNat 8 u)

/-- The `MAR1` that a loop passes on. -/
def mar1DeCiclo (env : Env) (msg : CtrlPkt) (n : Node) (it : In6Addr) : CtrlPkt :=
  n.mar1Pkt env n.primAddr it msg.srcAddr msg.adAddr.mask n.primMaskMezcla

/-- A `MAR2` counts one slot as given, and names it. -/
lemma storePrimMask_conTablas (n : Node) (t : ℕ) (tb : List Neighbor) (rv : List LookupTable)
    (o : List (In6Addr × CtrlPkt)) :
    ((n.sumarMask t).conTablas tb rv o).storePrimMask
        (((n.sumarMask t).conTablas tb rv o).primMask.toNat + 1)
      = (n.sumarMask (t + 1)).conTablas tb rv o := by
  rw [← storePrimMask_sumarMask]
  rfl

/-- **The loop of `process_mar2`** sends its offers. -/
lemma out_foldl_processMar2Envio (env : Env) (msg : CtrlPkt) (aux1 : In6Addr) (n : Node)
    (its : List Neighbor) (t : ℕ) (tb : List Neighbor) (rv : List LookupTable)
    (o : List (In6Addr × CtrlPkt)) (flag : Bool) :
    (its.foldl (processMar2Envio env msg aux1) ((n.sumarMask t).conTablas tb rv o, flag)).1.out
      = o ++ envios (n.visitaMar msg.primAddr false) (fun _ => False)
        (n.mar1DeCiclo env msg) (n.mar2DeCiclo env aux1) its t := by
  induction its generalizing t tb rv o flag with
  | nil => simp [envios, conTablas]
  | cons it its ih =>
      rw [List.foldl_cons, envios]
      by_cases hv : n.visitaMar msg.primAddr false it.primAddr
      · have hout : msg.primAddr ≠ it.primAddr := by simpa using hv.1
        have hno : ¬ (((n.sumarMask t).conTablas tb rv o).secAddrFlag
            ∧ 1 < dist ((n.sumarMask t).conTablas tb rv o).primAddr it.primAddr) := hv.2
        rw [if_pos hv, if_neg not_false, processMar2Envio, if_pos hout, if_neg hno,
          storePrimMask_conTablas]
        exact (ih (t + 1) _ _ _ true).trans (List.append_assoc o [_] _)
      · have hv' : ¬ ((n.sumarMask t).conTablas tb rv o).visitaMar msg.primAddr false it.primAddr := hv
        obtain ⟨tb', rv', hs⟩ := processMar2Envio_salta env aux1 flag hv'
        rw [if_neg hv, hs]
        exact ih t tb' rv' o flag

/-! ## The loop of `process_mar1` -/

/-- **The loop of `process_mar1`** sends its offers.  The address under which it offers is shifted with
each `MAR2`, so that this is so as long as there is no second one. -/
lemma out_foldl_processMar1Envio (env : Env) (msg : CtrlPkt) (origen : In6Addr) (monitoreo : Bool)
    (n : Node) (hdef : n.primAddr ≠ dirDefault) (its : List Neighbor) (t : ℕ) (tb : List Neighbor)
    (rv : List LookupTable) (o : List (In6Addr × CtrlPkt)) (aux5 : In6Addr) (flag : Bool)
    (huno : t = 0 ∧ aux5 = n.primAddr ∧ n.mar2Count origen monitoreo its ≤ 1
      ∨ n.mar2Count origen monitoreo its = 0) :
    (its.foldl (processMar1Envio env msg origen monitoreo)
        ⟨(n.sumarMask t).conTablas tb rv o, aux5, flag⟩).node.out
      = o ++ envios (n.visitaMar origen monitoreo) n.haciaAbajo (n.mar1DeCiclo env msg)
        (n.mar2DeCiclo env (shiftMezcla n.hcDim msg.srcAddr n.primAddr msg.adAddr.mask.toNat
          n.primMaskMezcla.toNat)) its t := by
  induction its generalizing t tb rv o aux5 flag with
  | nil => simp [envios, conTablas]
  | cons it its ih =>
      have hcount := n.mar2Count_cons origen monitoreo it its
      rw [List.foldl_cons, envios]
      by_cases hv : n.visitaMar origen monitoreo it.primAddr
      · have hno : ¬ (((n.sumarMask t).conTablas tb rv o).secAddrFlag
            ∧ 1 < dist ((n.sumarMask t).conTablas tb rv o).primAddr it.primAddr) := hv.2
        rw [if_pos hv, processMar1Envio, if_pos hv.1, if_neg hno]
        by_cases ha : n.haciaAbajo it.primAddr
        · have ha' : ((n.sumarMask t).conTablas tb rv o).haciaAbajo it.primAddr := ha
          have hno₁ : n.mar2Count origen monitoreo (it :: its) = n.mar2Count origen monitoreo its := by
            rw [hcount, if_neg (fun h => h.2 ha), Nat.add_zero]
          rw [if_pos ha, if_pos ha', sendMar1, if_neg (show ¬ ((n.sumarMask t).conTablas tb rv
            o).primAddr = dirDefault from hdef)]
          rw [hno₁] at huno
          exact (ih t _ _ _ aux5 true huno).trans (List.append_assoc o [_] _)
        · have ha' : ¬ ((n.sumarMask t).conTablas tb rv o).haciaAbajo it.primAddr := ha
          rw [hcount, if_pos ⟨hv, ha⟩] at huno
          obtain ⟨rfl, rfl, hle⟩ := huno.resolve_right (by omega)
          rw [if_neg ha, if_neg ha', storePrimMask_conTablas]
          exact (ih 1 _ _ _ _ true (Or.inr (by omega))).trans (List.append_assoc o [_] _)
      · have hno₁ : n.mar2Count origen monitoreo (it :: its) = n.mar2Count origen monitoreo its := by
          rw [hcount, if_neg (fun h => hv h.1), Nat.add_zero]
        rw [hno₁] at huno
        have hv' : ¬ ((n.sumarMask t).conTablas tb rv o).visitaMar origen monitoreo it.primAddr := hv
        obtain ⟨tb', rv', hs⟩ := processMar1Envio_salta env msg
          (s := ⟨(n.sumarMask t).conTablas tb rv o, aux5, flag⟩) hv'
        rw [if_neg hv, hs]
        exact ih t tb' rv' o aux5 flag huno

/-! ## The answers -/

/-- The answer to a `MAR`. -/
structure EsRespuesta (msg : CtrlPkt) (type : PktType) (m : In6Addr × CtrlPkt) : Prop where
  tipo : m.2.pktTypeF = type
  destino : m.1 = msg.primAddr
  origen : m.2.srcAddr = msg.srcAddr
  mascara : type = .man1 → m.2.adAddr.mask = msg.adAddr.mask
  numero : m.2.adAddr.redNumero = msg.adAddr.redNumero

lemma out_confirmarMar1 (env : Env) {msg : CtrlPkt} {n : Node}
    (hred : n.redNumero = msg.adAddr.redNumero) :
    ∃ m, EsRespuesta msg .man1 m ∧ (n.confirmarMar1 env msg).out = n.out ++ [m] :=
  ⟨_, ⟨rfl, rfl, rfl, fun _ => rfl, hred⟩, rfl⟩

lemma out_confirmarMar2 (env : Env) {msg : CtrlPkt} {n : Node}
    (hred : n.redNumero = msg.adAddr.redNumero) :
    ∃ m, EsRespuesta msg .man2 m ∧ (n.confirmarMar2 env msg).out = n.out ++ [m] :=
  ⟨_, ⟨rfl, rfl, rfl, by simp, hred⟩, rfl⟩

lemma out_processMar1Directo {env : Env} {msg : CtrlPkt} {n n' : Node}
    (hred : n.redNumero = msg.adAddr.redNumero) (h : n.processMar1Directo env msg = some n') :
    ∃ m, EsRespuesta msg .man1 m ∧ n'.out = n.out ++ [m] := by
  obtain ⟨u, hu, rfl⟩ := Option.map_eq_some_iff.mp h
  unfold antesDeTomar at hu
  rw [out_cerrarPrimaria]
  by_cases hsolo : n.receptorSolo msg
  · rw [if_pos hsolo] at hu ⊢
    obtain ⟨t, -, rfl⟩ := addNeighbor_eq_some.mp hu
    exact out_confirmarMar1 env hred
  · rw [if_neg hsolo] at hu ⊢
    obtain rfl := Option.some.inj hu
    exact out_confirmarMar1 env hred

/-! ## What a `MAR1` makes a node send -/

/-- The messages of the loop of `process_mar1`, for the new address `nueva`. -/
def enviosMar1 (env : Env) (msg : CtrlPkt) (nueva : In6Addr) (n : Node) : List (In6Addr × CtrlPkt) :=
  if n.iniciaCiclo msg then
    envios (n.visitaMar (auxAntopMsg msg).primAddr (n.flagMonitoreo msg)) n.haciaAbajo
      ((n.entrarMar1 msg).mar1DeCiclo env msg) ((n.entrarMar1 msg).mar2DeCiclo env nueva)
      ((n.tablaConEmisor msg).getD []) 0
  else []

/-- The address a `MAR1` gives. -/
def dirDeMar1 (msg : CtrlPkt) (n : Node) : In6Addr :=
  shiftMezcla n.hcDim msg.srcAddr n.primAddr msg.adAddr.mask.toNat (n.maskQueCae msg).toNat

lemma out_processMar1Primaria {env : Env} {msg : CtrlPkt} {n n' : Node}
    (hdef : n.primAddr ≠ dirDefault) (huno : n.mar2sDeMar1 msg ≤ 1)
    (h : n.processMar1Primaria env msg = some n') :
    ∃ m, EsRespuesta msg .man1 m
      ∧ n'.out = n.out ++ n.enviosMar1 env msg (n.dirDeMar1 msg) ++ [m] := by
  obtain ⟨n₁, h₁, h⟩ := Option.bind_eq_some_iff.mp h
  obtain ⟨t₁, ht, hn₁⟩ := Option.map_eq_some_iff.mp h₁
  have hn₁ : n₁ = n.conTablas t₁ n.rvTable n.out := hn₁.symm
  subst hn₁
  unfold enviosMar1
  by_cases hc : n.iniciaCiclo msg
  · rw [if_pos hc] at h ⊢
    rw [mar2sDeMar1_eq ht, if_pos hc] at huno
    have hloop := out_foldl_processMar1Envio env msg (auxAntopMsg msg).primAddr (n.flagMonitoreo msg)
      (n.entrarMar1 msg) hdef t₁ 0 t₁ [] n.out n.primAddr false (Or.inl ⟨rfl, rfl, huno⟩)
    rw [sumarMask_zero] at hloop
    obtain ⟨tb, rv, o, hnode, -⟩ := processMar1Envios_eq env msg (n.flagMonitoreo msg)
      ((n.conTablas t₁ n.rvTable n.out).entrarMar1 msg)
    have hred : (((n.conTablas t₁ n.rvTable n.out).entrarMar1 msg).processMar1Envios env msg
        (n.flagMonitoreo msg)).node.redNumero = msg.adAddr.redNumero := by
      rw [hnode]
      rfl
    rw [ht, Option.getD_some]
    dsimp only at h
    split_ifs at h
    · obtain ⟨m, hm, hout⟩ := out_confirmarMar1 env hred
      exact ⟨m, hm, (Option.some.inj h) ▸ hout.trans (congrArg (· ++ [m]) hloop)⟩
    · obtain ⟨m, hm, hout⟩ := out_processMar1Directo hred h
      exact ⟨m, hm, hout.trans (congrArg (· ++ [m]) hloop)⟩
  · rw [if_neg hc] at h ⊢
    rw [List.append_nil]
    exact out_processMar1Directo (n := (n.conTablas t₁ n.rvTable n.out).entrarMar1 msg) rfl h

/-! ## What a `MAR2` makes a node send -/

/-- The messages of the loop of `process_mar2`, for the new address `nueva`. -/
def enviosMar2 (env : Env) (msg : CtrlPkt) (nueva : In6Addr) (n : Node) : List (In6Addr × CtrlPkt) :=
  if n.primMask ≠ n.primMaskInicial ∨ n.flagNeighBySecond then
    envios (n.visitaMar msg.primAddr false) (fun _ => False)
      ((n.entrarMar2 msg).mar1DeCiclo env msg) ((n.entrarMar2 msg).mar2DeCiclo env nueva)
      n.neighTable 0
  else []

/-- The address a `MAR2` gives. -/
def dirDeMar2 (msg : CtrlPkt) (n : Node) : In6Addr := mar2Addr n.hcDim msg.srcAddr msg.adAddr.mask

lemma out_processMar2Primaria (env : Env) (msg : CtrlPkt) (n : Node) :
    ∃ m, EsRespuesta msg .man2 m ∧ (n.processMar2Primaria env msg).out
      = n.out ++ n.enviosMar2 env msg (n.dirDeMar2 msg) ++ [m] := by
  have hdirecto (u : Node) (hred : u.redNumero = msg.adAddr.redNumero) : ∃ m, EsRespuesta msg .man2 m
      ∧ (u.processMar2Directo env msg (n.dirDeMar2 msg)).out = u.out ++ [m] := by
    rw [processMar2Directo, out_cerrarPrimaria]
    exact out_confirmarMar2 env hred
  unfold processMar2Primaria enviosMar2
  rw [← dirDeMar2]
  dsimp only
  by_cases hc : n.primMask ≠ n.primMaskInicial ∨ n.flagNeighBySecond
  · rw [if_pos hc, if_pos hc]
    have hloop := out_foldl_processMar2Envio env msg (n.dirDeMar2 msg) (n.entrarMar2 msg)
      n.neighTable 0 n.neighTable [] n.out false
    rw [sumarMask_zero] at hloop
    obtain ⟨tb, rv, o, hnode⟩ := foldl_processMar2Envio env msg (n.dirDeMar2 msg) n.neighTable
      (n.entrarMar2 msg) false
    have hred : (n.neighTable.foldl (processMar2Envio env msg (n.dirDeMar2 msg))
        (n.entrarMar2 msg, false)).1.redNumero = msg.adAddr.redNumero := by
      rw [hnode]
      rfl
    split_ifs
    · obtain ⟨m, hm, hout⟩ := out_confirmarMar2 env hred
      exact ⟨m, hm, hout.trans (congrArg (· ++ [m]) hloop)⟩
    · obtain ⟨m, hm, hout⟩ := hdirecto _ hred
      exact ⟨m, hm, hout.trans (congrArg (· ++ [m]) hloop)⟩
  · rw [if_neg hc, if_neg hc, List.append_nil]
    exact hdirecto (n.entrarMar2 msg) rfl

/-! ## Taking the new address -/

/-- The node `v` is `u` with the address `nueva`, and its merge is over. -/
structure Asentada (nueva : In6Addr) (u v : Node) : Prop where
  marco : v.hcDim = u.hcDim ∧ v.secAddr = u.secAddr ∧ v.secAddrFlag = u.secAddrFlag
  numero : v.redNumero = u.redNumero
  mascaras : v.primMask = u.primMask ∧ v.primMaskMezcla = u.primMaskMezcla
  dir : v.flagMezcla = false ∧ v.primAddr = nueva
  sale : v.out = u.out

lemma asentada_finMezcla {u v : Node} (env : Env) (hmarco : v.hcDim = u.hcDim ∧ v.secAddr = u.secAddr
      ∧ v.secAddrFlag = u.secAddrFlag) (hnum : v.redNumero = u.redNumero)
    (hmask : v.primMask = u.primMask ∧ v.primMaskMezcla = u.primMaskMezcla) (hout : v.out = u.out) :
    Asentada v.primAddr u (v.finMezcla env) := by
  constructor
  · simpa using hmarco
  · simpa using hnum
  · simpa [finMezcla_primMaskMezcla] using hmask
  · simp
  · simpa using hout

lemma asentada_mar1 (env : Env) (msg : CtrlPkt) (u : Node) :
    Asentada (shiftMezcla u.hcDim msg.srcAddr u.primAddr msg.adAddr.mask.toNat u.primMaskMezcla.toNat)
      u (((u.adoptarMar1 msg).moverRecuperadas msg).finMezcla env) :=
  asentada_finMezcla (v := (u.adoptarMar1 msg).moverRecuperadas msg) env ⟨rfl, rfl, rfl⟩ rfl ⟨rfl, rfl⟩
    rfl

lemma asentada_tomarMar1 (env : Env) (msg : CtrlPkt) {u : Node} (hsec : u.secAddrFlag = false) :
    Asentada (shiftMezcla u.hcDim msg.srcAddr u.primAddr msg.adAddr.mask.toNat u.primMaskMezcla.toNat)
      u (u.tomarMar1 env msg) := by
  rw [tomarMar1, cerrarPrimaria_of_not_sec (n := (u.adoptarMar1 msg).moverRecuperadas msg) hsec]
  exact asentada_mar1 env msg u

lemma asentada_mar2 (env : Env) (nueva : In6Addr) (u : Node) :
    Asentada nueva u ((u.adoptarMar2 nueva).finMezcla env) :=
  asentada_finMezcla (v := u.adoptarMar2 nueva) env ⟨rfl, rfl, rfl⟩ rfl ⟨rfl, rfl⟩ rfl

lemma asentada_tomarMar2 (env : Env) (nueva : In6Addr) {u : Node} (hsec : u.secAddrFlag = false) :
    Asentada nueva u (u.tomarMar2 env nueva) := by
  rw [tomarMar2, cerrarPrimaria_of_not_sec (n := u.adoptarMar2 nueva) hsec]
  exact asentada_mar2 env nueva u

/-! ## A renumbered node -/

/-- A `MAR1` that is passed on, as the node `n` sends it. -/
structure EsMar1 (msg : CtrlPkt) (n : Node) (m : In6Addr × CtrlPkt) : Prop where
  tipo : m.2.pktTypeF = .mar1
  destino : m.2.adAddr.addr = m.1
  emisor : m.2.primAddr = n.primAddr
  origen : m.2.srcAddr = msg.srcAddr
  mascara : m.2.adAddr.mask = msg.adAddr.mask
  caida : m.2.adAddr.tLenght = n.maskQueCae msg
  numero : m.2.adAddr.redNumero = msg.adAddr.redNumero

/-- A `MAR2` of the node `n` for a slot under `nueva`. -/
structure EsMar2 (msg : CtrlPkt) (nueva : In6Addr) (n : Node) (m : In6Addr × CtrlPkt) : Prop where
  tipo : m.2.pktTypeF = .mar2
  destino : m.2.adAddr.addr = m.1
  emisor : m.2.primAddr = n.primAddr
  origen : m.2.srcAddr = nueva
  numero : m.2.adAddr.redNumero = msg.adAddr.redNumero

/-- **What becomes of a node that is renumbered** under `nueva`, with the mask `mask` before it gives
`r` slots away: it takes the address at once, or has sent a `MAR` and waits for the answer. -/
structure Renumera (msg : CtrlPkt) (man : PktType) (nueva : In6Addr) (mask : UChar) (r : ℕ)
    (n n' : Node) : Prop where
  marco : n'.hcDim = n.hcDim ∧ n'.secAddr = n.secAddr ∧ n'.secAddrFlag = n.secAddrFlag
  numero : n'.redNumero = msg.adAddr.redNumero
  mascara : n'.primMask = mask + BitVec.ofNat 8 r
  toma : n'.flagMezcla = false ∧ n'.primAddr = nueva
    ∨ n'.flagMezcla = true ∧ n'.primAddr = n.primAddr ∧ ∃ m ∈ n'.out, esMar m.2
  responde : ∃ m ∈ n'.out, EsRespuesta msg man m
  envia : ∀ m ∈ n'.out, EsRespuesta msg man m ∨ man = .man1 ∧ EsMar1 msg n m ∨ EsMar2 msg nueva n m
  ofertas : n'.out.filterMap oferta
    = (List.range r).map fun u => (nueva, mask + BitVec.ofNat 8 (u + 1))

/-- The slots of its `MAR2`s. -/
lemma Renumera.exists_ranura {msg : CtrlPkt} {man : PktType} {nueva : In6Addr} {mask : UChar} {r : ℕ}
    {n n' : Node} (h : Renumera msg man nueva mask r n n') {m : In6Addr × CtrlPkt} (hm : m ∈ n'.out)
    (ht : m.2.pktTypeF = .mar2) : ∃ u < r, m.2.adAddr.mask = mask + BitVec.ofNat 8 (u + 1) := by
  have hmem : (m.2.srcAddr, m.2.adAddr.mask) ∈ n'.out.filterMap oferta :=
    List.mem_filterMap.mpr ⟨m, hm, if_pos ht⟩
  rw [h.ofertas] at hmem
  obtain ⟨u, hu, heq⟩ := List.mem_map.mp hmem
  exact ⟨u, List.mem_range.mp hu, (congrArg Prod.snd heq).symm⟩

/-- The answer offers nothing. -/
lemma oferta_respuesta {msg : CtrlPkt} {man : PktType} {m : In6Addr × CtrlPkt}
    (h : EsRespuesta msg man m) (hman : man ≠ .mar2) : oferta m = none :=
  if_neg fun hc => hman (h.tipo.symm.trans hc)

lemma oferta_mar2DeCiclo (env : Env) (n : Node) (nueva it : In6Addr) (u : ℕ) :
    oferta (it, n.mar2DeCiclo env nueva it u) = some (nueva, n.primMask + BitVec.ofNat 8 u) :=
  if_pos rfl

/-! ### `MAR1` -/

section Mar1

variable {env : Env} {msg : CtrlPkt} {nueva : In6Addr} {n n' : Node}

lemma envia_enviosMar1 {m : In6Addr × CtrlPkt} (hm : m ∈ n.enviosMar1 env msg nueva) :
    EsMar1 msg n m ∨ EsMar2 msg nueva n m := by
  unfold enviosMar1 at hm
  split_ifs at hm
  · rcases mem_envios hm with ⟨it, -, rfl⟩ | ⟨it, u, rfl⟩
    · exact Or.inl ⟨rfl, rfl, rfl, rfl, rfl, rfl, rfl⟩
    · exact Or.inr ⟨rfl, rfl, rfl, rfl, rfl⟩
  · exact absurd hm List.not_mem_nil

lemma ofertas_enviosMar1 : (n.enviosMar1 env msg nueva).filterMap oferta
    = (List.range (n.mar2sDeMar1 msg)).map fun u =>
      (nueva, (n.entrarMar1 msg).primMask + BitVec.ofNat 8 (u + 1)) := by
  unfold enviosMar1 mar2sDeMar1
  by_cases hc : n.iniciaCiclo msg
  · simp only [if_pos hc]
    refine (ofertas_envios (fun _ => rfl) (oferta_mar2DeCiclo env _ nueva) _ 0).trans ?_
    cases n.tablaConEmisor msg with
    | none => rfl
    | some t => simp only [Nat.zero_add]; rfl
  · simp only [if_neg hc]
    cases n.tablaConEmisor msg with
    | none => rfl
    | some t => rfl

/-- The neighbours the loop of `process_mar1` reaches. -/
lemma alcanza_enviosMar1 {t : List Neighbor} {it : Neighbor} (hc : n.iniciaCiclo msg)
    (ht : n.tablaConEmisor msg = some t) (hit : it ∈ t)
    (hv : n.visitaMar (auxAntopMsg msg).primAddr (n.flagMonitoreo msg) it.primAddr) :
    ∃ m ∈ n.enviosMar1 env msg nueva, esMar m.2 ∧ m.1 = it.primAddr := by
  obtain ⟨m, hm, heq⟩ : ∃ m ∈ n.enviosMar1 env msg nueva, m.1 = it.primAddr := by
    unfold enviosMar1
    rw [if_pos hc, ht, Option.getD_some]
    exact alcanza_envios 0 hit hv
  refine ⟨m, hm, ?_, heq⟩
  rcases envia_enviosMar1 hm with h | h
  · exact Or.inl h.tipo
  · exact Or.inr h.tipo

/-- A node that waits has sent a message. -/
lemma exists_enviosMar1 (h : n.esperaMar1 msg = true) :
    ∃ m ∈ n.enviosMar1 env msg nueva, esMar m.2 := by
  unfold esperaMar1 at h
  cases ht : n.tablaConEmisor msg with
  | none => simp [ht] at h
  | some t =>
      simp only [ht, Bool.and_eq_true, decide_eq_true_eq, List.any_eq_true] at h
      obtain ⟨hc, it, hit, hv⟩ := h
      obtain ⟨m, hm, hmar, -⟩ := alcanza_enviosMar1 hc ht hit hv
      exact ⟨m, hm, hmar⟩

/-- **`process_mar1`** renumbers a node without a secondary address. -/
theorem renumera_processMar1 (hsec : n.secAddrFlag = false) (hmez : n.flagMezcla = true)
    (hout : n.out = []) (hdef : n.primAddr ≠ dirDefault) (huno : n.mar2sDeMar1 msg ≤ 1)
    (h : n.processMar1Primaria env msg = some n') :
    Renumera msg .man1 (n.dirDeMar1 msg) (n.entrarMar1 msg).primMask (n.mar2sDeMar1 msg) n n'
      ∧ n'.primMaskMezcla = n.maskQueCae msg := by
  obtain ⟨man, hman, hsale⟩ := out_processMar1Primaria hdef huno h
  rw [hout, List.nil_append] at hsale
  obtain ⟨t, rv, o, hn'⟩ := processMar1Primaria_eq h
  have hcampos : (n'.hcDim = n.hcDim ∧ n'.secAddr = n.secAddr ∧ n'.secAddrFlag = n.secAddrFlag)
      ∧ n'.redNumero = msg.adAddr.redNumero
      ∧ (n'.primMask = (n.entrarMar1 msg).primMask + BitVec.ofNat 8 (n.mar2sDeMar1 msg)
        ∧ n'.primMaskMezcla = n.maskQueCae msg)
      ∧ (n'.flagMezcla = false ∧ n'.primAddr = n.dirDeMar1 msg
        ∨ n'.flagMezcla = true ∧ n'.primAddr = n.primAddr ∧ n.esperaMar1 msg = true) := by
    rcases hn' with ⟨hespera, rfl⟩ | ⟨-, -, rfl⟩
    · simp [hmez, hespera]
    · have hs := asentada_tomarMar1 env msg
        (u := ((n.entrarMar1 msg).sumarMask (n.mar2sDeMar1 msg)).conTablas t rv o) (by simpa using hsec)
      refine ⟨?_, ?_, ?_, Or.inl ?_⟩
      · simpa using hs.marco
      · simpa using hs.numero
      · simpa using hs.mascaras
      · simpa [dirDeMar1] using hs.dir
  obtain ⟨hmarco, hred, ⟨hmask, hcae⟩, htoma⟩ := hcampos
  refine ⟨⟨hmarco, hred, hmask, ?_, ?_, ?_, ?_⟩, hcae⟩
  · refine htoma.imp_right fun ⟨hflag, hprim, hespera⟩ => ⟨hflag, hprim, ?_⟩
    obtain ⟨m, hm, hmar⟩ := exists_enviosMar1 hespera
    exact ⟨m, hsale ▸ List.mem_append_left _ hm, hmar⟩
  · exact ⟨man, hsale ▸ List.mem_append_right _ List.mem_cons_self, hman⟩
  · intro m hm
    rw [hsale] at hm
    rcases List.mem_append.mp hm with hm | hm
    · exact Or.inr ((envia_enviosMar1 hm).imp_left fun h => ⟨rfl, h⟩)
    · exact Or.inl (List.mem_singleton.mp hm ▸ hman)
  · rw [hsale, List.filterMap_append, ofertas_enviosMar1,
      List.filterMap_cons_none (oferta_respuesta hman (by decide)), List.filterMap_nil, List.append_nil]

/-- The neighbours a renumbered node has reached. -/
lemma alcanza_processMar1 {t : List Neighbor} {it : Neighbor} (hout : n.out = [])
    (hdef : n.primAddr ≠ dirDefault) (huno : n.mar2sDeMar1 msg ≤ 1)
    (h : n.processMar1Primaria env msg = some n') (hc : n.iniciaCiclo msg)
    (ht : n.tablaConEmisor msg = some t) (hit : it ∈ t)
    (hv : n.visitaMar (auxAntopMsg msg).primAddr (n.flagMonitoreo msg) it.primAddr) :
    ∃ m ∈ n'.out, esMar m.2 ∧ m.1 = it.primAddr := by
  obtain ⟨man, -, hsale⟩ := out_processMar1Primaria hdef huno h
  rw [hout, List.nil_append] at hsale
  have halcanza : ∃ m ∈ n.enviosMar1 env msg (n.dirDeMar1 msg), esMar m.2 ∧ m.1 = it.primAddr :=
    alcanza_enviosMar1 hc ht hit hv
  obtain ⟨m, hm, hmar⟩ := halcanza
  exact ⟨m, hsale ▸ List.mem_append_left _ hm, hmar⟩

end Mar1

/-! ### `MAR2` -/

section Mar2

variable {env : Env} {msg : CtrlPkt} {nueva : In6Addr} {n : Node}

lemma envia_enviosMar2 {m : In6Addr × CtrlPkt} (hm : m ∈ n.enviosMar2 env msg nueva) :
    EsMar2 msg nueva n m := by
  unfold enviosMar2 at hm
  split_ifs at hm
  · rcases mem_envios hm with ⟨it, hno, -⟩ | ⟨it, u, rfl⟩
    · exact absurd hno not_false
    · exact ⟨rfl, rfl, rfl, rfl, rfl⟩
  · exact absurd hm List.not_mem_nil

lemma ofertas_enviosMar2 : (n.enviosMar2 env msg nueva).filterMap oferta
    = (List.range (n.mar2sDeMar2 msg)).map fun u =>
      (nueva, msg.adAddr.mask + BitVec.ofNat 8 (u + 1)) := by
  unfold enviosMar2 mar2sDeMar2
  split_ifs
  · refine (ofertas_envios (fun _ => rfl) (oferta_mar2DeCiclo env _ nueva) _ 0).trans ?_
    simp only [Nat.zero_add, not_false_eq_true, and_true]
    rfl
  · rfl

/-- The neighbours the loop of `process_mar2` reaches. -/
lemma alcanza_enviosMar2 {it : Neighbor} (hc : n.primMask ≠ n.primMaskInicial ∨ n.flagNeighBySecond)
    (hit : it ∈ n.neighTable) (hv : n.visitaMar msg.primAddr false it.primAddr) :
    ∃ m ∈ n.enviosMar2 env msg nueva, esMar m.2 ∧ m.1 = it.primAddr := by
  obtain ⟨m, hm, heq⟩ : ∃ m ∈ n.enviosMar2 env msg nueva, m.1 = it.primAddr := by
    unfold enviosMar2
    rw [if_pos hc]
    exact alcanza_envios 0 hit hv
  exact ⟨m, hm, Or.inr (envia_enviosMar2 hm).tipo, heq⟩

/-- A node that waits has sent a message. -/
lemma exists_enviosMar2 (h : n.esperaMar2 msg = true) :
    ∃ m ∈ n.enviosMar2 env msg nueva, esMar m.2 := by
  simp only [esperaMar2, Bool.and_eq_true, decide_eq_true_eq, List.any_eq_true] at h
  obtain ⟨hc, it, hit, hv⟩ := h
  obtain ⟨m, hm, hmar, -⟩ := alcanza_enviosMar2 hc hit hv
  exact ⟨m, hm, hmar⟩

/-- **`process_mar2`** renumbers a node without a secondary address. -/
theorem renumera_processMar2 (env : Env) (msg : CtrlPkt) (hsec : n.secAddrFlag = false)
    (hmez : n.flagMezcla = true) (hout : n.out = []) :
    Renumera msg .man2 (n.dirDeMar2 msg) msg.adAddr.mask (n.mar2sDeMar2 msg) n
      (n.processMar2Primaria env msg) := by
  obtain ⟨man, hman, hsale⟩ := out_processMar2Primaria env msg n
  rw [hout, List.nil_append] at hsale
  obtain ⟨t, rv, o, hn'⟩ := processMar2Primaria_eq env msg n
  rw [← dirDeMar2] at hn'
  generalize n.processMar2Primaria env msg = n' at hsale hn' ⊢
  have hcampos : (n'.hcDim = n.hcDim ∧ n'.secAddr = n.secAddr ∧ n'.secAddrFlag = n.secAddrFlag)
      ∧ n'.redNumero = msg.adAddr.redNumero
      ∧ n'.primMask = msg.adAddr.mask + BitVec.ofNat 8 (n.mar2sDeMar2 msg)
      ∧ (n'.flagMezcla = false ∧ n'.primAddr = n.dirDeMar2 msg
        ∨ n'.flagMezcla = true ∧ n'.primAddr = n.primAddr ∧ n.esperaMar2 msg = true) := by
    rcases hn' with ⟨hespera, rfl⟩ | ⟨-, -, rfl⟩
    · simp [hmez, hespera]
    · have hs := asentada_tomarMar2 env (n.dirDeMar2 msg)
        (u := ((n.entrarMar2 msg).sumarMask (n.mar2sDeMar2 msg)).conTablas t rv o) (by simpa using hsec)
      refine ⟨?_, ?_, ?_, Or.inl ?_⟩
      · simpa using hs.marco
      · simpa using hs.numero
      · simpa using hs.mascaras.1
      · exact hs.dir
  obtain ⟨hmarco, hred, hmask, htoma⟩ := hcampos
  refine ⟨hmarco, hred, hmask, ?_, ?_, ?_, ?_⟩
  · refine htoma.imp_right fun ⟨hflag, hprim, hespera⟩ => ⟨hflag, hprim, ?_⟩
    obtain ⟨m, hm, hmar⟩ := exists_enviosMar2 hespera
    exact ⟨m, hsale ▸ List.mem_append_left _ hm, hmar⟩
  · exact ⟨man, hsale ▸ List.mem_append_right _ List.mem_cons_self, hman⟩
  · intro m hm
    rw [hsale] at hm
    rcases List.mem_append.mp hm with hm | hm
    · exact Or.inr (Or.inr (envia_enviosMar2 hm))
    · exact Or.inl (List.mem_singleton.mp hm ▸ hman)
  · rw [hsale, List.filterMap_append, ofertas_enviosMar2,
      List.filterMap_cons_none (oferta_respuesta hman (by decide)), List.filterMap_nil, List.append_nil]

/-- The neighbours a renumbered node has reached. -/
lemma alcanza_processMar2 {it : Neighbor} (hout : n.out = [])
    (hc : n.primMask ≠ n.primMaskInicial ∨ n.flagNeighBySecond) (hit : it ∈ n.neighTable)
    (hv : n.visitaMar msg.primAddr false it.primAddr) :
    ∃ m ∈ (n.processMar2Primaria env msg).out, esMar m.2 ∧ m.1 = it.primAddr := by
  obtain ⟨man, -, hsale⟩ := out_processMar2Primaria env msg n
  rw [hout, List.nil_append] at hsale
  have halcanza : ∃ m ∈ n.enviosMar2 env msg (n.dirDeMar2 msg), esMar m.2 ∧ m.1 = it.primAddr :=
    alcanza_enviosMar2 hc hit hv
  obtain ⟨m, hm, hmar⟩ := halcanza
  exact ⟨m, hsale ▸ List.mem_append_left _ hm, hmar⟩

end Mar2

end Node

end Antop
