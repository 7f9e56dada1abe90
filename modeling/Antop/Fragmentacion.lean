import Antop.Tables
import Antop.Shift

/-!
# Fragmentation

A node that has lost its root neighbour, and gets no answer from the root, makes itself the root of
a new network: it drops its own prefix from its address and floods a `FAR` with which the nodes
below it do the same.

* `detectorDeFragmentacion`, `fragmentacion` — detection and the initiator's part.
* `processFar` — the part of a node that receives a `FAR`, for its secondary address
  (`processFarSecundaria`) or its primary one (`processFarPrimaria`).
* `processFan`, `finFragmentacion` — the end of the process.
* `checkIfIAmOnly` — the reset of a node without neighbours.

The loops that send the `FAR`s delete each neighbour they visit.  They run over the table as it was
at their start: a deletion never touches what comes after the entry being visited.
-/

namespace Antop

/-- A recovered address moves with the address of its node. -/
def RecoveredAddr.shiftRoot (hcDim : ℕ) (mask : UChar) (it2 : RecoveredAddr) : RecoveredAddr :=
  { primMask := it2.primMask - mask
    primAddr := shift hcDim 1 mask.toNat root it2.primAddr }

namespace Node

/-- The packet of `send_far`. -/
def farPkt (env : Env) (n : Node) (src dst srcOld : In6Addr) : CtrlPkt :=
  { env.heap with
    pktTypeF := .far, srcAddr := srcOld, primAddr := src
    adAddr := { env.heap.adAddr with
      addr := dst, mask := n.primMaskInicial, redNumero := n.redNumero } }

/-- `send_far`. -/
def sendFar (env : Env) (n : Node) (src dst srcOld : In6Addr) : Node :=
  n.send dst (n.farPkt env src dst srcOld)

/-- `send_fan`. -/
def sendFan (env : Env) (n : Node) (src dst : In6Addr) : Node :=
  n.send dst { env.heap with
    pktTypeF := .fan, srcAddr := src
    adAddr := { env.heap.adAddr with redNumero := n.redNumero } }

/-- The three flags are cleared and the registration starts again. -/
def finFragmentacion (env : Env) (n : Node) : Node :=
  registerRv env { n with
    flagFragmentacion := false, flagFragmentacionPrimaria := false
    flagFragmentacionSecundaria := false }

/-- The end of a fragmentation leaves the place of the node as it is. -/
@[simp] lemma finFragmentacion_frame (env : Env) (n : Node) :
    (n.finFragmentacion env).hcDim = n.hcDim ∧ (n.finFragmentacion env).primAddr = n.primAddr
      ∧ (n.finFragmentacion env).primMask = n.primMask
      ∧ (n.finFragmentacion env).primMaskInicial = n.primMaskInicial
      ∧ (n.finFragmentacion env).primMaskOverflow = n.primMaskOverflow
      ∧ (n.finFragmentacion env).primAddrAux = n.primAddrAux
      ∧ (n.finFragmentacion env).secAddr = n.secAddr
      ∧ (n.finFragmentacion env).secAddrFlag = n.secAddrFlag
      ∧ (n.finFragmentacion env).redNumero = n.redNumero
      ∧ (n.finFragmentacion env).rcvdAddr = n.rcvdAddr ∧ (n.finFragmentacion env).iface = n.iface
      ∧ (n.finFragmentacion env).flagMezcla = n.flagMezcla :=
  by simp [finFragmentacion]

@[simp] lemma out_finFragmentacion (env : Env) (n : Node) : (n.finFragmentacion env).out = n.out :=
  out_registerRv env _

/-! ## The initiator -/

/-- The body of the loop of `fragmentacion`. -/
def fragmentacionEnvio (env : Env) (aux1 aux2 : In6Addr) (n : Node) (it : Neighbor) : Node :=
  if n.secAddrFlag ∧ dist n.secAddr it.primAddr = 1 then n.deleteNeighbor it.primAddr
  else (n.sendFar env aux1 it.primAddr aux2).deleteNeighbor it.primAddr

/-- **The loop of `fragmentacion`**: all visited neighbours are deleted, and those that are not
next to the secondary address are sent a `FAR`. -/
lemma foldl_fragmentacionEnvio (env : Env) (aux1 aux2 : In6Addr) (its : List Neighbor) (n : Node) :
    its.foldl (fragmentacionEnvio env aux1 aux2) n = { n with
      neighTable := (deleteEntries its (n.neighTable, n.rvTable)).1
      rvTable := (deleteEntries its (n.neighTable, n.rvTable)).2
      out := n.out ++ its.flatMap fun it =>
        if n.secAddrFlag ∧ dist n.secAddr it.primAddr = 1 then []
        else [(it.primAddr, farPkt env n aux1 it.primAddr aux2)] } := by
  induction its generalizing n with
  | nil => simp [deleteEntries]
  | cons it its ih =>
      rw [List.foldl_cons, ih]
      by_cases h : n.secAddrFlag ∧ dist n.secAddr it.primAddr = 1
      · simp [fragmentacionEnvio, h, deleteNeighbor, deleteEntries, farPkt]
      · simp [fragmentacionEnvio, h, deleteNeighbor, deleteEntries, sendFar, send, farPkt]

/-- `fragmentacion`. -/
def fragmentacion (env : Env) (n : Node) : Node :=
  let aux2 := n.primAddr
  let n := { n with
    flagFragmentacion := true
    flagFragmentacionPrimaria := if n.secAddrFlag then true else n.flagFragmentacionPrimaria
    redNumero := env.macAddress }
  let aux1 := shift n.hcDim 1 n.primMaskInicial.toNat root aux2
  let n := { n with primAddr := aux1 }.delAndAddnew aux2 aux1 1
  let n := n.storePrimMask (n.primMask.toNat - n.primMaskInicial.toNat)
  let n := { n with
    rcvdAddr := n.rcvdAddr.map (RecoveredAddr.shiftRoot n.hcDim n.primMaskInicial) }
  let n := n.clearRvTables
  let n := n.neighTable.foldl (fragmentacionEnvio env aux1 aux2) n
  { n with primMaskInicial := 0 }

/-- **What `fragmentacion` changes.** -/
lemma fragmentacion_eq (env : Env) (n : Node) :
    n.fragmentacion env = { n.storePrimMask (n.primMask.toNat - n.primMaskInicial.toNat) with
      flagFragmentacion := true
      flagFragmentacionPrimaria := if n.secAddrFlag then true else n.flagFragmentacionPrimaria
      redNumero := env.macAddress
      primAddr := shift n.hcDim 1 n.primMaskInicial.toNat root n.primAddr
      iface := cambiarIface n.secAddr n.primAddr
        (shift n.hcDim 1 n.primMaskInicial.toNat root n.primAddr) n.iface
      primMaskInicial := 0
      rcvdAddr := n.rcvdAddr.map (RecoveredAddr.shiftRoot n.hcDim n.primMaskInicial)
      neighTable := [], rvTable := [], rvServers := []
      out := n.out ++ n.neighTable.flatMap fun it =>
        if n.secAddrFlag ∧ dist n.secAddr it.primAddr = 1 then []
        else [(it.primAddr, { n with redNumero := env.macAddress }.farPkt env
          (shift n.hcDim 1 n.primMaskInicial.toNat root n.primAddr) it.primAddr n.primAddr)] } := by
  unfold fragmentacion
  simp [foldl_fragmentacionEnvio, delAndAddnew, storePrimMask, clearRvTables, deleteEntries_self,
    farPkt]

/-- One round of the loop that looks for the neighbour closest to the root. -/
def masCercaDelRoot (n : Node) (toRoot : NeighborToRoot) (it : Neighbor) : NeighborToRoot :=
  let distance := dist root it.primAddr
  if distance ≤ toRoot.distance ∧ dist n.primAddr it.primAddr = 1
      ∧ ¬ checkAddrInNSLTable it.primAddr n.nSLTable then
    { addr := it.primAddr, distance := distance }
  else toRoot

/-- `detector_de_fragmentacion`. -/
def detectorDeFragmentacion (env : Env) (n : Node) : Node :=
  if n.primAddr = root then n
  else
    let n := { n with neighborToRoot := n.neighTable.foldl n.masCercaDelRoot n.neighborToRoot }
    if n.neighTable.any (fun it => n.neighborToRoot.addr = it.primAddr) then n
    else if env.ping6 then n
    else n.fragmentacion env

/-- The detector's choice of a root neighbour. -/
def conVecinoRaiz (n : Node) : Node :=
  { n with neighborToRoot := n.neighTable.foldl n.masCercaDelRoot n.neighborToRoot }

/-- Whether the detector starts a fragmentation. -/
def seFragmenta (env : Env) (n : Node) : Prop :=
  n.primAddr ≠ root ∧ (∀ it ∈ n.neighTable, n.conVecinoRaiz.neighborToRoot.addr ≠ it.primAddr)
    ∧ env.ping6 = false

instance (env : Env) (n : Node) : Decidable (n.seFragmenta env) := by
  unfold seFragmenta
  infer_instance

/-- **What the detector does.** -/
lemma detectorDeFragmentacion_cases (env : Env) (n : Node) :
    n.detectorDeFragmentacion env = n
      ∨ n.detectorDeFragmentacion env = n.conVecinoRaiz
      ∨ n.seFragmenta env ∧ n.detectorDeFragmentacion env = n.conVecinoRaiz.fragmentacion env := by
  unfold detectorDeFragmentacion
  by_cases hroot : n.primAddr = root
  · exact Or.inl (if_pos hroot)
  · rw [if_neg hroot]
    by_cases hany : n.neighTable.any fun it => n.conVecinoRaiz.neighborToRoot.addr = it.primAddr
    · exact Or.inr (Or.inl (if_pos hany))
    · by_cases hping : env.ping6
      · exact Or.inr (Or.inl ((if_neg hany).trans (if_pos hping)))
      · refine Or.inr (Or.inr ⟨⟨hroot, ?_, by simpa using hping⟩,
          (if_neg hany).trans (if_neg hping)⟩)
        simpa using hany

/-- When the detector starts a fragmentation. -/
lemma detectorDeFragmentacion_of_seFragmenta {env : Env} {n : Node} (h : n.seFragmenta env) :
    n.detectorDeFragmentacion env = n.conVecinoRaiz.fragmentacion env := by
  obtain ⟨hroot, hany, hping⟩ := h
  have hno : ¬ n.neighTable.any fun it => n.conVecinoRaiz.neighborToRoot.addr = it.primAddr := by
    simpa using hany
  have hping : ¬ env.ping6 := by simp [hping]
  unfold detectorDeFragmentacion
  rw [if_neg hroot]
  exact (if_neg hno).trans (if_neg hping)

/-! ## The receiver -/

/-- `process_far` for the secondary address. -/
def processFarSecundaria (env : Env) (antopMsg : CtrlPkt) (n : Node) : Node :=
  let aux3 := n.secAddr
  let n := { n with flagFragmentacionSecundaria := true }
  let n := n.sendFan env aux3 antopMsg.primAddr
  let n := { n with redNumero := antopMsg.adAddr.redNumero }
  let aux1 := shift n.hcDim 1 antopMsg.adAddr.mask.toNat root aux3
  let n := { n with secAddr := aux1 }.delAndAddnew aux3 aux1 0
  let n := { n with secMask := n.secMask - antopMsg.adAddr.mask }
  if n.flagFragmentacionPrimaria then n.finFragmentacion env else n

/-- The body of the loop of `process_far`, with the flag for a `FAR` having been sent. -/
def processFarEnvio (env : Env) (antopMsg : CtrlPkt) (aux1 aux3 : In6Addr) (s : Node × Bool)
    (it : Neighbor) : Node × Bool :=
  let n := s.1
  if n.neighborToRoot.addr ≠ it.primAddr ∧ n.primAddr ≠ it.primAddr
      ∧ antopMsg.srcAddr ≠ it.primAddr then
    if n.secAddrFlag ∧ 1 < dist aux3 it.primAddr then (n.deleteNeighbor it.primAddr, s.2)
    else ((n.sendFar env aux1 it.primAddr aux3).deleteNeighbor it.primAddr, true)
  else if antopMsg.srcAddr = it.primAddr then (n.deleteNeighbor it.primAddr, s.2)
  else s

/-- Whether the loop of `process_far` sends a `FAR` to a neighbour. -/
def reenviaFar (antopMsg : CtrlPkt) (aux3 : In6Addr) (n : Node) (it : In6Addr) : Prop :=
  (n.neighborToRoot.addr ≠ it ∧ n.primAddr ≠ it ∧ antopMsg.srcAddr ≠ it)
    ∧ ¬ (n.secAddrFlag ∧ 1 < dist aux3 it)

instance (antopMsg : CtrlPkt) (aux3 : In6Addr) (n : Node) (it : In6Addr) :
    Decidable (n.reenviaFar antopMsg aux3 it) := by
  unfold reenviaFar
  infer_instance

/-- One round of the loop of `process_far`. -/
lemma processFarEnvio_eq (env : Env) (antopMsg : CtrlPkt) (aux1 aux3 : In6Addr) (n : Node)
    (flag : Bool) (it : Neighbor) :
    ∃ t rv, processFarEnvio env antopMsg aux1 aux3 (n, flag) it =
      ({ n with
          neighTable := t, rvTable := rv
          out := n.out ++
            if n.reenviaFar antopMsg aux3 it.primAddr then
              [(it.primAddr, n.farPkt env aux1 it.primAddr aux3)]
            else [] },
        flag || n.reenviaFar antopMsg aux3 it.primAddr) := by
  by_cases h : n.reenviaFar antopMsg aux3 it.primAddr
  · rw [processFarEnvio, if_pos h.1, if_neg h.2]
    exact ⟨_, _, by simp [h, sendFar, send, deleteNeighbor]; exact ⟨rfl, rfl⟩⟩
  · rw [processFarEnvio]
    split_ifs with hout hsec hsrc
    · exact ⟨_, _, by simp [h, deleteNeighbor]; exact ⟨rfl, rfl⟩⟩
    · exact absurd ⟨hout, hsec⟩ h
    · exact ⟨_, _, by simp [h, deleteNeighbor]; exact ⟨rfl, rfl⟩⟩
    · exact ⟨n.neighTable, n.rvTable, by simp [h]⟩

/-- **The loop of `process_far`**: some visited neighbours are deleted, and those with `reenviaFar`
are sent a `FAR`. -/
lemma foldl_processFarEnvio (env : Env) (antopMsg : CtrlPkt) (aux1 aux3 : In6Addr)
    (its : List Neighbor) (n : Node) (flag : Bool) :
    ∃ t rv, its.foldl (processFarEnvio env antopMsg aux1 aux3) (n, flag) =
      ({ n with
          neighTable := t, rvTable := rv
          out := n.out ++ its.flatMap fun it =>
            if n.reenviaFar antopMsg aux3 it.primAddr then
              [(it.primAddr, n.farPkt env aux1 it.primAddr aux3)]
            else [] },
        flag || its.any fun it => n.reenviaFar antopMsg aux3 it.primAddr) := by
  induction its generalizing n flag with
  | nil => exact ⟨n.neighTable, n.rvTable, by simp⟩
  | cons it its ih =>
      obtain ⟨t, rv, hstep⟩ := processFarEnvio_eq env antopMsg aux1 aux3 n flag it
      obtain ⟨t', rv', h⟩ := ih _ _
      refine ⟨t', rv', ?_⟩
      rw [List.foldl_cons, hstep, h]
      simp [reenviaFar, farPkt, Bool.or_assoc]

/-- What `process_far` does for the primary address before its loop. -/
def processFarCambio (env : Env) (antopMsg : CtrlPkt) (n : Node) : Option Node := do
  let aux3 := n.primAddr
  let n := { n with
    flagFragmentacionPrimaria := true, primMaskInicial := antopMsg.adAddr.mask }
  let n ← n.addNeighbor antopMsg false
  let n := { n with
    neighborToRoot := { addr := antopMsg.primAddr, distance := dist root antopMsg.primAddr } }
  let n := n.sendFan env aux3 antopMsg.primAddr
  let n := { n with redNumero := antopMsg.adAddr.redNumero }
  let aux1 := shift n.hcDim 1 antopMsg.adAddr.mask.toNat root aux3
  let n := { n with primAddr := aux1 }.delAndAddnew aux3 aux1 1
  let n := { n with
    rcvdAddr := n.rcvdAddr.map (RecoveredAddr.shiftRoot n.hcDim antopMsg.adAddr.mask) }
  return n.clearRvTables

/-- The loop of `process_far`.  A node that has given no address away and has no neighbour with a
secondary link sends no `FAR`. -/
def processFarEnvios (env : Env) (antopMsg : CtrlPkt) (aux3 : In6Addr) (auxPrimMaskInicial : UChar)
    (n : Node) : Node × Bool :=
  if n.primMask ≠ auxPrimMaskInicial ∨ n.flagNeighBySecond then
    n.neighTable.foldl (processFarEnvio env antopMsg n.primAddr aux3) (n, false)
  else (n, false)

/-- The masks `process_far` sets after its loop. -/
def processFarMascaras (antopMsg : CtrlPkt) (auxPrimMaskInicial : UChar) (n : Node) : Node :=
  { n.storePrimMask (n.primMask.toNat - antopMsg.adAddr.mask.toNat) with
    primMaskInicial := auxPrimMaskInicial - antopMsg.adAddr.mask }

/-- `process_far` for the primary address. -/
def processFarPrimaria (env : Env) (antopMsg : CtrlPkt) (n : Node) : Option Node := do
  let aux3 := n.primAddr
  let auxPrimMaskInicial := n.primMaskInicial
  let n ← n.processFarCambio env antopMsg
  let r := n.processFarEnvios env antopMsg aux3 auxPrimMaskInicial
  let n := r.1.processFarMascaras antopMsg auxPrimMaskInicial
  return if !r.2 ∧ (!n.secAddrFlag ∨ n.flagFragmentacionSecundaria) then n.finFragmentacion env
    else n

lemma processFarCambio_eq {env : Env} {antopMsg : CtrlPkt} {n n' : Node}
    (h : n.processFarCambio env antopMsg = some n') :
    let aux1 := shift n.hcDim 1 antopMsg.adAddr.mask.toNat root n.primAddr
    ∃ t o, addNeighborTable antopMsg false n.neighTable = some t ∧ n' = { n with
      flagFragmentacionPrimaria := true, redNumero := antopMsg.adAddr.redNumero
      primAddr := aux1, iface := cambiarIface n.secAddr n.primAddr aux1 n.iface
      primMaskInicial := antopMsg.adAddr.mask
      rcvdAddr := n.rcvdAddr.map (RecoveredAddr.shiftRoot n.hcDim antopMsg.adAddr.mask)
      neighborToRoot := { addr := antopMsg.primAddr, distance := dist root antopMsg.primAddr }
      neighTable := t, rvTable := [], rvServers := [], out := o } := by
  unfold processFarCambio at h
  simp only [Option.bind_eq_bind, Option.bind_eq_some_iff, addNeighbor_eq_some] at h
  obtain ⟨_, ⟨t, ht, rfl⟩, h⟩ := h
  exact ⟨t, _, ht, (Option.some.inj h).symm⟩

lemma processFarEnvios_eq (env : Env) (antopMsg : CtrlPkt) (aux3 : In6Addr)
    (auxPrimMaskInicial : UChar) (n : Node) :
    ∃ t rv o, (n.processFarEnvios env antopMsg aux3 auxPrimMaskInicial).1 =
      { n with neighTable := t, rvTable := rv, out := o } := by
  unfold processFarEnvios
  split_ifs
  · obtain ⟨t, rv, h⟩ := foldl_processFarEnvio env antopMsg n.primAddr aux3 n.neighTable n false
    exact ⟨t, rv, _, by rw [h]⟩
  · exact ⟨_, _, _, rfl⟩

/-- **What `process_far` changes** for the primary address. -/
lemma processFarPrimaria_eq {env : Env} {antopMsg : CtrlPkt} {n n' : Node}
    (h : n.processFarPrimaria env antopMsg = some n') :
    let aux1 := shift n.hcDim 1 antopMsg.adAddr.mask.toNat root n.primAddr
    ∃ t rv o, ∃ fin : Bool,
      let m := { n.storePrimMask (n.primMask.toNat - antopMsg.adAddr.mask.toNat) with
        flagFragmentacionPrimaria := true, redNumero := antopMsg.adAddr.redNumero
        primAddr := aux1, iface := cambiarIface n.secAddr n.primAddr aux1 n.iface
        primMaskInicial := n.primMaskInicial - antopMsg.adAddr.mask
        rcvdAddr := n.rcvdAddr.map (RecoveredAddr.shiftRoot n.hcDim antopMsg.adAddr.mask)
        neighborToRoot := { addr := antopMsg.primAddr, distance := dist root antopMsg.primAddr }
        neighTable := t, rvTable := rv, rvServers := [], out := o }
      n' = if fin then m.finFragmentacion env else m := by
  simp only [processFarPrimaria, Option.bind_eq_bind, Option.bind_eq_some_iff] at h
  obtain ⟨n₁, h₁, h⟩ := h
  obtain ⟨t, o, -, rfl⟩ := processFarCambio_eq h₁
  obtain ⟨t', rv, o', henv⟩ := processFarEnvios_eq env antopMsg n.primAddr n.primMaskInicial _
  obtain ⟨fin, rfl⟩ := exists_bool_of_ite (Option.some.inj h)
  refine ⟨t', rv, o', fin, ?_⟩
  rw [henv]
  rfl

/-- **What `process_far` changes** for the secondary address. -/
lemma processFarSecundaria_eq (env : Env) (antopMsg : CtrlPkt) (n : Node) :
    let aux1 := shift n.hcDim 1 antopMsg.adAddr.mask.toNat root n.secAddr
    ∃ o, n.processFarSecundaria env antopMsg =
      let m := { n with
        flagFragmentacionSecundaria := true, redNumero := antopMsg.adAddr.redNumero
        secAddr := aux1, iface := cambiarIface n.primAddr n.secAddr aux1 n.iface
        secMask := n.secMask - antopMsg.adAddr.mask, out := o }
      if n.flagFragmentacionPrimaria then m.finFragmentacion env else m :=
  ⟨_, rfl⟩

/-- `process_far`. -/
def processFar (env : Env) (antopMsg : CtrlPkt) (n : Node) : Option Node :=
  let n := { n with flagFragmentacion := true }
  if antopMsg.adAddr.addr = n.secAddr then some (n.processFarSecundaria env antopMsg)
  else n.processFarPrimaria env antopMsg

/-- `process_fan`. -/
def processFan (env : Env) (n : Node) : Node :=
  if n.flagFragmentacion
      ∧ (!n.secAddrFlag ∨ n.flagFragmentacionPrimaria ∧ n.flagFragmentacionSecundaria) then
    n.finFragmentacion env
  else n

/-! ## A node alone -/

/-- The test of `check_if_i_am_only`. -/
def estaSolo (n : Node) : Prop := n.neighTable = [] ∧ n.primAddr ≠ root

instance (n : Node) : Decidable n.estaSolo := by
  unfold estaSolo
  infer_instance

/-- `check_if_i_am_only`. -/
def checkIfIAmOnly (env : Env) (n : Node) : Node :=
  if n.estaSolo then
    { n.delAndAddnew n.primAddr root 2 with
      primAddr := root, primMask := 0, primMaskInicial := 0, redNumero := env.macAddress
      neighborToRoot := { n.neighborToRoot with distance := 99 }
      secMask := 0, secAddr := .zero
      flagFragmentacion := false, flagFragmentacionPrimaria := false
      flagFragmentacionSecundaria := false
      flagMezcla := false, flagMezclaPrimaria := false, flagMezclaSecundaria := false
      rcvdAddr := [] }
  else n

end Node

end Antop
