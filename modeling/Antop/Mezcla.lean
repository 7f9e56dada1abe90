import Antop.Tables
import Antop.Shift

/-!
# Merging two networks

A node that hears a heartbeat of a network with a greater number invites that network under
itself: it takes `dir_default` as its address and sends a `MAR1` (`mezcla`).  The node that receives
it, and every node the message reaches, is renumbered.

* `processMar1` — a node that moves with the prefix of the inviting node.  It forwards the `MAR1` to
  the neighbours farther from the root and sends a `MAR2` to the others.
* `processMar2` — a node that gets a fresh slot under the sender.
* `processMan1`, `processMan2` — the answers.  A node that has sent a `MAR` takes its new address
  only when an answer comes.
* `shiftMezcla` (in `Antop.Shift`) computes the addresses.

As in the fragmentation, the loops run over the table as it was at their start.
-/

namespace Antop

/-- `shift_mezcla` with the masks of a message. -/
def RecoveredAddr.shiftMezcla (hcDim : ℕ) (src : In6Addr) (mask mf : UChar) (it2 : RecoveredAddr) :
    RecoveredAddr :=
  { primMask := it2.primMask + mask - (mf - 1)
    primAddr := Antop.shiftMezcla hcDim src it2.primAddr mask.toNat mf.toNat }

/-- The address `process_mar2` computes: the bit before the end of the mask is set in the address of
the sender. -/
def mar2Addr (hcDim : ℕ) (src : In6Addr) (mask : UChar) : In6Addr :=
  (shiftUnos 0 ((128 - hcDim) + mask.toNat - 1) (.ofWords 0x0080 0 0 0 0 0 0 0)).or src

namespace Node

/-- `send_mar1`.  A node with the default address sends to all nodes in range. -/
def sendMar1 (env : Env) (n : Node) (primAddr dst src : In6Addr) (mask tLenght : UChar) : Node :=
  n.send (if primAddr = dirDefault then multicast else dst) { env.heap with
    pktTypeF := .mar1, srcAddr := src, primAddr := primAddr
    adAddr := { tLenght := tLenght, addr := dst, mask := mask, redNumero := n.redNumero } }

/-- `send_mar2`. -/
def sendMar2 (env : Env) (n : Node) (primAddr dst src : In6Addr) (mask : UChar) : Node :=
  n.send dst { env.heap with
    pktTypeF := .mar2, srcAddr := src, primAddr := primAddr
    adAddr := { env.heap.adAddr with addr := dst, mask := mask, redNumero := n.redNumero } }

/-- `send_man1`, `send_man2`: they differ in the type. -/
def sendMan (env : Env) (type : PktType) (n : Node) (src dst srcOrig : In6Addr)
    (maskOrig redNum : UChar) : Node :=
  n.send dst { env.heap with
    pktTypeF := type, srcAddr := srcOrig, primAddr := src
    adAddr := { env.heap.adAddr with addr := dst, mask := maskOrig, redNumero := redNum } }

/-- `send_man1`. -/
def sendMan1 (env : Env) (n : Node) := sendMan env .man1 n

/-- `send_man2`. -/
def sendMan2 (env : Env) (n : Node) := sendMan env .man2 n

/-- The three flags are cleared and the registration starts again. -/
def finMezcla (env : Env) (n : Node) : Node :=
  registerRv env { n with
    flagMezcla := false, flagMezclaPrimaria := false, flagMezclaSecundaria := false }

/-- The end of the primary part: the merge is over unless the secondary part is still to come. -/
def cerrarPrimaria (env : Env) (n : Node) : Node :=
  if !n.secAddrFlag || n.flagMezclaSecundaria then n.finMezcla env else n

/-- The end of a merge leaves the place of the node as it is. -/
@[simp] lemma finMezcla_frame (env : Env) (n : Node) :
    (n.finMezcla env).hcDim = n.hcDim ∧ (n.finMezcla env).primAddr = n.primAddr
      ∧ (n.finMezcla env).primMask = n.primMask
      ∧ (n.finMezcla env).primMaskInicial = n.primMaskInicial
      ∧ (n.finMezcla env).primMaskOverflow = n.primMaskOverflow
      ∧ (n.finMezcla env).primAddrAux = n.primAddrAux ∧ (n.finMezcla env).secAddr = n.secAddr
      ∧ (n.finMezcla env).secAddrFlag = n.secAddrFlag ∧ (n.finMezcla env).redNumero = n.redNumero
      ∧ (n.finMezcla env).rcvdAddr = n.rcvdAddr ∧ (n.finMezcla env).iface = n.iface := by
  simp only [finMezcla, registerRv_frame, and_self]

@[simp] lemma finMezcla_flagMezcla (env : Env) (n : Node) :
    (n.finMezcla env).flagMezcla = false := by
  simp only [finMezcla, registerRv_frame]

lemma finMezcla_primMaskMezcla (env : Env) (n : Node) :
    (n.finMezcla env).primMaskMezcla = n.primMaskMezcla := by
  rw [finMezcla, registerRv_eq]

/-- So does the end of the primary part. -/
@[simp] lemma cerrarPrimaria_frame (env : Env) (n : Node) :
    (n.cerrarPrimaria env).hcDim = n.hcDim ∧ (n.cerrarPrimaria env).primAddr = n.primAddr
      ∧ (n.cerrarPrimaria env).primMask = n.primMask
      ∧ (n.cerrarPrimaria env).primMaskInicial = n.primMaskInicial
      ∧ (n.cerrarPrimaria env).primMaskOverflow = n.primMaskOverflow
      ∧ (n.cerrarPrimaria env).primAddrAux = n.primAddrAux
      ∧ (n.cerrarPrimaria env).secAddr = n.secAddr
      ∧ (n.cerrarPrimaria env).secAddrFlag = n.secAddrFlag
      ∧ (n.cerrarPrimaria env).redNumero = n.redNumero
      ∧ (n.cerrarPrimaria env).rcvdAddr = n.rcvdAddr ∧ (n.cerrarPrimaria env).iface = n.iface := by
  unfold cerrarPrimaria
  split_ifs
  · exact finMezcla_frame env n
  · exact ⟨rfl, rfl, rfl, rfl, rfl, rfl, rfl, rfl, rfl, rfl, rfl⟩

@[simp] lemma out_finMezcla (env : Env) (n : Node) : (n.finMezcla env).out = n.out :=
  out_registerRv env _

@[simp] lemma out_cerrarPrimaria (env : Env) (n : Node) : (n.cerrarPrimaria env).out = n.out := by
  unfold cerrarPrimaria
  split_ifs
  · exact out_finMezcla env n
  · rfl

/-- A node without a secondary address has only the primary part to do. -/
lemma cerrarPrimaria_of_not_sec {env : Env} {n : Node} (hsec : n.secAddrFlag = false) :
    n.cerrarPrimaria env = n.finMezcla env := by
  simp [cerrarPrimaria, hsec]

/-! ## The initiator -/

/-- The slot `mezcla` offers: that of the first recovered address with a mask, which is used up, or
the next one of the own block. -/
def maskAProponer (n : Node) : UChar × List RecoveredAddr :=
  match n.rcvdAddr.find? fun it => it.primMask ≠ 0 with
  | some it => (it.primMask - 1, delRcvdAddrTable it.primAddr n.rcvdAddr)
  | none => (n.primMask, n.rcvdAddr)

/-- `mezcla`.  The address is overwritten before `del_and_addnew` is called with it. -/
def mezcla (env : Env) (dst : In6Addr) (n : Node) : Node :=
  let (mask, rcvdAddr) := n.maskAProponer
  let n := { n with rcvdAddr := rcvdAddr, flagMezcla := true, primAddrAux := n.primAddr }
  let n := { n with primAddr := dirDefault }
  let n := n.delAndAddnew n.primAddr dirDefault 2
  n.sendMar1 env n.primAddr dst n.primAddrAux mask 0

/-- `detector_de_mezcla`, with what its caller reads as the result. -/
def detectorDeMezcla (env : Env) (hb : CtrlPkt) (n : Node) : Node × ℤ :=
  if n.redNumero < hb.adAddr.redNumero ∧ !n.flagConexion ∧ n.flagInit then
    (n.mezcla env hb.primAddr, 1)
  else if n.redNumero = hb.adAddr.redNumero then (n, 0)
  else if hb.adAddr.redNumero < n.redNumero then (n, -1)
  else (n, env.undef)

/-! ## `MAR1` -/

/-- `process_mar1` for the secondary address. -/
def processMar1Secundaria (env : Env) (antopMsg : CtrlPkt) (n : Node) : Node :=
  let aux7 := n.secAddr
  let n := { n with
    flagMezclaSecundaria := true
    secMask := n.secMask + antopMsg.adAddr.mask - (antopMsg.adAddr.tLenght - 1)
    redNumero := antopMsg.adAddr.redNumero }
  let n := n.sendMan1 env aux7 antopMsg.primAddr antopMsg.srcAddr antopMsg.adAddr.mask n.redNumero
  let aux6 := shiftMezcla n.hcDim antopMsg.srcAddr aux7 antopMsg.adAddr.mask.toNat
    antopMsg.adAddr.tLenght.toNat
  let n := { n with secAddr := aux6 }.delAndAddnew aux7 aux6 0
  if n.flagMezclaPrimaria then n.finMezcla env else n

/-- **What `process_mar1` changes** for the secondary address. -/
lemma processMar1Secundaria_eq (env : Env) (antopMsg : CtrlPkt) (n : Node) :
    let aux6 := shiftMezcla n.hcDim antopMsg.srcAddr n.secAddr antopMsg.adAddr.mask.toNat
      antopMsg.adAddr.tLenght.toNat
    ∃ o, n.processMar1Secundaria env antopMsg =
      let m := { n with
        flagMezclaSecundaria := true, redNumero := antopMsg.adAddr.redNumero
        secMask := n.secMask + antopMsg.adAddr.mask - (antopMsg.adAddr.tLenght - 1)
        secAddr := aux6, iface := cambiarIface n.primAddr n.secAddr aux6 n.iface, out := o }
      if n.flagMezclaPrimaria then m.finMezcla env else m :=
  ⟨_, rfl⟩

/-- What the loop of `process_mar1` carries: the node, the address it puts into the `MAR2`s, and
whether a message has been sent. -/
structure Mar1Loop where
  node : Node
  aux5 : In6Addr
  flag : Bool

/-- The neighbours that get a `MAR1`: those farther from the root and those with a secondary link. -/
def haciaAbajo (n : Node) (it : In6Addr) : Prop :=
  dist root n.primAddr < dist root it ∨ checkAddrInNSLTable it n.nSLTable

instance (n : Node) (it : In6Addr) : Decidable (n.haciaAbajo it) := by
  unfold haciaAbajo
  infer_instance

/-- The body of the loop of `process_mar1`.  `origen` is the neighbour the message came from,
`monitoreo` says that it is also one of the old neighbours. -/
def processMar1Envio (env : Env) (antopMsg : CtrlPkt) (origen : In6Addr) (monitoreo : Bool)
    (s : Mar1Loop) (it : Neighbor) : Mar1Loop :=
  let n := s.node
  if origen ≠ it.primAddr ∨ monitoreo then
    if n.secAddrFlag ∧ 1 < dist n.primAddr it.primAddr then
      { s with node := n.deleteNeighbor it.primAddr }
    else if n.haciaAbajo it.primAddr then
      let n := n.sendMar1 env n.primAddr it.primAddr antopMsg.srcAddr antopMsg.adAddr.mask
        n.primMaskMezcla
      { s with node := n.deleteNeighbor it.primAddr, flag := true }
    else
      let aux5 := shiftMezcla n.hcDim antopMsg.srcAddr s.aux5 antopMsg.adAddr.mask.toNat
        n.primMaskMezcla.toNat
      let n := n.storePrimMask (n.primMask.toNat + 1)
      let n := n.sendMar2 env n.primAddr it.primAddr aux5 n.primMask
      { node := n.deleteNeighbor it.primAddr, aux5 := aux5, flag := true }
  else s

/-- The neighbours the loops of `process_mar1` and `process_mar2` send to: not the one the message came
from, and not one that is only linked to the secondary address. -/
def visitaMar (origen : In6Addr) (monitoreo : Bool) (n : Node) (it : In6Addr) : Prop :=
  (origen ≠ it ∨ monitoreo) ∧ ¬ (n.secAddrFlag ∧ 1 < dist n.primAddr it)

instance (origen : In6Addr) (monitoreo : Bool) (n : Node) (it : In6Addr) :
    Decidable (n.visitaMar origen monitoreo it) := by
  unfold visitaMar
  infer_instance

/-- How many `MAR2`s the loop of `process_mar1` sends. -/
def mar2Count (origen : In6Addr) (monitoreo : Bool) (n : Node) (its : List Neighbor) : ℕ :=
  its.countP fun it => n.visitaMar origen monitoreo it.primAddr ∧ ¬ n.haciaAbajo it.primAddr

lemma mar2Count_cons (origen : In6Addr) (monitoreo : Bool) (n : Node) (it : Neighbor)
    (its : List Neighbor) :
    n.mar2Count origen monitoreo (it :: its) = n.mar2Count origen monitoreo its
      + if n.visitaMar origen monitoreo it.primAddr ∧ ¬ n.haciaAbajo it.primAddr then 1 else 0 := by
  simp [mar2Count, List.countP_cons]

lemma mar2Count_singleton_add (origen : In6Addr) (monitoreo : Bool) (n : Node) (it : Neighbor)
    (its : List Neighbor) :
    n.mar2Count origen monitoreo (it :: its)
      = n.mar2Count origen monitoreo [it] + n.mar2Count origen monitoreo its := by
  rw [mar2Count, ← List.singleton_append, List.countP_append]
  rfl

/-- A neighbour that is not visited is sent nothing: at most it is dropped. -/
lemma processMar1Envio_salta (env : Env) (antopMsg : CtrlPkt) {origen : In6Addr} {monitoreo : Bool}
    {s : Mar1Loop} {it : Neighbor} (hv : ¬ s.node.visitaMar origen monitoreo it.primAddr) :
    ∃ t rv, processMar1Envio env antopMsg origen monitoreo s it
      = { s with node := s.node.conTablas t rv s.node.out } := by
  rw [processMar1Envio]
  split_ifs with hout hsec
  · exact ⟨_, _, rfl⟩
  · exact absurd ⟨hout, hsec⟩ hv
  · exact absurd ⟨hout, hsec⟩ hv
  · exact ⟨_, _, rfl⟩

/-- One round of the loop of `process_mar1`. -/
lemma processMar1Envio_eq (env : Env) (antopMsg : CtrlPkt) (origen : In6Addr) (monitoreo : Bool)
    (s : Mar1Loop) (it : Neighbor) :
    ∃ t rv o, (processMar1Envio env antopMsg origen monitoreo s it).node =
        (s.node.sumarMask (s.node.mar2Count origen monitoreo [it])).conTablas t rv o
      ∧ (processMar1Envio env antopMsg origen monitoreo s it).flag
        = (s.flag || s.node.visitaMar origen monitoreo it.primAddr) := by
  by_cases hv : s.node.visitaMar origen monitoreo it.primAddr
  · by_cases ha : s.node.haciaAbajo it.primAddr
    · have hk : s.node.mar2Count origen monitoreo [it] = 0 := by simp [mar2Count, ha]
      rw [processMar1Envio, if_pos hv.1, if_neg hv.2, if_pos ha, hk, sumarMask_zero]
      exact ⟨_, _, _, rfl, by simp [hv]⟩
    · have hk : s.node.mar2Count origen monitoreo [it] = 1 := by simp [mar2Count, ha, hv]
      rw [processMar1Envio, if_pos hv.1, if_neg hv.2, if_neg ha, hk, storePrimMask_succ]
      exact ⟨_, _, _, rfl, by simp [hv]⟩
  · have hk : s.node.mar2Count origen monitoreo [it] = 0 := by simp [mar2Count, hv]
    obtain ⟨t, rv, hs⟩ := processMar1Envio_salta env antopMsg hv
    rw [hs, hk, sumarMask_zero]
    exact ⟨_, _, _, rfl, by simp [hv]⟩

/-- **The loop of `process_mar1`** leaves the mask increased by the number of `MAR2`s; it has sent
something when it has visited a neighbour. -/
lemma foldl_processMar1Envio (env : Env) (antopMsg : CtrlPkt) (origen : In6Addr) (monitoreo : Bool)
    (its : List Neighbor) (s : Mar1Loop) :
    ∃ t rv o, (its.foldl (processMar1Envio env antopMsg origen monitoreo) s).node =
        (s.node.sumarMask (s.node.mar2Count origen monitoreo its)).conTablas t rv o
      ∧ (its.foldl (processMar1Envio env antopMsg origen monitoreo) s).flag
        = (s.flag || its.any fun it => s.node.visitaMar origen monitoreo it.primAddr) := by
  induction its generalizing s with
  | nil => exact ⟨s.node.neighTable, s.node.rvTable, s.node.out, by simp [mar2Count, conTablas]⟩
  | cons it its ih =>
      obtain ⟨t, rv, o, hnode, hflag⟩ := processMar1Envio_eq env antopMsg origen monitoreo s it
      obtain ⟨t', rv', o', hnode', hflag'⟩ := ih (processMar1Envio env antopMsg origen monitoreo s it)
      refine ⟨t', rv', o', ?_, ?_⟩
      · rw [List.foldl_cons, hnode', mar2Count_singleton_add, ← sumarMask_sumarMask, hnode]
        rfl
      · rw [List.foldl_cons, hflag', hflag, hnode, List.any_cons, Bool.or_assoc]
        rfl

/-- The message as the loop of `process_mar1` sees it: the initiator is known by its own address. -/
def auxAntopMsg (antopMsg : CtrlPkt) : CtrlPkt :=
  if antopMsg.primAddr = dirDefault then { antopMsg with primAddr := antopMsg.srcAddr } else antopMsg

/-- `flag_monitoreo`: a neighbour has the address of the initiator. -/
def flagMonitoreo (antopMsg : CtrlPkt) (n : Node) : Bool :=
  decide (antopMsg.primAddr = dirDefault) && n.neighTable.any fun it => it.primAddr = antopMsg.srcAddr

/-- The first receiver takes the initiator into its table, unless it has no neighbours or knows it
already. -/
def tablaConEmisor (antopMsg : CtrlPkt) (n : Node) : Option (List Neighbor) :=
  if (antopMsg.primAddr = dirDefault ∧ n.neighTable ≠ []) ∧ !n.flagMonitoreo antopMsg then
    addNeighborTable (auxAntopMsg antopMsg) false n.neighTable
  else some n.neighTable

/-- The node with the initiator in its table. -/
def agregarEmisor (antopMsg : CtrlPkt) (n : Node) : Option Node :=
  (n.tablaConEmisor antopMsg).map fun t => { n with neighTable := t }

/-- `prim_mask_mezcla`, the mask that falls away: the own initial one at the first receiver, and that
of the message at the others. -/
def maskQueCae (antopMsg : CtrlPkt) (n : Node) : UChar :=
  if antopMsg.primAddr = dirDefault then n.primMaskInicial else antopMsg.adAddr.tLenght

/-- What `process_mar1` sets before its loop. -/
def entrarMar1 (antopMsg : CtrlPkt) (n : Node) : Node :=
  let primMaskMezcla := n.maskQueCae antopMsg
  { n.storePrimMask
      (n.primMask.toNat + antopMsg.adAddr.mask.toNat - (primMaskMezcla.toNat - 1)) with
    flagMezclaPrimaria := true
    neighborToRoot := { n.neighborToRoot with distance := 99 }
    primMaskMezcla := primMaskMezcla
    redNumero := antopMsg.adAddr.redNumero
    primMaskInicial := antopMsg.adAddr.mask + 1 + (n.primMaskInicial - primMaskMezcla)
    rvTable := [], rvServers := [] }

/-- Before its loop `process_mar1` changes masks and number. -/
@[simp] lemma entrarMar1_frame (antopMsg : CtrlPkt) (n : Node) :
    (n.entrarMar1 antopMsg).hcDim = n.hcDim ∧ (n.entrarMar1 antopMsg).primAddr = n.primAddr
      ∧ (n.entrarMar1 antopMsg).primAddrAux = n.primAddrAux
      ∧ (n.entrarMar1 antopMsg).secAddr = n.secAddr
      ∧ (n.entrarMar1 antopMsg).secAddrFlag = n.secAddrFlag
      ∧ (n.entrarMar1 antopMsg).rcvdAddr = n.rcvdAddr ∧ (n.entrarMar1 antopMsg).iface = n.iface
      ∧ (n.entrarMar1 antopMsg).flagMezcla = n.flagMezcla :=
  ⟨rfl, rfl, rfl, rfl, rfl, rfl, rfl, rfl⟩

/-- The number is that of the message, and the mask that falls away is remembered. -/
@[simp] lemma entrarMar1_numero (antopMsg : CtrlPkt) (n : Node) :
    (n.entrarMar1 antopMsg).redNumero = antopMsg.adAddr.redNumero
      ∧ (n.entrarMar1 antopMsg).primMaskMezcla = n.maskQueCae antopMsg := ⟨rfl, rfl⟩

/-- The loop of `process_mar1`. -/
def processMar1Envios (env : Env) (antopMsg : CtrlPkt) (monitoreo : Bool) (n : Node) : Mar1Loop :=
  n.neighTable.foldl
    (processMar1Envio env antopMsg (auxAntopMsg antopMsg).primAddr monitoreo)
    { node := n, aux5 := n.primAddr, flag := false }

/-- Taking over the address a `MAR1` gives. -/
def adoptarMar1 (antopMsg : CtrlPkt) (n : Node) : Node :=
  let aux4 := n.primAddr
  let aux1 := shiftMezcla n.hcDim antopMsg.srcAddr aux4 antopMsg.adAddr.mask.toNat
    n.primMaskMezcla.toNat
  { n with primAddr := aux1 }.delAndAddnew aux4 aux1 1

/-- Taking over an address. -/
@[simp] lemma adoptarMar1_frame (antopMsg : CtrlPkt) (n : Node) :
    (n.adoptarMar1 antopMsg).hcDim = n.hcDim ∧ (n.adoptarMar1 antopMsg).primMask = n.primMask
      ∧ (n.adoptarMar1 antopMsg).primMaskInicial = n.primMaskInicial
      ∧ (n.adoptarMar1 antopMsg).primMaskOverflow = n.primMaskOverflow
      ∧ (n.adoptarMar1 antopMsg).primAddrAux = n.primAddrAux
      ∧ (n.adoptarMar1 antopMsg).secAddr = n.secAddr
      ∧ (n.adoptarMar1 antopMsg).secAddrFlag = n.secAddrFlag
      ∧ (n.adoptarMar1 antopMsg).redNumero = n.redNumero
      ∧ (n.adoptarMar1 antopMsg).rcvdAddr = n.rcvdAddr
      ∧ (n.adoptarMar1 antopMsg).flagMezcla = n.flagMezcla :=
  ⟨rfl, rfl, rfl, rfl, rfl, rfl, rfl, rfl, rfl, rfl⟩

/-- The recovered addresses move along. -/
def moverRecuperadas (antopMsg : CtrlPkt) (n : Node) : Node :=
  { n with
    rcvdAddr := n.rcvdAddr.map (RecoveredAddr.shiftMezcla n.hcDim antopMsg.srcAddr
      antopMsg.adAddr.mask n.primMaskMezcla) }

/-- Moving the recovered addresses. -/
@[simp] lemma moverRecuperadas_frame (antopMsg : CtrlPkt) (n : Node) :
    (n.moverRecuperadas antopMsg).hcDim = n.hcDim
      ∧ (n.moverRecuperadas antopMsg).primAddr = n.primAddr
      ∧ (n.moverRecuperadas antopMsg).primMask = n.primMask
      ∧ (n.moverRecuperadas antopMsg).primMaskInicial = n.primMaskInicial
      ∧ (n.moverRecuperadas antopMsg).primMaskOverflow = n.primMaskOverflow
      ∧ (n.moverRecuperadas antopMsg).primAddrAux = n.primAddrAux
      ∧ (n.moverRecuperadas antopMsg).secAddr = n.secAddr
      ∧ (n.moverRecuperadas antopMsg).secAddrFlag = n.secAddrFlag
      ∧ (n.moverRecuperadas antopMsg).redNumero = n.redNumero
      ∧ (n.moverRecuperadas antopMsg).iface = n.iface
      ∧ (n.moverRecuperadas antopMsg).flagMezcla = n.flagMezcla :=
  ⟨rfl, rfl, rfl, rfl, rfl, rfl, rfl, rfl, rfl, rfl, rfl⟩

/-- `send_man1` as `process_mar1` calls it. -/
def confirmarMar1 (env : Env) (antopMsg : CtrlPkt) (n : Node) : Node :=
  n.sendMan1 env n.primAddr antopMsg.primAddr antopMsg.srcAddr antopMsg.adAddr.mask n.redNumero

/-- The first receiver has no neighbours. -/
def receptorSolo (antopMsg : CtrlPkt) (n : Node) : Prop :=
  antopMsg.primAddr = dirDefault ∧ n.neighTable = []

instance (antopMsg : CtrlPkt) (n : Node) : Decidable (n.receptorSolo antopMsg) := by
  unfold receptorSolo
  infer_instance

/-- What `process_mar1` does before it takes an address at once: it confirms, or takes the initiator
into a new table. -/
def antesDeTomar (env : Env) (antopMsg : CtrlPkt) (n : Node) : Option Node :=
  if n.receptorSolo antopMsg then n.initNeighTable.addNeighbor (auxAntopMsg antopMsg) false
  else some (n.confirmarMar1 env antopMsg)

/-- `process_mar1` for a node that has sent nothing: it takes its address at once.  The first
receiver without neighbours confirms under its new address. -/
def processMar1Directo (env : Env) (antopMsg : CtrlPkt) (n : Node) : Option Node :=
  (n.antesDeTomar env antopMsg).map fun m =>
    let m := m.adoptarMar1 antopMsg
    let m := if n.receptorSolo antopMsg then m.confirmarMar1 env antopMsg else m
    (m.moverRecuperadas antopMsg).cerrarPrimaria env

/-- The test in front of the loop of `process_mar1`: the node has given addresses away, or is the
first receiver and has neighbours, or has neighbours with a secondary link. -/
def iniciaCiclo (antopMsg : CtrlPkt) (n : Node) : Prop :=
  n.primMask ≠ n.primMaskInicial ∨ (antopMsg.primAddr = dirDefault ∧ n.neighTable ≠ [])
    ∨ n.flagNeighBySecond

instance (antopMsg : CtrlPkt) (n : Node) : Decidable (n.iniciaCiclo antopMsg) := by
  unfold iniciaCiclo
  infer_instance

/-- `process_mar1` for the primary address. -/
def processMar1Primaria (env : Env) (antopMsg : CtrlPkt) (n : Node) : Option Node := do
  let m := (← n.agregarEmisor antopMsg).entrarMar1 antopMsg
  if n.iniciaCiclo antopMsg then
    let s := m.processMar1Envios env antopMsg (n.flagMonitoreo antopMsg)
    if s.flag then return s.node.confirmarMar1 env antopMsg
    else s.node.processMar1Directo env antopMsg
  else m.processMar1Directo env antopMsg

/-- How many `MAR2`s `process_mar1` sends for the primary address. -/
def mar2sDeMar1 (antopMsg : CtrlPkt) (n : Node) : ℕ :=
  match n.tablaConEmisor antopMsg with
  | none => 0
  | some t =>
      if n.iniciaCiclo antopMsg then
        n.mar2Count (auxAntopMsg antopMsg).primAddr (n.flagMonitoreo antopMsg) t
      else 0

/-- Whether `process_mar1` sends a message for the primary address, and so has to wait for an
answer. -/
def esperaMar1 (antopMsg : CtrlPkt) (n : Node) : Bool :=
  match n.tablaConEmisor antopMsg with
  | none => false
  | some t => n.iniciaCiclo antopMsg && t.any fun it =>
      n.visitaMar (auxAntopMsg antopMsg).primAddr (n.flagMonitoreo antopMsg) it.primAddr

lemma mar2sDeMar1_eq {antopMsg : CtrlPkt} {n : Node} {t : List Neighbor}
    (ht : n.tablaConEmisor antopMsg = some t) :
    n.mar2sDeMar1 antopMsg = if n.iniciaCiclo antopMsg then
      n.mar2Count (auxAntopMsg antopMsg).primAddr (n.flagMonitoreo antopMsg) t else 0 := by
  unfold mar2sDeMar1
  rw [ht]

lemma esperaMar1_eq {antopMsg : CtrlPkt} {n : Node} {t : List Neighbor}
    (ht : n.tablaConEmisor antopMsg = some t) :
    n.esperaMar1 antopMsg = (decide (n.iniciaCiclo antopMsg) && t.any fun it =>
      n.visitaMar (auxAntopMsg antopMsg).primAddr (n.flagMonitoreo antopMsg) it.primAddr) := by
  unfold esperaMar1
  rw [ht]

/-- A node that takes over the address of a `MAR1`, with its recovered addresses. -/
def tomarMar1 (env : Env) (antopMsg : CtrlPkt) (n : Node) : Node :=
  ((n.adoptarMar1 antopMsg).moverRecuperadas antopMsg).cerrarPrimaria env

lemma processMar1Envios_eq (env : Env) (antopMsg : CtrlPkt) (monitoreo : Bool) (n : Node) :
    ∃ t rv o, (n.processMar1Envios env antopMsg monitoreo).node =
        (n.sumarMask (n.mar2Count (auxAntopMsg antopMsg).primAddr monitoreo n.neighTable)).conTablas
          t rv o
      ∧ (n.processMar1Envios env antopMsg monitoreo).flag
        = n.neighTable.any fun it =>
          n.visitaMar (auxAntopMsg antopMsg).primAddr monitoreo it.primAddr := by
  obtain ⟨t, rv, o, hnode, hflag⟩ := foldl_processMar1Envio env antopMsg
    (auxAntopMsg antopMsg).primAddr monitoreo n.neighTable ⟨n, n.primAddr, false⟩
  exact ⟨t, rv, o, hnode, hflag⟩

/-- Where no neighbour is visited no `MAR2` is sent. -/
lemma mar2Count_eq_zero {origen : In6Addr} {monitoreo : Bool} {n : Node} {its : List Neighbor}
    (h : ∀ it ∈ its, ¬ n.visitaMar origen monitoreo it.primAddr) :
    n.mar2Count origen monitoreo its = 0 :=
  List.countP_eq_zero.mpr fun it hit => by simp [h it hit]

lemma confirmarMar1_eq (env : Env) (antopMsg : CtrlPkt) (n : Node) :
    n.confirmarMar1 env antopMsg
      = n.conTablas n.neighTable n.rvTable (n.confirmarMar1 env antopMsg).out := rfl

lemma adoptarMar1_conTablas (antopMsg : CtrlPkt) (n : Node) (t : List Neighbor)
    (rv : List LookupTable) (o : List (In6Addr × CtrlPkt)) :
    (n.conTablas t rv o).adoptarMar1 antopMsg = (n.adoptarMar1 antopMsg).conTablas t rv o := by
  unfold adoptarMar1 conTablas
  rfl

/-- **What the direct end of `process_mar1` changes.** -/
lemma processMar1Directo_eq {env : Env} {antopMsg : CtrlPkt} {n n' : Node}
    (h : n.processMar1Directo env antopMsg = some n') :
    ∃ t o, n' = (n.conTablas t n.rvTable o).tomarMar1 env antopMsg := by
  obtain ⟨m, hm, rfl⟩ := Option.map_eq_some_iff.mp h
  unfold antesDeTomar at hm
  by_cases hy : n.receptorSolo antopMsg
  · rw [if_pos hy] at hm
    obtain ⟨t, -, hm⟩ := addNeighbor_eq_some.mp hm
    have hm : m = n.conTablas t n.rvTable n.out := hm
    simp only [if_pos hy]
    rw [confirmarMar1_eq, hm, adoptarMar1_conTablas]
    generalize (confirmarMar1 env antopMsg _).out = o
    exact ⟨t, o, rfl⟩
  · rw [if_neg hy] at hm
    obtain rfl := Option.some.inj hm
    simp only [if_neg hy]
    rw [confirmarMar1_eq]
    generalize (confirmarMar1 env antopMsg n).out = o
    exact ⟨n.neighTable, o, rfl⟩

/-- **What `process_mar1` changes** for the primary address.  Either it has sent a message and waits
with its old address, or it takes the new one. -/
lemma processMar1Primaria_eq {env : Env} {antopMsg : CtrlPkt} {n n' : Node}
    (h : n.processMar1Primaria env antopMsg = some n') :
    ∃ t rv o, let m := ((n.entrarMar1 antopMsg).sumarMask (n.mar2sDeMar1 antopMsg)).conTablas t rv o
      n.esperaMar1 antopMsg = true ∧ n' = m
        ∨ n.esperaMar1 antopMsg = false ∧ n.mar2sDeMar1 antopMsg = 0
          ∧ n' = m.tomarMar1 env antopMsg := by
  obtain ⟨n₁, h₁, h⟩ := Option.bind_eq_some_iff.mp h
  obtain ⟨t₁, ht, hn₁⟩ := Option.map_eq_some_iff.mp h₁
  have hn₁ : n₁ = n.conTablas t₁ n.rvTable n.out := hn₁.symm
  subst hn₁
  by_cases hc : n.iniciaCiclo antopMsg
  · rw [if_pos hc] at h
    have hk : n.mar2sDeMar1 antopMsg = n.mar2Count (auxAntopMsg antopMsg).primAddr
        (n.flagMonitoreo antopMsg) t₁ := by
      rw [mar2sDeMar1_eq ht, if_pos hc]
    obtain ⟨t, rv, o, hnode, hflag⟩ := processMar1Envios_eq env antopMsg (n.flagMonitoreo antopMsg)
      ((n.conTablas t₁ n.rvTable n.out).entrarMar1 antopMsg)
    have hespera : n.esperaMar1 antopMsg = (((n.conTablas t₁ n.rvTable n.out).entrarMar1
        antopMsg).processMar1Envios env antopMsg (n.flagMonitoreo antopMsg)).flag := by
      rw [hflag, esperaMar1_eq ht, decide_eq_true hc, Bool.true_and]
      rfl
    have hnode' : (((n.conTablas t₁ n.rvTable n.out).entrarMar1 antopMsg).processMar1Envios env
        antopMsg (n.flagMonitoreo antopMsg)).node
        = ((n.entrarMar1 antopMsg).sumarMask (n.mar2sDeMar1 antopMsg)).conTablas t rv o := by
      rw [hnode, hk]
      rfl
    dsimp only at h
    rw [hnode'] at h
    split_ifs at h with hs
    · obtain rfl := Option.some.inj h
      exact ⟨t, rv, _, Or.inl ⟨hespera.trans hs, confirmarMar1_eq env antopMsg _⟩⟩
    · have hno : n.esperaMar1 antopMsg = false := hespera.trans (Bool.eq_false_of_not_eq_true hs)
      have hk₀ : n.mar2sDeMar1 antopMsg = 0 := by
        rw [hflag, Bool.not_eq_true, List.any_eq_false] at hs
        rw [hk]
        exact mar2Count_eq_zero fun it hit => of_decide_eq_false (eq_false_of_ne_true (hs it hit))
      obtain ⟨t', o', rfl⟩ := processMar1Directo_eq h
      exact ⟨t', rv, o', Or.inr ⟨hno, hk₀, rfl⟩⟩
  · rw [if_neg hc] at h
    have hk : n.mar2sDeMar1 antopMsg = 0 := by rw [mar2sDeMar1_eq ht, if_neg hc]
    have hno : n.esperaMar1 antopMsg = false := by
      rw [esperaMar1_eq ht, decide_eq_false hc, Bool.false_and]
    obtain ⟨t, o, rfl⟩ := processMar1Directo_eq h
    refine ⟨t, [], o, Or.inr ⟨hno, hk, ?_⟩⟩
    rw [hk, sumarMask_zero]
    rfl

/-- `process_mar1`. -/
def processMar1 (env : Env) (antopMsg : CtrlPkt) (n : Node) : Option Node :=
  let n := { n with flagMezcla := true }
  if antopMsg.adAddr.addr = n.secAddr then some (n.processMar1Secundaria env antopMsg)
  else n.processMar1Primaria env antopMsg

/-! ## `MAR2` -/

/-- `process_mar2` for the secondary address. -/
def processMar2Secundaria (env : Env) (antopMsg : CtrlPkt) (n : Node) : Node :=
  let aux4 := n.secAddr
  let n := { n with
    flagMezclaSecundaria := true
    secMask := antopMsg.adAddr.mask
    redNumero := antopMsg.adAddr.redNumero }
  let n := n.sendMan2 env aux4 antopMsg.primAddr antopMsg.srcAddr n.secMask n.redNumero
  let aux1 := mar2Addr n.hcDim antopMsg.srcAddr antopMsg.adAddr.mask
  let n := { n with secAddr := aux1 }.delAndAddnew aux4 aux1 0
  if n.flagMezclaPrimaria then n.finMezcla env else n

/-- **What `process_mar2` changes** for the secondary address. -/
lemma processMar2Secundaria_eq (env : Env) (antopMsg : CtrlPkt) (n : Node) :
    let aux1 := mar2Addr n.hcDim antopMsg.srcAddr antopMsg.adAddr.mask
    ∃ o, n.processMar2Secundaria env antopMsg =
      let m := { n with
        flagMezclaSecundaria := true, redNumero := antopMsg.adAddr.redNumero
        secMask := antopMsg.adAddr.mask
        secAddr := aux1, iface := cambiarIface n.primAddr n.secAddr aux1 n.iface, out := o }
      if n.flagMezclaPrimaria then m.finMezcla env else m :=
  ⟨_, rfl⟩

/-- The body of the loop of `process_mar2`. -/
def processMar2Envio (env : Env) (antopMsg : CtrlPkt) (aux1 : In6Addr) (s : Node × Bool)
    (it : Neighbor) : Node × Bool :=
  let n := s.1
  if antopMsg.primAddr ≠ it.primAddr then
    if n.secAddrFlag ∧ 1 < dist n.primAddr it.primAddr then (n.deleteNeighbor it.primAddr, s.2)
    else
      let n := n.storePrimMask (n.primMask.toNat + 1)
      let n := n.sendMar2 env n.primAddr it.primAddr aux1 n.primMask
      (n.deleteNeighbor it.primAddr, true)
  else s

/-- A neighbour that is not visited is sent nothing: at most it is dropped. -/
lemma processMar2Envio_salta (env : Env) {antopMsg : CtrlPkt} (aux1 : In6Addr) {n : Node} (flag : Bool)
    {it : Neighbor} (hv : ¬ n.visitaMar antopMsg.primAddr false it.primAddr) :
    ∃ t rv, processMar2Envio env antopMsg aux1 (n, flag) it = (n.conTablas t rv n.out, flag) := by
  rw [processMar2Envio]
  split_ifs with hout hsec
  · exact ⟨_, _, rfl⟩
  · exact absurd ⟨Or.inl hout, hsec⟩ hv
  · exact ⟨_, _, rfl⟩

/-- One round of the loop of `process_mar2`. -/
lemma processMar2Envio_eq (env : Env) (antopMsg : CtrlPkt) (aux1 : In6Addr) (n : Node) (flag : Bool)
    (it : Neighbor) :
    ∃ t rv o, processMar2Envio env antopMsg aux1 (n, flag) it =
      ((n.sumarMask ([it].countP fun it => n.visitaMar antopMsg.primAddr false it.primAddr)).conTablas
          t rv o,
        flag || n.visitaMar antopMsg.primAddr false it.primAddr) := by
  by_cases hv : n.visitaMar antopMsg.primAddr false it.primAddr
  · have hout : antopMsg.primAddr ≠ it.primAddr := by simpa using hv.1
    rw [processMar2Envio, if_pos hout, if_neg hv.2, storePrimMask_succ]
    exact ⟨_, _, _, by simp only [hv, List.countP_singleton, decide_true, if_true, Bool.or_true]; rfl⟩
  · have hk : ([it].countP fun it => n.visitaMar antopMsg.primAddr false it.primAddr) = 0 := by
      simp [hv]
    obtain ⟨t, rv, hs⟩ := processMar2Envio_salta env aux1 flag hv
    rw [hs, hk, sumarMask_zero]
    exact ⟨t, rv, n.out, by simp only [hv, decide_false, Bool.or_false]⟩

/-- **The loop of `process_mar2`** sends a `MAR2` to each neighbour it visits. -/
lemma foldl_processMar2Envio (env : Env) (antopMsg : CtrlPkt) (aux1 : In6Addr) (its : List Neighbor)
    (n : Node) (flag : Bool) :
    ∃ t rv o, its.foldl (processMar2Envio env antopMsg aux1) (n, flag) =
      ((n.sumarMask (its.countP fun it => n.visitaMar antopMsg.primAddr false it.primAddr)).conTablas
          t rv o,
        flag || its.any fun it => n.visitaMar antopMsg.primAddr false it.primAddr) := by
  induction its generalizing n flag with
  | nil => exact ⟨n.neighTable, n.rvTable, n.out, by simp [conTablas]⟩
  | cons it its ih =>
      obtain ⟨t, rv, o, hstep⟩ := processMar2Envio_eq env antopMsg aux1 n flag it
      rw [List.foldl_cons, hstep]
      generalize hk : ([it].countP fun it => n.visitaMar antopMsg.primAddr false it.primAddr) = k
      obtain ⟨t', rv', o', h⟩ := ih ((n.sumarMask k).conTablas t rv o)
        (flag || n.visitaMar antopMsg.primAddr false it.primAddr)
      refine ⟨t', rv', o', ?_⟩
      rw [h, List.any_cons, Bool.or_assoc, ← List.singleton_append, List.countP_append, hk,
        ← sumarMask_sumarMask]
      rfl

/-- What `process_mar2` sets before its loop. -/
def entrarMar2 (antopMsg : CtrlPkt) (n : Node) : Node :=
  { n with
    flagMezclaPrimaria := true
    redNumero := antopMsg.adAddr.redNumero
    primMask := antopMsg.adAddr.mask
    primMaskInicial := antopMsg.adAddr.mask
    neighborToRoot := { n.neighborToRoot with distance := 99 }
    rvTable := [], rvServers := [] }

/-- Before its loop `process_mar2` changes masks and number. -/
@[simp] lemma entrarMar2_frame (antopMsg : CtrlPkt) (n : Node) :
    (n.entrarMar2 antopMsg).hcDim = n.hcDim ∧ (n.entrarMar2 antopMsg).primAddr = n.primAddr
      ∧ (n.entrarMar2 antopMsg).primMaskOverflow = n.primMaskOverflow
      ∧ (n.entrarMar2 antopMsg).primAddrAux = n.primAddrAux
      ∧ (n.entrarMar2 antopMsg).secAddr = n.secAddr
      ∧ (n.entrarMar2 antopMsg).secAddrFlag = n.secAddrFlag
      ∧ (n.entrarMar2 antopMsg).rcvdAddr = n.rcvdAddr ∧ (n.entrarMar2 antopMsg).iface = n.iface
      ∧ (n.entrarMar2 antopMsg).flagMezcla = n.flagMezcla :=
  ⟨rfl, rfl, rfl, rfl, rfl, rfl, rfl, rfl, rfl⟩

/-- The number and the mask are those of the message. -/
@[simp] lemma entrarMar2_numero (antopMsg : CtrlPkt) (n : Node) :
    (n.entrarMar2 antopMsg).redNumero = antopMsg.adAddr.redNumero
      ∧ (n.entrarMar2 antopMsg).primMask = antopMsg.adAddr.mask := ⟨rfl, rfl⟩

/-- `send_man2` as `process_mar2` calls it. -/
def confirmarMar2 (env : Env) (antopMsg : CtrlPkt) (n : Node) : Node :=
  n.sendMan2 env n.primAddr antopMsg.primAddr antopMsg.srcAddr n.primMask n.redNumero

/-- Taking over an address as a whole, with nothing left of the recovered ones. -/
def adoptarMar2 (aux1 : In6Addr) (n : Node) : Node :=
  { { n with primAddr := aux1 }.delAndAddnew n.primAddr aux1 1 with rcvdAddr := [] }

/-- Taking over an address as a whole. -/
@[simp] lemma adoptarMar2_frame (aux1 : In6Addr) (n : Node) :
    (n.adoptarMar2 aux1).hcDim = n.hcDim ∧ (n.adoptarMar2 aux1).primMask = n.primMask
      ∧ (n.adoptarMar2 aux1).primMaskInicial = n.primMaskInicial
      ∧ (n.adoptarMar2 aux1).primMaskOverflow = n.primMaskOverflow
      ∧ (n.adoptarMar2 aux1).primAddrAux = n.primAddrAux ∧ (n.adoptarMar2 aux1).secAddr = n.secAddr
      ∧ (n.adoptarMar2 aux1).secAddrFlag = n.secAddrFlag
      ∧ (n.adoptarMar2 aux1).redNumero = n.redNumero
      ∧ (n.adoptarMar2 aux1).flagMezcla = n.flagMezcla :=
  ⟨rfl, rfl, rfl, rfl, rfl, rfl, rfl, rfl, rfl⟩

/-- `process_mar2` for a node that has sent nothing. -/
def processMar2Directo (env : Env) (antopMsg : CtrlPkt) (aux1 : In6Addr) (n : Node) : Node :=
  ((n.confirmarMar2 env antopMsg).adoptarMar2 aux1).cerrarPrimaria env

/-- `process_mar2` for the primary address. -/
def processMar2Primaria (env : Env) (antopMsg : CtrlPkt) (n : Node) : Node :=
  let aux1 := mar2Addr n.hcDim antopMsg.srcAddr antopMsg.adAddr.mask
  let m := n.entrarMar2 antopMsg
  if n.primMask ≠ n.primMaskInicial ∨ n.flagNeighBySecond then
    let s := m.neighTable.foldl (processMar2Envio env antopMsg aux1) (m, false)
    if s.2 then s.1.confirmarMar2 env antopMsg else s.1.processMar2Directo env antopMsg aux1
  else m.processMar2Directo env antopMsg aux1

/-- How many `MAR2`s `process_mar2` sends for the primary address. -/
def mar2sDeMar2 (antopMsg : CtrlPkt) (n : Node) : ℕ :=
  if n.primMask ≠ n.primMaskInicial ∨ n.flagNeighBySecond then
    n.neighTable.countP fun it => n.visitaMar antopMsg.primAddr false it.primAddr
  else 0

/-- Whether `process_mar2` sends a message for the primary address, and so has to wait for an
answer. -/
def esperaMar2 (antopMsg : CtrlPkt) (n : Node) : Bool :=
  decide (n.primMask ≠ n.primMaskInicial ∨ n.flagNeighBySecond)
    && n.neighTable.any fun it => n.visitaMar antopMsg.primAddr false it.primAddr

/-- A node that takes over an address of a `MAR2`. -/
def tomarMar2 (env : Env) (aux1 : In6Addr) (n : Node) : Node :=
  (n.adoptarMar2 aux1).cerrarPrimaria env

lemma confirmarMar2_eq (env : Env) (antopMsg : CtrlPkt) (n : Node) :
    n.confirmarMar2 env antopMsg
      = n.conTablas n.neighTable n.rvTable (n.confirmarMar2 env antopMsg).out := rfl

lemma processMar2Directo_eq (env : Env) (antopMsg : CtrlPkt) (aux1 : In6Addr) (n : Node) :
    ∃ o, n.processMar2Directo env antopMsg aux1
      = (n.conTablas n.neighTable n.rvTable o).tomarMar2 env aux1 := by
  rw [processMar2Directo, confirmarMar2_eq]
  exact ⟨_, rfl⟩

/-- **What `process_mar2` changes** for the primary address.  Either it has sent a message and waits
with its old address, or it takes the new one. -/
lemma processMar2Primaria_eq (env : Env) (antopMsg : CtrlPkt) (n : Node) :
    ∃ t rv o, let m := ((n.entrarMar2 antopMsg).sumarMask (n.mar2sDeMar2 antopMsg)).conTablas t rv o
      n.esperaMar2 antopMsg = true ∧ n.processMar2Primaria env antopMsg = m
        ∨ n.esperaMar2 antopMsg = false ∧ n.mar2sDeMar2 antopMsg = 0
          ∧ n.processMar2Primaria env antopMsg
            = m.tomarMar2 env (mar2Addr n.hcDim antopMsg.srcAddr antopMsg.adAddr.mask) := by
  unfold processMar2Primaria
  dsimp only
  by_cases hc : n.primMask ≠ n.primMaskInicial ∨ n.flagNeighBySecond
  · have hk : n.mar2sDeMar2 antopMsg
        = n.neighTable.countP fun it => n.visitaMar antopMsg.primAddr false it.primAddr :=
      if_pos hc
    obtain ⟨t, rv, o, h⟩ := foldl_processMar2Envio env antopMsg
      (mar2Addr n.hcDim antopMsg.srcAddr antopMsg.adAddr.mask) (n.entrarMar2 antopMsg).neighTable
      (n.entrarMar2 antopMsg) false
    have hnode : ((n.entrarMar2 antopMsg).sumarMask (n.mar2sDeMar2 antopMsg)).conTablas t rv o
        = ((n.entrarMar2 antopMsg).neighTable.foldl (processMar2Envio env antopMsg
          (mar2Addr n.hcDim antopMsg.srcAddr antopMsg.adAddr.mask))
          (n.entrarMar2 antopMsg, false)).1 := by
      rw [h, hk]
      rfl
    have hespera : n.esperaMar2 antopMsg = ((n.entrarMar2 antopMsg).neighTable.foldl
        (processMar2Envio env antopMsg (mar2Addr n.hcDim antopMsg.srcAddr antopMsg.adAddr.mask))
          (n.entrarMar2 antopMsg, false)).2 := by
      rw [h, esperaMar2, decide_eq_true hc, Bool.true_and, Bool.false_or]
      rfl
    rw [if_pos hc, ← hnode]
    split_ifs with hs
    · exact ⟨t, rv, _, Or.inl ⟨hespera.trans hs, confirmarMar2_eq env antopMsg _⟩⟩
    · have hno : n.esperaMar2 antopMsg = false := hespera.trans (Bool.eq_false_of_not_eq_true hs)
      have hk₀ : n.mar2sDeMar2 antopMsg = 0 := by
        rw [h, Bool.false_or, Bool.not_eq_true, List.any_eq_false] at hs
        rw [hk]
        exact List.countP_eq_zero.mpr hs
      obtain ⟨o', ho'⟩ := processMar2Directo_eq env antopMsg
        (mar2Addr n.hcDim antopMsg.srcAddr antopMsg.adAddr.mask)
        (((n.entrarMar2 antopMsg).sumarMask (n.mar2sDeMar2 antopMsg)).conTablas t rv o)
      exact ⟨t, rv, o', Or.inr ⟨hno, hk₀, ho'⟩⟩
  · have hk : n.mar2sDeMar2 antopMsg = 0 := if_neg hc
    obtain ⟨o', ho'⟩ := processMar2Directo_eq env antopMsg
      (mar2Addr n.hcDim antopMsg.srcAddr antopMsg.adAddr.mask) (n.entrarMar2 antopMsg)
    have hno : n.esperaMar2 antopMsg = false := by
      rw [esperaMar2, decide_eq_false hc, Bool.false_and]
    refine ⟨n.neighTable, [], o', Or.inr ⟨hno, hk, ?_⟩⟩
    rw [if_neg hc, hk, sumarMask_zero]
    exact ho'

/-- `process_mar2`. -/
def processMar2 (env : Env) (antopMsg : CtrlPkt) (n : Node) : Node :=
  let n := { n with flagMezcla := true }
  if antopMsg.adAddr.addr = n.secAddr then n.processMar2Secundaria env antopMsg
  else n.processMar2Primaria env antopMsg

/-! ## `MAN1` and `MAN2` -/

/-- The primary and the secondary part of a merge are done. -/
def mezclaCompleta (n : Node) : Bool :=
  !n.secAddrFlag || (n.flagMezclaPrimaria && n.flagMezclaSecundaria)

/-- The initiator takes its own address back. -/
def volverDelDefault (n : Node) : Node :=
  { n.delAndAddnew n.primAddr n.primAddrAux 2 with primAddr := n.primAddrAux, flagMezcla := false }

/-- `process_man1`.  The initiator gets its address back and counts the slot it has given; any other
node that is waiting takes its new address. -/
def processMan1 (env : Env) (antopMsg : CtrlPkt) (n : Node) : Node :=
  if n.flagMezcla ∧ n.primAddr = dirDefault then
    let n := n.volverDelDefault
    if antopMsg.adAddr.mask = n.primMask then n.storePrimMask (n.primMask.toNat + 1) else n
  else if n.flagMezcla then
    let n := (n.adoptarMar1 antopMsg).moverRecuperadas antopMsg
    if n.mezclaCompleta then n.finMezcla env else n
  else n

/-- `process_man2`. -/
def processMan2 (env : Env) (antopMsg : CtrlPkt) (n : Node) : Node :=
  if n.flagMezcla then
    let n := n.adoptarMar2 antopMsg.srcAddr
    if n.mezclaCompleta then n.finMezcla env else n
  else n

end Node

end Antop
