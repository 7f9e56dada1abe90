import Antop.Tables

/-!
# Proposing and confirming an address

The parent's side of the exchange `PAR`, `PAP`, `PAN`, `PANC`.  `sendPap` proposes the last
recovered address, once, and otherwise the free half of the own block; `sendPanc` confirms and
accounts for what has been given away.
-/

namespace Antop

namespace Node

/-- The proposal `send_pap` makes, and `rcvd_offered` after it. -/
def proposal (env : Env) (n : Node) : CtrlPkt × Option In6Addr :=
  let pap := { env.heap with pktTypeF := .pap, primAddr := n.primAddr }
  match n.rcvdAddr.getLast?, n.rcvdOffered with
  | some rcvdAux, none =>
      ({ pap with
          primAddrLen := BitVec.ofNat 8 n.hcDim
          adAddr := { pap.adAddr with
            addr := rcvdAux.primAddr, redNumero := n.redNumero, mask := rcvdAux.primMask } },
        some rcvdAux.primAddr)
  | _, _ =>
      if n.hcDim ≤ n.primMask.toNat then
        ({ pap with adAddr := { pap.adAddr with redNumero := n.redNumero, mask := 0 } },
          n.rcvdOffered)
      else
        ({ pap with
            primAddrLen := BitVec.ofNat 8 n.hcDim
            adAddr := { pap.adAddr with
              addr := slotAddr n.primAddr n.primMask.toNat, redNumero := n.redNumero
              mask := n.primMask + 1 } },
          n.rcvdOffered)

/-- `send_pap`. -/
def sendPap (env : Env) (dst : In6Addr) (n : Node) : Node :=
  let (pap, rcvdOffered) := n.proposal env
  { n.send dst pap with rcvdOffered := rcvdOffered }

/-- `send_panc`.  The next slot of the own block counts as given, unless the chosen address is the
recovered one that was offered. -/
def sendPanc (env : Env) (dst primary chosenAddr : In6Addr) (n : Node) : Node :=
  let panc := { env.heap with
    pktTypeF := .panc, adAddr := { env.heap.adAddr with mask := 5, addr := primary } }
  let n :=
    if n.rcvdOffered = some chosenAddr then
      { n with rcvdAddr := delRcvdAddrTable chosenAddr n.rcvdAddr }
    else n.storePrimMask (n.primMask.toNat + 1)
  n.send dst panc

end Node

end Antop
