import Antop.Hypercube
import Antop.TimerQueue

/-!
# Packets, tables and the state of a node

Everything the daemon keeps in its global variables, as one record `Node`, with the packets it
exchanges and the entries of its tables.  A linked list is a `List`, with `[]` for `NULL`; an
`unsigned char` is a `BitVec 8`, so that its arithmetic wraps; a flag is a `Bool`.

A handler is a function `Node → Node`, or `Node → Option Node` where the source can crash on a
null pointer or loop for ever.  What a handler sends is appended to `Node.out`, and what it does to
the addresses of the interface happens in `Node.iface`, a set.

`Env` is what a handler reads from outside: the clock, the answer of `ping6`, the byte
`mac_address` computes, the servers `distribute_in_hc` computes, the contents of fresh memory and
the value left behind by a function that returns none.
-/

namespace Antop

/-- `unsigned char`. -/
abbrev UChar := BitVec 8

instance : LawfulBEq UChar := instLawfulBEq

/-! ## Packets -/

/-- The message types. -/
inductive PktType
  | par | pap | pan | panc
  | hb | sap | san
  | rvReg | rvAddrLookup | rvAddrSolve
  | far | fan
  | mar1 | mar2 | man1 | man2
deriving DecidableEq

/-- `struct additional_addr`. -/
structure AdditionalAddr where
  tLenght : UChar
  addr : In6Addr
  mask : UChar
  redNumero : UChar
deriving DecidableEq

/-- `struct ctrl_pkt`. -/
structure CtrlPkt where
  pktTypeF : PktType
  srcAddr : In6Addr
  primAddrLen : UChar
  primAddr : In6Addr
  adAddr : AdditionalAddr
deriving DecidableEq

/-- `struct rv_ctrl_pkt`. -/
structure RvCtrlPkt where
  type : PktType
  primAddr : In6Addr
  univAddr : String
deriving DecidableEq

/-- A packet filled with zeros, as `memset` leaves it. -/
def CtrlPkt.zero : CtrlPkt :=
  { pktTypeF := .par, srcAddr := .zero, primAddrLen := 0, primAddr := .zero
    adAddr := { tLenght := 0, addr := .zero, mask := 0, redNumero := 0 } }

/-! ## Table entries -/

/-- `struct neighbor`. -/
structure Neighbor where
  primAddr : In6Addr
  secAddrConn : Bool
  count : ℤ
  primMask : UChar
  primMaskInicial : UChar
  available : Bool
deriving DecidableEq

/-- `struct recovered_addr`. -/
structure RecoveredAddr where
  primMask : UChar
  primAddr : In6Addr
deriving DecidableEq

/-- `struct neighbor_to_root`. -/
structure NeighborToRoot where
  addr : In6Addr
  distance : ℕ
deriving DecidableEq

/-- `struct n_s_l`: a neighbour that is linked to this node by its secondary address. -/
structure NSL where
  addr : In6Addr
  mask : UChar
deriving DecidableEq

/-- `struct lookup_table`. -/
structure LookupTable where
  hcAddr : In6Addr
  univAddr : String
deriving DecidableEq

/-! ## The node -/

/-- The global variables of the daemon. -/
structure Node where
  hcDim : ℕ
  univAddr : String
  -- the primary and the secondary address
  primAddr : In6Addr
  primMask : UChar
  primMaskInicial : UChar
  primAddrAux : In6Addr
  primAddrFlag : Bool
  secAddr : In6Addr
  secMask : UChar
  secAddrFlag : Bool
  redNumero : UChar
  -- neighbours and recovered address space
  neighTable : List Neighbor
  neighborToRoot : NeighborToRoot
  rcvdAddr : List RecoveredAddr
  rcvdOffered : Option In6Addr
  -- secondary links
  nSLTable : List NSL
  flagNeighBySecond : Bool
  flagAddrAvai : Bool
  addrNodeSecondaryLink : In6Addr
  -- merge, fragmentation and connection
  flagMezcla : Bool
  flagMezclaPrimaria : Bool
  flagMezclaSecundaria : Bool
  primMaskMezcla : UChar
  flagFragmentacion : Bool
  flagFragmentacionPrimaria : Bool
  flagFragmentacionSecundaria : Bool
  flagConexion : Bool
  flagInit : Bool
  -- rendezvous
  rvTable : List LookupTable
  rvServers : List In6Addr
  -- timers, interface and what has been sent
  timers : TimerQueue
  iface : Finset In6Addr
  out : List (In6Addr × CtrlPkt)
  rvOut : List (In6Addr × RvCtrlPkt)
  /-- No variable of the daemon: whether some value stored in `prim_mask` has not fitted. -/
  primMaskOverflow : Bool

/-- What a handler reads from outside the daemon. -/
structure Env where
  /-- `gettimeofday`. -/
  clock : Timeval
  /-- `mac_address()`, as `red_numero` keeps it. -/
  macAddress : UChar
  /-- Whether `ping6(&root)` is answered. -/
  ping6 : Bool
  /-- `distribute_in_hc(NSERVER_RV, univ_addr, 0)`. -/
  distributeInHc : List In6Addr
  /-- The contents of memory that has just been allocated, read as a packet. -/
  heap : CtrlPkt
  /-- What a caller reads when `detector_de_mezcla` returns no value. -/
  undef : ℤ

/-- The outside world at time 0, where nothing answers and memory is filled with zeros. -/
def Env.zero : Env where
  clock := ⟨0, 0⟩
  macAddress := 0
  ping6 := false
  distributeInHc := []
  heap := .zero
  undef := 0

/-- The state `prim_addr_init` sets up, for the command line `hc_dim` and `univ_addr`. -/
def primAddrInit (hcDim : ℕ) (univAddr : String) : Node where
  hcDim := hcDim
  univAddr := univAddr
  primAddr := root
  primMask := 0
  primMaskInicial := 0
  primAddrAux := .zero
  primAddrFlag := false
  secAddr := .zero
  secMask := 0
  secAddrFlag := false
  redNumero := 0
  neighTable := []
  neighborToRoot := { addr := .zero, distance := 99 }
  rcvdAddr := []
  rcvdOffered := none
  nSLTable := []
  flagNeighBySecond := false
  flagAddrAvai := true
  addrNodeSecondaryLink := .zero
  flagMezcla := false
  flagMezclaPrimaria := false
  flagMezclaSecundaria := false
  primMaskMezcla := 0
  flagFragmentacion := false
  flagFragmentacionPrimaria := false
  flagFragmentacionSecundaria := false
  flagConexion := false
  flagInit := false
  rvTable := []
  rvServers := []
  timers := { tq := [], expiredTQ := [], used := [] }
  iface := ∅
  out := []
  rvOut := []
  primMaskOverflow := false

namespace Node

/-- The place of the node in the hypercube: the address and the masks that give its block. -/
def posicion (n : Node) : In6Addr × UChar × UChar := (n.primAddr, n.primMask, n.primMaskInicial)

/-- `antop_socket_send` of a control packet. -/
def send (n : Node) (dst : In6Addr) (pkt : CtrlPkt) : Node := { n with out := n.out ++ [(dst, pkt)] }

/-- The node with other tables and other messages sent: what the loops over the neighbour table
change. -/
def conTablas (n : Node) (neighTable : List Neighbor) (rvTable : List LookupTable)
    (out : List (In6Addr × CtrlPkt)) : Node :=
  { n with neighTable := neighTable, rvTable := rvTable, out := out }

/-- `timer_add_msec`. -/
def timerAddMsec (n : Node) (id : TimerId) (msec : ℤ) (clock : Timeval) : Node :=
  { n with timers := Antop.timerAddMsec id msec clock n.timers }

/-- `prim_mask = v`: the result of an arithmetic expression is an `int`, and its low eight bits are
kept. -/
def storePrimMask (n : Node) (v : ℤ) : Node :=
  { n with
    primMask := BitVec.ofInt 8 v
    primMaskOverflow := n.primMaskOverflow || !decide (0 ≤ v ∧ v ≤ 255) }

/-- The low eight bits of a difference. -/
lemma ofInt_toNat_sub (a b : UChar) : BitVec.ofInt 8 ((a.toNat : ℤ) - b.toNat) = a - b := by
  apply BitVec.eq_of_toNat_eq
  simp only [BitVec.toNat_ofInt, BitVec.toNat_sub]
  omega

/-- `prim_mask = prim_mask + 1`, `k` times. -/
def sumarMask (n : Node) (k : ℕ) : Node :=
  { n with
    primMask := n.primMask + BitVec.ofNat 8 k
    primMaskOverflow := n.primMaskOverflow || decide (255 < n.primMask.toNat + k) }

/-- The tables are no part of the place of a node. -/
@[simp] lemma conTablas_frame (n : Node) (t : List Neighbor) (rv : List LookupTable)
    (o : List (In6Addr × CtrlPkt)) :
    (n.conTablas t rv o).hcDim = n.hcDim ∧ (n.conTablas t rv o).primAddr = n.primAddr
      ∧ (n.conTablas t rv o).primMask = n.primMask
      ∧ (n.conTablas t rv o).primMaskInicial = n.primMaskInicial
      ∧ (n.conTablas t rv o).primMaskOverflow = n.primMaskOverflow
      ∧ (n.conTablas t rv o).primAddrAux = n.primAddrAux ∧ (n.conTablas t rv o).secAddr = n.secAddr
      ∧ (n.conTablas t rv o).secAddrFlag = n.secAddrFlag
      ∧ (n.conTablas t rv o).redNumero = n.redNumero ∧ (n.conTablas t rv o).rcvdAddr = n.rcvdAddr
      ∧ (n.conTablas t rv o).iface = n.iface ∧ (n.conTablas t rv o).flagMezcla = n.flagMezcla :=
  ⟨rfl, rfl, rfl, rfl, rfl, rfl, rfl, rfl, rfl, rfl, rfl, rfl⟩

/-- Only the mask is stored. -/
@[simp] lemma storePrimMask_frame (n : Node) (v : ℤ) :
    (n.storePrimMask v).hcDim = n.hcDim ∧ (n.storePrimMask v).primAddr = n.primAddr
      ∧ (n.storePrimMask v).primMaskInicial = n.primMaskInicial
      ∧ (n.storePrimMask v).primAddrAux = n.primAddrAux ∧ (n.storePrimMask v).secAddr = n.secAddr
      ∧ (n.storePrimMask v).secAddrFlag = n.secAddrFlag
      ∧ (n.storePrimMask v).redNumero = n.redNumero ∧ (n.storePrimMask v).rcvdAddr = n.rcvdAddr
      ∧ (n.storePrimMask v).iface = n.iface ∧ (n.storePrimMask v).flagMezcla = n.flagMezcla :=
  ⟨rfl, rfl, rfl, rfl, rfl, rfl, rfl, rfl, rfl, rfl⟩

/-- Only the mask is increased. -/
@[simp] lemma sumarMask_frame (n : Node) (k : ℕ) :
    (n.sumarMask k).hcDim = n.hcDim ∧ (n.sumarMask k).primAddr = n.primAddr
      ∧ (n.sumarMask k).primMaskInicial = n.primMaskInicial
      ∧ (n.sumarMask k).primAddrAux = n.primAddrAux ∧ (n.sumarMask k).secAddr = n.secAddr
      ∧ (n.sumarMask k).secAddrFlag = n.secAddrFlag ∧ (n.sumarMask k).redNumero = n.redNumero
      ∧ (n.sumarMask k).rcvdAddr = n.rcvdAddr ∧ (n.sumarMask k).iface = n.iface
      ∧ (n.sumarMask k).flagMezcla = n.flagMezcla :=
  ⟨rfl, rfl, rfl, rfl, rfl, rfl, rfl, rfl, rfl, rfl⟩

@[simp] lemma sumarMask_primMask (n : Node) (k : ℕ) :
    (n.sumarMask k).primMask = n.primMask + BitVec.ofNat 8 k := rfl

@[simp] lemma sumarMask_primMaskMezcla (n : Node) (k : ℕ) :
    (n.sumarMask k).primMaskMezcla = n.primMaskMezcla := rfl

@[simp] lemma conTablas_primMaskMezcla (n : Node) (t : List Neighbor) (rv : List LookupTable)
    (o : List (In6Addr × CtrlPkt)) : (n.conTablas t rv o).primMaskMezcla = n.primMaskMezcla := rfl

@[simp] lemma sumarMask_zero (n : Node) : n.sumarMask 0 = n := by
  have h : ¬ 255 < n.primMask.toNat := by have := n.primMask.isLt; omega
  simp [sumarMask, h]

/-- One increment more. -/
lemma storePrimMask_sumarMask (n : Node) (k : ℕ) :
    (n.sumarMask k).storePrimMask ((n.sumarMask k).primMask.toNat + 1) = n.sumarMask (k + 1) := by
  have hmask : BitVec.ofInt 8 (((n.primMask + BitVec.ofNat 8 k).toNat : ℤ) + 1)
      = n.primMask + BitVec.ofNat 8 (k + 1) := by
    rw [show (((n.primMask + BitVec.ofNat 8 k).toNat : ℤ) + 1)
        = (((n.primMask + BitVec.ofNat 8 k).toNat + 1 : ℕ) : ℤ) by push_cast; rfl,
      BitVec.ofInt_natCast]
    apply BitVec.eq_of_toNat_eq
    simp only [BitVec.toNat_ofNat, BitVec.toNat_add]
    omega
  -- a sum that has wrapped before is remembered
  have hover : (decide (255 < n.primMask.toNat + k)
        || !decide (0 ≤ ((n.primMask + BitVec.ofNat 8 k).toNat : ℤ) + 1
            ∧ ((n.primMask + BitVec.ofNat 8 k).toNat : ℤ) + 1 ≤ 255))
      = decide (255 < n.primMask.toNat + (k + 1)) := by
    have hn := n.primMask.isLt
    rw [Bool.eq_iff_iff]
    simp only [BitVec.toNat_add, BitVec.toNat_ofNat, Bool.or_eq_true, decide_eq_true_eq,
      Bool.not_eq_true', decide_eq_false_iff_not]
    omega
  unfold storePrimMask sumarMask
  dsimp only
  rw [hmask, Bool.or_assoc, hover]

lemma storePrimMask_succ (n : Node) : n.storePrimMask (n.primMask.toNat + 1) = n.sumarMask 1 := by
  simpa using storePrimMask_sumarMask n 0

lemma sumarMask_sumarMask (n : Node) (k l : ℕ) : (n.sumarMask k).sumarMask l = n.sumarMask (k + l) := by
  induction l with
  | zero => simp
  | succ l ih => rw [← storePrimMask_sumarMask, ih, storePrimMask_sumarMask, Nat.add_assoc]

end Node

end Antop
