import Antop.State

/-!
# Tables, interface and registration

The functions every handler is built from.

* `neigh_table` — `initNeighTable`, `addNeighbor`, `deleteNeighbor`, `findNeighbor`.
  `add_neighbor` reads the head of the table before anything else, so on an empty table it is
  `none`.
* `rcvd_addr` — `recoverAddrSpace`, `delRcvdAddrTable`.
* `n_s_l_table` — `initTablesSecondaryLink`, `addNSLTable`, `checkNSLTable`,
  `checkAddrInNSLTable`.
* `rv_table` — `rvTableAdd`, `rvTableDelete`, `clearRvTables`, and `registerRv`, the handler of the
  registration timer.
* the interface — `add`, `del`, `delAndAddnew`.

Each of them changes only the fields its equation names; `registerRv_eq` puts the one that branches
at the top into that form.
-/

namespace Antop

/-- Forgetting the condition of an `if`. -/
lemma exists_bool_of_ite {α : Type*} {c : Prop} [Decidable c] {a b x : α}
    (h : (if c then a else b) = x) : ∃ d : Bool, x = if d then a else b :=
  ⟨decide c, by simp [← h]⟩

/-! ## The rendezvous table -/

/-- `rv_table_add`: the first entry for the name is updated, or a new one is appended. -/
def rvTableAdd (rvPkt : RvCtrlPkt) : List LookupTable → List LookupTable
  | [] => [{ hcAddr := rvPkt.primAddr, univAddr := rvPkt.univAddr }]
  | aux :: rest =>
      if aux.univAddr = rvPkt.univAddr then { aux with hcAddr := rvPkt.primAddr } :: rest
      else aux :: rvTableAdd rvPkt rest

/-- `rv_table_delete`: the first entry for the address is removed. -/
def rvTableDelete (addr : In6Addr) (rvTable : List LookupTable) : List LookupTable :=
  rvTable.eraseP fun curr => curr.hcAddr = addr

/-! ## The neighbour table -/

/-- The entry `add_neighbor` fills in from a packet. -/
def newNeighbor (hb : CtrlPkt) (secFlag : Bool) : Neighbor :=
  { primAddr := hb.primAddr, secAddrConn := secFlag, count := 0, primMask := hb.adAddr.mask
    primMaskInicial := hb.adAddr.tLenght, available := true }

/-- `add_neighbor` on the table.  A head with the null address is filled in, and what hangs behind
it is cut off; otherwise the entry goes to the end.  On `NULL` the head cannot be read. -/
def addNeighborTable (hb : CtrlPkt) (secFlag : Bool) : List Neighbor → Option (List Neighbor)
  | [] => none
  | head :: rest =>
      if head.primAddr = .zero then some [newNeighbor hb secFlag]
      else some (head :: rest ++ [newNeighbor hb secFlag])

/-- `delete_neighbor` on the neighbour table and the rendezvous table: the first entry with the
address goes, and with it its registration. -/
def deleteEntry (addr : In6Addr) (t : List Neighbor × List LookupTable) :
    List Neighbor × List LookupTable :=
  if t.1.any fun curr => curr.primAddr = addr then
    (t.1.eraseP fun curr => curr.primAddr = addr, rvTableDelete addr t.2)
  else t

/-- Deleting a list of entries, as the loops over the table do. -/
def deleteEntries (its : List Neighbor) (t : List Neighbor × List LookupTable) :
    List Neighbor × List LookupTable :=
  its.foldl (fun t it => deleteEntry it.primAddr t) t

/-- Deleting every entry of a table leaves none. -/
lemma deleteEntries_self (its : List Neighbor) (rvTable : List LookupTable) :
    (deleteEntries its (its, rvTable)).1 = [] := by
  induction its generalizing rvTable with
  | nil => rfl
  | cons it its ih =>
      have hdel : deleteEntry it.primAddr (it :: its, rvTable)
          = (its, rvTableDelete it.primAddr rvTable) := by
        simp [deleteEntry]
      rw [deleteEntries, List.foldl_cons, hdel]
      exact ih _

@[simp] lemma deleteEntries_nil_right (its t : List Neighbor) :
    (deleteEntries its (t, [])).2 = [] := by
  induction its generalizing t with
  | nil => rfl
  | cons it its ih =>
      rw [deleteEntries, List.foldl_cons, deleteEntry]
      split_ifs
      · exact ih _
      · exact ih _

/-- The addresses after `delete_neighbor`. -/
lemma map_primAddr_deleteEntry (addr : In6Addr) (t : List Neighbor × List LookupTable) :
    (deleteEntry addr t).1.map Neighbor.primAddr = (t.1.map Neighbor.primAddr).erase addr := by
  have herase : (t.1.map Neighbor.primAddr).erase addr
      = (t.1.eraseP fun curr => curr.primAddr = addr).map Neighbor.primAddr := by
    rw [List.erase_eq_eraseP, List.eraseP_map]
    congr 2
    funext curr
    simp [Bool.beq_eq_decide_eq, eq_comm]
  rw [deleteEntry]
  split_ifs with hany
  · exact herase.symm
  · rw [List.erase_of_not_mem]
    simpa using hany

/-- `find_neighbor`.  It is only called on a table that exists. -/
def findNeighbor (addr : In6Addr) : List Neighbor → Option Neighbor
  | [] => none
  | head :: rest =>
      if head.primAddr = .zero then none
      else (head :: rest).find? fun it => it.primAddr = addr

/-- `del_rcvd_addr_table`: the first entry with the address goes. -/
def delRcvdAddrTable (addr : In6Addr) (rcvdAddr : List RecoveredAddr) : List RecoveredAddr :=
  rcvdAddr.eraseP fun curr => curr.primAddr = addr

/-- `check_addr_in_n_s_l_table`. -/
def checkAddrInNSLTable (addr : In6Addr) (nSLTable : List NSL) : Bool :=
  nSLTable.any fun it => it.addr = addr

namespace Node

/-- `init_neigh_table`: a single entry with the null address, when there is no table. -/
def initNeighTable (n : Node) : Node :=
  { n with
    neighTable :=
      if n.neighTable = [] then
        [{ primAddr := .zero, secAddrConn := false, count := 0, primMask := 0, primMaskInicial := 0
           available := false }]
      else n.neighTable }

/-- `add_neighbor`. -/
def addNeighbor (n : Node) (hb : CtrlPkt) (secFlag : Bool) : Option Node :=
  (addNeighborTable hb secFlag n.neighTable).map fun t => { n with neighTable := t }

lemma addNeighbor_eq_some {n n' : Node} {hb : CtrlPkt} {secFlag : Bool} :
    n.addNeighbor hb secFlag = some n' ↔
      ∃ t, addNeighborTable hb secFlag n.neighTable = some t ∧ n' = { n with neighTable := t } := by
  rw [addNeighbor, Option.map_eq_some_iff]
  exact exists_congr fun t => and_congr_right fun _ => eq_comm

/-- `delete_neighbor`. -/
def deleteNeighbor (n : Node) (addr : In6Addr) : Node :=
  { n with
    neighTable := (deleteEntry addr (n.neighTable, n.rvTable)).1
    rvTable := (deleteEntry addr (n.neighTable, n.rvTable)).2 }

/-- `recover_addr_space`: the address goes to the end of `rcvd_addr`, with its initial mask. -/
def recoverAddrSpace (n : Node) (primAddr : In6Addr) (primMaskInicial : UChar) : Node :=
  { n with rcvdAddr := n.rcvdAddr ++ [{ primMask := primMaskInicial, primAddr := primAddr }] }

/-! ## Neighbours with a secondary link -/

/-- `init_tables_secondary_link`. -/
def initTablesSecondaryLink (n : Node) : Node :=
  { n with nSLTable := if n.nSLTable = [] then [{ addr := .zero, mask := 0 }] else n.nSLTable }

/-- `add_n_s_l_table`, on a table that exists: a head with the null address is filled in. -/
def addNSLTable (n : Node) (addr : In6Addr) (mask : UChar) : Node :=
  { n with
    nSLTable :=
      match n.nSLTable with
      | [] => []
      | head :: rest =>
          if head.addr = .zero then [{ addr := addr, mask := mask }]
          else head :: rest ++ [{ addr := addr, mask := mask }] }

/-- `check_n_s_l_table`.  The test that would delete an entry is written `if(flag=0)`, which is
never true, so the loops over the two tables have no effect. -/
def checkNSLTable (n : Node) : Node :=
  { n with flagNeighBySecond := if n.nSLTable = [] then false else n.flagNeighBySecond }

/-! ## Registration -/

/-- `clear_rv_tables`. -/
def clearRvTables (n : Node) : Node := { n with rvTable := [], rvServers := [] }

/-- The registrations `register_rv` sends for one address of the node. -/
def rvRegs (n : Node) (addr : In6Addr) : List (In6Addr × RvCtrlPkt) :=
  n.rvServers.map fun server =>
    (server, { type := .rvReg, primAddr := addr, univAddr := n.univAddr })

/-- `register_rv`, the handler of `rv_t`: it arms the timer again, unless a merge or a
fragmentation is going on.  The loop for `sec_addr` calls `antop_socket_send` with three of its six
arguments, so that its registrations have no hop limit, socket and port, and reach no server: only
those of `prim_addr` are sent. -/
def registerRv (env : Env) (n : Node) : Node :=
  if n.flagMezcla then n
  else if n.flagFragmentacion then n
  else
    let n := { n with rvServers := if n.rvServers = [] then env.distributeInHc else n.rvServers }
    let n := n.timerAddMsec .rvT 3000 env.clock
    { n with rvOut := n.rvOut ++ n.rvRegs n.primAddr }

/-- The servers after `register_rv`. -/
def registeredServers (env : Env) (n : Node) : List In6Addr :=
  if n.flagMezcla || n.flagFragmentacion then n.rvServers
  else if n.rvServers = [] then env.distributeInHc else n.rvServers

/-- The timers after `register_rv`. -/
def registeredTimers (env : Env) (n : Node) : TimerQueue :=
  if n.flagMezcla || n.flagFragmentacion then n.timers
  else Antop.timerAddMsec .rvT 3000 env.clock n.timers

/-- What `register_rv` has sent to the servers. -/
def registeredOut (env : Env) (n : Node) : List (In6Addr × RvCtrlPkt) :=
  if n.flagMezcla || n.flagFragmentacion then n.rvOut
  else
    let n' := { n with rvServers := n.registeredServers env }
    n.rvOut ++ n'.rvRegs n.primAddr

/-- **What `register_rv` changes**: the timers, the servers and what is sent to them. -/
lemma registerRv_eq (env : Env) (n : Node) :
    registerRv env n = { n with
      timers := n.registeredTimers env
      rvServers := n.registeredServers env
      rvOut := n.registeredOut env } := by
  by_cases h : n.flagMezcla || n.flagFragmentacion
  · have hn : registerRv env n = n := by
      unfold registerRv
      by_cases hm : n.flagMezcla
      · rw [if_pos hm]
      · rw [if_neg hm, if_pos (by simpa [hm] using h)]
    rw [hn, registeredTimers, registeredServers, registeredOut, if_pos h, if_pos h, if_pos h]
  · obtain ⟨hm, hf⟩ : ¬ n.flagMezcla ∧ ¬ n.flagFragmentacion := by simpa using h
    unfold registerRv registeredTimers registeredOut registeredServers
    rw [if_neg hm, if_neg hf, if_neg h, if_neg h, if_neg h]
    simp only [timerAddMsec, rvRegs]

/-- A registration leaves the place of the node as it is. -/
@[simp] lemma registerRv_frame (env : Env) (n : Node) :
    (registerRv env n).hcDim = n.hcDim ∧ (registerRv env n).primAddr = n.primAddr
      ∧ (registerRv env n).primMask = n.primMask
      ∧ (registerRv env n).primMaskInicial = n.primMaskInicial
      ∧ (registerRv env n).primMaskOverflow = n.primMaskOverflow
      ∧ (registerRv env n).primAddrAux = n.primAddrAux ∧ (registerRv env n).secAddr = n.secAddr
      ∧ (registerRv env n).secAddrFlag = n.secAddrFlag ∧ (registerRv env n).redNumero = n.redNumero
      ∧ (registerRv env n).rcvdAddr = n.rcvdAddr ∧ (registerRv env n).iface = n.iface
      ∧ (registerRv env n).flagMezcla = n.flagMezcla :=
  by simp only [registerRv_eq, and_self]

/-- Registrations are no control packets. -/
@[simp] lemma out_registerRv (env : Env) (n : Node) : (n.registerRv env).out = n.out := by
  rw [registerRv_eq]

/-! ## The addresses of the interface -/

/-- `add`, the ioctl `SIOCSIFADDR`. -/
def add (n : Node) (addr : In6Addr) : Node := { n with iface := insert addr n.iface }

/-- `del`, the ioctl `SIOCDIFADDR`. -/
def del (n : Node) (addr : In6Addr) : Node := { n with iface := n.iface.erase addr }

/-- The addresses after `del_and_addnew` with a protected address: it is neither deleted nor set
again. -/
def cambiarIface (cuidada delold addnew : In6Addr) (iface : Finset In6Addr) : Finset In6Addr :=
  if addnew = cuidada then iface.erase delold
  else if delold = cuidada then insert addnew iface
  else insert addnew (iface.erase delold)

/-- `del_and_addnew`: with `flag` 0 it protects the primary address, with `flag` 1 the secondary
one, with `flag` 2 none. -/
def delAndAddnew (n : Node) (delold addnew : In6Addr) (flag : ℕ) : Node :=
  { n with
    iface :=
      if flag = 0 then cambiarIface n.primAddr delold addnew n.iface
      else if flag = 1 then cambiarIface n.secAddr delold addnew n.iface
      else if flag = 2 then insert addnew (n.iface.erase delold)
      else n.iface }

end Node

end Antop
