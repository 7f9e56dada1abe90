import Antop.Recuperadas

/-!
# Secondary links that have expired

`n_s_l_table` holds the neighbours that are linked to a node by their secondary address.  Before each
heartbeat `check_n_s_l_table` goes through it and looks for each of them in `neigh_table`, and those that
are not there any more should go; but the test is `if(flag=0)`, an assignment.

* `delNSLTable`, `revisarEnlace`, `revisarEnlaces` — the deletion of an entry, one round of the loop over
  the table, and the loop.
* `Node.checkNSLTable_eq` — the loop and the test for an empty table are `Node.checkNSLTable`.
* `Node.Podada` — only links of neighbours are left.
* **`Node.podada_iff`** — this is so exactly when there was no other link.
-/

namespace Antop

/-- `del_n_s_l_table`: the first entry with the address goes. -/
def delNSLTable (addr : In6Addr) (nSLTable : List NSL) : List NSL :=
  nSLTable.eraseP fun curr => curr.addr = addr

/-- One round of the loop of `check_n_s_l_table`, with the flag and the table: the loop over `neigh_table`
sets the flag when it finds the address, and what is tested is the value of `flag=0`. -/
def revisarEnlace (neighTable : List Neighbor) (s : Bool × List NSL) (it1 : NSL) : Bool × List NSL :=
  let s := (neighTable.foldl (fun flag it2 => if it1.addr = it2.primAddr then true else flag) s.1, s.2)
  -- the assignment in the test
  let s := (false, s.2)
  if s.1 then (s.1, delNSLTable it1.addr s.2) else (false, s.2)

/-- The loop of `check_n_s_l_table`.  An entry that is deleted is not freed, so that the loop goes over the
table as it was at its start. -/
def revisarEnlaces (neighTable : List Neighbor) (nSLTable : List NSL) : Bool × List NSL :=
  nSLTable.foldl (revisarEnlace neighTable) (false, nSLTable)

/-- No round deletes an entry. -/
lemma revisarEnlace_eq (neighTable : List Neighbor) (s : Bool × List NSL) (it1 : NSL) :
    revisarEnlace neighTable s it1 = (false, s.2) := by
  simp [revisarEnlace]

/-- **The loop leaves the table as it is.** -/
lemma revisarEnlaces_eq (neighTable : List Neighbor) (nSLTable : List NSL) :
    revisarEnlaces neighTable nSLTable = (false, nSLTable) := by
  have hloop (its : List NSL) : its.foldl (revisarEnlace neighTable) (false, nSLTable)
      = (false, nSLTable) := by
    induction its with
    | nil => rfl
    | cons it its ih =>
        rw [List.foldl_cons, revisarEnlace_eq]
        exact ih
  exact hloop nSLTable

namespace Node

/-- `check_n_s_l_table` with its loop. -/
lemma checkNSLTable_eq (n : Node) :
    n.checkNSLTable =
      let t := (revisarEnlaces n.neighTable n.nSLTable).2
      { n with
        nSLTable := t
        flagNeighBySecond := if t = [] then false else n.flagNeighBySecond } := by
  rw [revisarEnlaces_eq]
  rfl

/-- **What `check_n_s_l_table` is for.**  The links of neighbours are left, in their order, and the flag is
off when there is none; so that no other address is kept from being the root neighbour, and no other link
makes a node send messages. -/
structure Podada (n n' : Node) : Prop where
  enlaces : n'.nSLTable = n.nSLTable.filter fun e => e.addr ∈ n.vecinos
  flag : n'.nSLTable = [] → n'.flagNeighBySecond = false
  sinVeto : ∀ addr, checkAddrInNSLTable addr n'.nSLTable → addr ∈ n.vecinos
  sinAviso : (∀ e ∈ n.nSLTable, e.addr ∉ n.vecinos) → n'.flagNeighBySecond = false

/-- The first two are enough. -/
lemma podada_of_filter {n n' : Node}
    (henlaces : n'.nSLTable = n.nSLTable.filter fun e => e.addr ∈ n.vecinos)
    (hflag : n'.nSLTable = [] → n'.flagNeighBySecond = false) : n.Podada n' := by
  refine ⟨henlaces, hflag, fun addr hveto => ?_, fun hno => hflag ?_⟩
  · obtain ⟨e, he, heq⟩ : ∃ e ∈ n'.nSLTable, e.addr = addr := by
      simpa [checkAddrInNSLTable] using hveto
    rw [henlaces, List.mem_filter] at he
    simpa [heq] using he.2
  · rw [henlaces, List.filter_eq_nil_iff]
    simpa using hno

/-- **Expired links go** exactly when there are none. -/
theorem podada_iff (n : Node) : n.Podada n.checkNSLTable ↔ ∀ e ∈ n.nSLTable, e.addr ∈ n.vecinos := by
  constructor
  · intro h e he
    have hself : (n.nSLTable.filter fun e => e.addr ∈ n.vecinos) = n.nSLTable := h.enlaces.symm
    simpa using List.filter_eq_self.mp hself e he
  · intro h
    have hself : (n.nSLTable.filter fun e => e.addr ∈ n.vecinos) = n.nSLTable :=
      List.filter_eq_self.mpr (by simpa using h)
    exact podada_of_filter hself.symm fun hnil => if_pos hnil

/-- The first child of the root, whose only neighbour is the root, with the link of a node that has gone. -/
def conEnlaceVencido : Node :=
  { hijo with nSLTable := [{ addr := slotAddr root 1, mask := 2 }], flagNeighBySecond := true }

/-- Its link stays, and the flag. -/
theorem check_n_s_l_table_keeps_expired : ¬ ∀ n : Node, n.Podada n.checkNSLTable := by
  intro h
  have hbad := (h conEnlaceVencido).sinAviso (by decide)
  exact absurd hbad (by decide)

end Node

end Antop
