import Antop.Dispatch
import Antop.Recuperadas
import Antop.Library.KeyedList

/-!
# Neighbours that fall silent

`check_neighbors` counts the ticks for which a neighbour has not been heard: the count goes from 0 to -1, to
1 and on, and a neighbour with a count of `N_INACT` is deleted.  A heartbeat sets the count to 0.

* `trasTick`, `Node.checkNeighborsN` — the count after a tick, and `check_neighbors` for any `N_INACT` and
  any terminating test in place of `check_succesor`; `Node.checkNeighborsLoop_eq_N` is the link to the
  function of the daemon.
* `Node.cuenta_checkNeighborsN`, `Node.cuenta_processHb` — what a tick and a heartbeat do to the count of
  each neighbour.
* `Vigia` — a node with the heartbeats and ticks so far; `silencio`, the ticks since the last heartbeat of a
  neighbour.
* **`Vigia.inactividad`** — a neighbour is deleted at the tick `N_INACT + 2` of its silence, and nothing else
  changes its count, as long as no heartbeat has the null address or starts a fragmentation.
-/

namespace Antop

open Transition
open KeyedList (find?_filterMap find?_map_entry isSome_find?_iff map_key_filterMap_sublist replaceF_eq_map)

/-! ## Ticks -/

/-- The count of an entry after a tick, for `N_INACT = inact`; `none` is the deletion. -/
def trasTick (inact : ℕ) (count : ℤ) : Option ℤ :=
  if count = 0 then some (-1)
  else if count = -1 then some 1
  else if 0 < count ∧ count < inact then some (count + 1)
  else if (inact : ℤ) ≤ count then none
  else some count

/-- The entry after a tick. -/
def Neighbor.envejecer (inact : ℕ) (it : Neighbor) : Option Neighbor :=
  (trasTick inact it.count).map fun c => { it with count := c }

lemma primAddr_of_envejecer {inact : ℕ} (it it' : Neighbor) (h : it.envejecer inact = some it') :
    it'.primAddr = it.primAddr := by
  obtain ⟨c, -, rfl⟩ := Option.map_eq_some_iff.mp h
  rfl

/-- The entry of a neighbour after its heartbeat. -/
def Neighbor.refrescar (hb : CtrlPkt) (it : Neighbor) : Neighbor :=
  { it with count := 0, primMask := hb.adAddr.mask }

lemma primAddr_refrescar (hb : CtrlPkt) (it : Neighbor) : (it.refrescar hb).primAddr = it.primAddr := rfl

namespace Node

/-- The address space of a successor is recovered. -/
def recuperarSi (succesor : Bool) (it : Neighbor) (n : Node) : Node :=
  if succesor then n.recoverAddrSpace it.primAddr it.primMaskInicial else n

lemma primAddr_recuperarSi (succesor : Bool) (it : Neighbor) (n : Node) :
    (n.recuperarSi succesor it).primAddr = n.primAddr := by
  cases succesor <;> rfl

/-- The loop of `check_neighbors`, for any `N_INACT` and with a test for successors that ends. -/
def checkNeighborsLoopN (inact : ℕ) (succesor : In6Addr → In6Addr → Bool) :
    List Neighbor → List Neighbor → Node → Node
  | visited, [], n => { n with neighTable := visited }
  | visited, it :: rest, n =>
      if it.count = 0 then
        checkNeighborsLoopN inact succesor (visited ++ [{ it with count := -1 }]) rest n
      else if it.count = -1 then
        checkNeighborsLoopN inact succesor (visited ++ [{ it with count := 1 }]) rest n
      else if 0 < it.count ∧ it.count < inact then
        checkNeighborsLoopN inact succesor (visited ++ [{ it with count := it.count + 1 }]) rest n
      else if (inact : ℤ) ≤ it.count then
        let n := n.recuperarSi (succesor n.primAddr it.primAddr) it
        let t := deleteEntry it.primAddr (visited ++ [it], n.rvTable)
        checkNeighborsLoopN inact succesor t.1 rest { n with rvTable := t.2 }
      else checkNeighborsLoopN inact succesor (visited ++ [it]) rest n

/-- `check_neighbors`, for any `N_INACT` and with a test for successors that ends. -/
def checkNeighborsN (inact : ℕ) (succesor : In6Addr → In6Addr → Bool) (env : Env) (n : Node) : Node :=
  (checkNeighborsLoopN inact succesor [] n.neighTable n).timerAddMsec .chkNeighT 8000 env.clock

/-- **The loop of the daemon** is this one with `N_INACT`, where `check_succesor` ends. -/
lemma checkNeighborsLoop_eq_N {succesor : In6Addr → In6Addr → Bool} {visited its : List Neighbor} {n : Node}
    (h : ∀ it ∈ its, checkSuccesor n.primAddr it.primAddr = some (succesor n.primAddr it.primAddr)) :
    checkNeighborsLoop visited its n = some (checkNeighborsLoopN 1 succesor visited its n) := by
  induction its generalizing visited n with
  | nil => rfl
  | cons it its ih =>
      rw [List.forall_mem_cons] at h
      rw [checkNeighborsLoop, checkNeighborsLoopN, show nInact = ((1 : ℕ) : ℤ) from rfl]
      by_cases h0 : it.count = 0
      · rw [if_pos h0, if_pos h0]
        exact ih h.2
      rw [if_neg h0, if_neg h0]
      by_cases h1 : it.count = -1
      · rw [if_pos h1, if_pos h1]
        exact ih h.2
      rw [if_neg h1, if_neg h1]
      by_cases hsube : 0 < it.count ∧ it.count < (1 : ℕ)
      · rw [if_pos hsube, if_pos hsube]
        exact ih h.2
      rw [if_neg hsube, if_neg hsube]
      by_cases hborra : ((1 : ℕ) : ℤ) ≤ it.count
      · rw [if_pos hborra, if_pos hborra, h.1]
        refine ih fun it' hit' => ?_
        have hprim : (n.recuperarSi (succesor n.primAddr it.primAddr) it).primAddr = n.primAddr :=
          primAddr_recuperarSi _ _ _
        change checkSuccesor (n.recuperarSi (succesor n.primAddr it.primAddr) it).primAddr it'.primAddr
          = some (succesor (n.recuperarSi (succesor n.primAddr it.primAddr) it).primAddr it'.primAddr)
        rw [hprim]
        exact h.2 it' hit'
      · rw [if_neg hborra, if_neg hborra]
        exact ih h.2

/-- **What the loop does to the table**, in which no address stands twice: each entry is aged or deleted by
itself. -/
lemma neighTable_checkNeighborsLoopN (inact : ℕ) (succesor : In6Addr → In6Addr → Bool)
    {visited its : List Neighbor} {n : Node} (h : ((visited ++ its).map Neighbor.primAddr).Nodup) :
    (checkNeighborsLoopN inact succesor visited its n).neighTable
      = visited ++ its.filterMap (Neighbor.envejecer inact) := by
  induction its generalizing visited n with
  | nil => simp [checkNeighborsLoopN]
  | cons it its ih =>
      -- an entry that is aged keeps its address
      have hstay (c : ℤ) : ((visited ++ [{ it with count := c }] ++ its).map Neighbor.primAddr).Nodup := by
        simpa using h
      rw [checkNeighborsLoopN]
      split_ifs with h0 h1 hsube hborra
      · rw [ih (hstay _), List.filterMap_cons_some (b := { it with count := -1 })
          (by simp [Neighbor.envejecer, trasTick, h0])]
        simp
      · rw [ih (hstay _), List.filterMap_cons_some (b := { it with count := 1 })
          (by simp [Neighbor.envejecer, trasTick, h1])]
        simp
      · rw [ih (hstay _), List.filterMap_cons_some (b := { it with count := it.count + 1 })
          (by simp [Neighbor.envejecer, trasTick, h0, h1, hsube])]
        simp
      · -- the entry with this address is the one that is visited
        have hnuevo : it.primAddr ∉ visited.map Neighbor.primAddr := by
          rw [List.map_append, List.nodup_append] at h
          exact fun hmem => h.2.2 _ hmem _ (by simp) rfl
        have hdel (rv : List LookupTable) : (deleteEntry it.primAddr (visited ++ [it], rv)).1 = visited := by
          have hno : ∀ curr ∈ visited, ¬ decide (curr.primAddr = it.primAddr) := by
            intro curr hcurr
            have hne : curr.primAddr ≠ it.primAddr :=
              fun heq => hnuevo (heq ▸ List.mem_map_of_mem hcurr)
            simpa using hne
          rw [deleteEntry, if_pos (by simp), List.eraseP_append_right _ hno]
          simp
        have hrest : ((visited ++ its).map Neighbor.primAddr).Nodup := by
          rw [List.map_append] at h ⊢
          exact h.sublist ((List.sublist_cons_self _ _).append_left _)
        dsimp only
        rw [hdel, ih hrest, List.filterMap_cons_none
          (by simp [Neighbor.envejecer, trasTick, h0, h1, hsube, hborra])]
      · have hmisma : ((visited ++ [it] ++ its).map Neighbor.primAddr).Nodup := hstay it.count
        rw [ih hmisma, List.filterMap_cons_some (b := it)
          (by simp [Neighbor.envejecer, trasTick, h0, h1, hsube, hborra])]
        simp

/-- The entry of a neighbour. -/
def entrada (n : Node) (a : In6Addr) : Option Neighbor := n.neighTable.find? fun it => it.primAddr = a

/-- The count of a neighbour, if it is in the table. -/
def cuenta (n : Node) (a : In6Addr) : Option ℤ := (n.entrada a).map Neighbor.count

lemma isSome_cuenta_iff (n : Node) (a : In6Addr) : (n.cuenta a).isSome ↔ a ∈ n.vecinos := by
  rw [cuenta, Option.isSome_map, entrada]
  exact isSome_find?_iff a

/-- **A tick** ages the count of each neighbour by itself. -/
lemma cuenta_checkNeighborsN {n : Node} (hn : n.vecinos.Nodup) (inact : ℕ)
    (succesor : In6Addr → In6Addr → Bool) (env : Env) (a : In6Addr) :
    (n.checkNeighborsN inact succesor env).cuenta a = (n.cuenta a).bind (trasTick inact) := by
  have htab : (n.checkNeighborsN inact succesor env).neighTable
      = n.neighTable.filterMap (Neighbor.envejecer inact) :=
    neighTable_checkNeighborsLoopN inact succesor hn
  rw [cuenta, cuenta, entrada, entrada, htab, find?_filterMap primAddr_of_envejecer hn]
  cases n.neighTable.find? fun it => it.primAddr = a with
  | none => rfl
  | some it =>
      rw [Option.bind_some, Option.map_some, Option.bind_some, Neighbor.envejecer, Option.map_map]
      exact Option.map_id'

/-! ## Heartbeats -/

/-- **A heartbeat** sets the count of its sender to 0 and leaves the others. -/
lemma cuenta_oirVecino {hb : CtrlPkt} {secFlag : Bool} {n m : Node} (hn : n.vecinos.Nodup)
    (hcero : .zero ∉ n.vecinos) (h : n.oirVecino hb secFlag = some m) (a : In6Addr) :
    m.cuenta a = if a = hb.primAddr then some 0 else n.cuenta a := by
  rcases oirVecino_cases h with ⟨hhead, htab⟩ | ⟨-, ⟨hfind, htab⟩ | ⟨it, hfind, htab⟩⟩
  · -- without the null address this is the empty table
    have hnil : n.neighTable = [] := by
      cases htab' : n.neighTable with
      | nil => rfl
      | cons head rest =>
          have hzero : head.primAddr = .zero := hhead head (by rw [htab']; rfl)
          exact absurd (by simp [vecinos, htab', hzero]) hcero
    rw [cuenta, cuenta, entrada, entrada, htab, hnil]
    by_cases ha : a = hb.primAddr
    · simp [ha, newNeighbor]
    · have hne : ¬ hb.primAddr = a := fun heq => ha heq.symm
      simp [ha, hne, newNeighbor]
  · rw [cuenta, cuenta, entrada, entrada, htab, List.find?_append]
    by_cases ha : a = hb.primAddr
    · subst ha
      rw [if_pos rfl, hfind]
      simp [newNeighbor]
    · have hne : ¬ hb.primAddr = a := fun heq => ha heq.symm
      rw [if_neg ha]
      simp [newNeighbor, hne]
  · have hmap : m.neighTable
        = n.neighTable.map fun it => if it.primAddr = hb.primAddr then it.refrescar hb else it :=
      htab.trans (replaceF_eq_map hn hb.primAddr (Neighbor.refrescar hb))
    rw [cuenta, cuenta, entrada, entrada, hmap, find?_map_entry (primAddr_refrescar hb)]
    by_cases ha : a = hb.primAddr
    · subst ha
      rw [if_pos rfl, hfind]
      simp [Neighbor.refrescar]
    · simp [ha]

/-- The heartbeat starts no fragmentation. -/
def oyeSinFragmentar (env : Env) (hb : CtrlPkt) (n : Node) : Prop :=
  ∀ m ∈ n.oirVecino hb (n.porSecundaria hb), ¬ m.seFragmenta env

instance (env : Env) (hb : CtrlPkt) (n : Node) : Decidable (n.oyeSinFragmentar env hb) := by
  unfold oyeSinFragmentar
  infer_instance

/-- **`process_hb`** on a heartbeat that is accepted and starts no fragmentation. -/
lemma cuenta_processHb {env : Env} {hb : CtrlPkt} {n n' : Node} (hn : n.vecinos.Nodup)
    (hcero : .zero ∉ n.vecinos) (hesc : n.escucha env hb) (hfrag : n.oyeSinFragmentar env hb)
    (h : n.processHb env hb = some n') :
    n'.vecinos.Nodup ∧ ∀ a, n'.cuenta a = if a = hb.primAddr then some 0 else n.cuenta a := by
  rw [processHb_of_escucha hesc] at h
  obtain ⟨m, hm, rfl⟩ := Option.map_eq_some_iff.mp h
  -- the detector leaves the table
  have htab : (m.detectorDeFragmentacion env).neighTable = m.neighTable := by
    rcases detectorDeFragmentacion_cases env m with heq | heq | ⟨hf, -⟩
    · rw [heq]
    · rw [heq]
      rfl
    · exact absurd hf (hfrag m hm)
  have hvecinos : (m.detectorDeFragmentacion env).vecinos = m.vecinos := by rw [vecinos, htab, vecinos]
  refine ⟨hvecinos ▸ (vecinos_oirVecino hm hn).1, fun a => ?_⟩
  rw [← cuenta_oirVecino hn hcero hm, cuenta, entrada, htab, cuenta, entrada]

end Node

/-! ## Silence -/

/-- What happens to the table: a heartbeat is received, or `check_neighbors` runs. -/
inductive Aviso
  | hb (env : Env) (msg : CtrlPkt)
  | tick (env : Env)

/-- The consecutive ticks since the last heartbeat of a neighbour.  The last event comes first. -/
def silencio (a : In6Addr) : List Aviso → Option ℕ
  | [] => none
  | .hb _ msg :: es => if msg.primAddr = a then some 0 else silencio a es
  | .tick _ :: es => (silencio a es).map (· + 1)

/-- The count after a silence. -/
def cuentaTras (inact k : ℕ) : Option ℤ :=
  if k < inact + 2 then some (if k = 0 then 0 else if k = 1 then -1 else (k : ℤ) - 1) else none

/-- One tick more of silence. -/
lemma trasTick_cuentaTras {inact : ℕ} (h : 1 ≤ inact) (k : ℕ) :
    (cuentaTras inact k).bind (trasTick inact) = cuentaTras inact (k + 1) := by
  unfold cuentaTras
  by_cases hk : k < inact + 2
  · rw [if_pos hk, Option.bind_some]
    rcases Nat.lt_or_ge k 2 with hlt | hge
    · have hk01 : k = 0 ∨ k = 1 := by omega
      rcases hk01 with rfl | rfl
      · simp [trasTick]
      · simp [trasTick]
        omega
    · have h0 : ¬ k = 0 := by omega
      have h1 : ¬ k = 1 := by omega
      have h2 : ¬ (k : ℤ) - 1 = 0 := by omega
      have h3 : ¬ (k : ℤ) - 1 = -1 := by omega
      rw [if_neg h0, if_neg h1, trasTick, if_neg h2, if_neg h3, if_neg (by omega : ¬ k + 1 = 0),
        if_neg (by omega : ¬ k + 1 = 1)]
      by_cases hlast : k + 1 < inact + 2
      · rw [if_pos (by omega), if_pos hlast]
        push_cast
        congr 1
        ring
      · rw [if_neg (by omega), if_pos (by omega), if_neg hlast]
  · rw [if_neg hk, if_neg (by omega), Option.bind_none]

/-- A node, with the events so far, the last one first. -/
structure Vigia where
  node : Node
  historia : List Aviso

namespace Vigia

/-- One event, for any `N_INACT` and with a test for successors that ends. -/
def step (inact : ℕ) (succesor : In6Addr → In6Addr → Bool) (s : Vigia) (e : Aviso) : Option Vigia :=
  match e with
  | .hb env msg => (s.node.processHb env msg).map fun n => ⟨n, e :: s.historia⟩
  | .tick env => some ⟨s.node.checkNeighborsN inact succesor env, e :: s.historia⟩

/-- The heartbeats are accepted. -/
def acepta (s : Vigia) : Aviso → Prop
  | .hb env msg => s.node.escucha env msg
  | .tick _ => True

/-- A heartbeat does not have the null address. -/
def conDireccion : Aviso → Prop
  | .hb _ msg => msg.primAddr ≠ .zero
  | .tick _ => True

/-- A heartbeat starts no fragmentation. -/
def sinFragmentar (s : Vigia) : Aviso → Prop
  | .hb env msg => s.node.oyeSinFragmentar env msg
  | .tick _ => True

instance (s : Vigia) (e : Aviso) : Decidable (s.acepta e) :=
  match e with
  | .hb env msg => inferInstanceAs (Decidable (s.node.escucha env msg))
  | .tick _ => inferInstanceAs (Decidable True)

instance (e : Aviso) : Decidable (conDireccion e) :=
  match e with
  | .hb _ msg => inferInstanceAs (Decidable (msg.primAddr ≠ .zero))
  | .tick _ => inferInstanceAs (Decidable True)

instance (s : Vigia) (e : Aviso) : Decidable (s.sinFragmentar e) :=
  match e with
  | .hb env msg => inferInstanceAs (Decidable (s.node.oyeSinFragmentar env msg))
  | .tick _ => inferInstanceAs (Decidable True)

/-- A heartbeat of another neighbour leaves the count. -/
def Ajena (a : In6Addr) (s : Vigia) (e : Aviso) (s' : Vigia) : Prop :=
  match e with
  | .hb _ msg => a ≠ msg.primAddr → s'.node.cuenta a = s.node.cuenta a
  | .tick _ => True

instance (a : In6Addr) (s : Vigia) (e : Aviso) (s' : Vigia) : Decidable (Ajena a s e s') :=
  match e with
  | .hb _ msg => inferInstanceAs (Decidable (a ≠ msg.primAddr → s'.node.cuenta a = s.node.cuenta a))
  | .tick _ => inferInstanceAs (Decidable True)

/-- **What is asked of an event.**  At a tick those neighbours are deleted whose silence has reached
`N_INACT + 2`; a heartbeat leaves the count of any other neighbour, and a tick changes the count of a neighbour
by what it was. -/
structure Vigila (inact : ℕ) (s : Vigia) (e : Aviso) (s' : Vigia) : Prop where
  baja : ∀ env, e = .tick env → ∀ a,
    (a ∈ s.node.vecinos ∧ a ∉ s'.node.vecinos ↔ silencio a s'.historia = some (inact + 2))
  ajenas : ∀ a, Ajena a s e s'
  cadaUna : ∀ env, e = .tick env → ∀ a, s'.node.cuenta a = (s.node.cuenta a).bind (trasTick inact)

/-- The invariant: the count of a neighbour is that of its silence. -/
structure AlDia (inact : ℕ) (s : Vigia) : Prop where
  nodup : s.node.vecinos.Nodup
  sinCero : .zero ∉ s.node.vecinos
  cuentas : ∀ a, s.node.cuenta a = (silencio a s.historia).bind (cuentaTras inact)

/-- An empty table. -/
lemma alDia_nuevo (inact : ℕ) {n : Node} (h : n.neighTable = []) : AlDia inact ⟨n, []⟩ := by
  have hvec : n.vecinos = [] := by rw [Node.vecinos, h, List.map_nil]
  refine ⟨?_, ?_, fun a => ?_⟩
  · simp [hvec]
  · simp [hvec]
  · simp [Node.cuenta, Node.entrada, h, silencio]

/-- Being in the table is having a count. -/
lemma AlDia.mem_vecinos_iff {inact : ℕ} {s : Vigia} (h : s.AlDia inact) (a : In6Addr) :
    a ∈ s.node.vecinos ↔ ∃ k, silencio a s.historia = some k ∧ k < inact + 2 := by
  rw [← Node.isSome_cuenta_iff, h.cuentas]
  cases silencio a s.historia with
  | none => simp
  | some k =>
      rw [Option.bind_some, cuentaTras]
      split_ifs with hk <;> simp [hk]

/-- **One event.** -/
lemma AlDia.step {inact : ℕ} (hinact : 1 ≤ inact) {succesor : In6Addr → In6Addr → Bool} {s s' : Vigia}
    {e : Aviso} (h : s.AlDia inact) (hacepta : s.acepta e) (hdir : conDireccion e) (hfrag : s.sinFragmentar e)
    (hstep : s.step inact succesor e = some s') : s'.AlDia inact ∧ s.Vigila inact e s' := by
  cases e with
  | hb env msg =>
      obtain ⟨n', hn', rfl⟩ := Option.map_eq_some_iff.mp hstep
      obtain ⟨hnodup, hcuenta⟩ := Node.cuenta_processHb h.nodup h.sinCero hacepta hfrag hn'
      refine ⟨⟨hnodup, ?_, fun a => ?_⟩, ⟨by simp, fun a ha => ?_, by simp⟩⟩
      · have hcero : ¬ In6Addr.zero = msg.primAddr := fun heq => hdir heq.symm
        rw [← Node.isSome_cuenta_iff, hcuenta, if_neg hcero, Node.isSome_cuenta_iff]
        exact h.sinCero
      · rw [hcuenta, silencio, h.cuentas]
        by_cases ha : a = msg.primAddr
        · rw [if_pos ha, if_pos ha.symm]
          simp [cuentaTras]
        · rw [if_neg ha, if_neg fun heq => ha heq.symm]
      · rw [hcuenta, if_neg ha]
  | tick env =>
      obtain rfl := Option.some.inj hstep
      have hcuenta (a : In6Addr) := Node.cuenta_checkNeighborsN h.nodup inact succesor env a
      have htab : (s.node.checkNeighborsN inact succesor env).neighTable
          = s.node.neighTable.filterMap (Neighbor.envejecer inact) :=
        Node.neighTable_checkNeighborsLoopN inact succesor h.nodup
      have hdia : AlDia inact ⟨s.node.checkNeighborsN inact succesor env, .tick env :: s.historia⟩ := by
        refine ⟨?_, ?_, fun a => ?_⟩
        · rw [Node.vecinos, htab]
          exact (map_key_filterMap_sublist primAddr_of_envejecer _).nodup h.nodup
        · rw [← Node.isSome_cuenta_iff, hcuenta]
          have hno : s.node.cuenta .zero = none := by
            rw [← Option.not_isSome_iff_eq_none, Node.isSome_cuenta_iff]
            exact h.sinCero
          simp [hno]
        · rw [hcuenta, h.cuentas, silencio]
          cases silencio a s.historia with
          | none => rfl
          | some k =>
              rw [Option.bind_some, Option.map_some, Option.bind_some]
              exact trasTick_cuentaTras hinact k
      refine ⟨hdia, ⟨fun _ _ a => ?_, fun _ => trivial, fun _ _ a => hcuenta a⟩⟩
      rw [h.mem_vecinos_iff, hdia.mem_vecinos_iff]
      simp only [silencio]
      cases silencio a s.historia with
      | none => simp
      | some k =>
          simp only [Option.some.injEq, exists_eq_left', Option.map_some]
          omega

/-- **Inactivity detection.**  From an empty table, as long as no heartbeat has the null address or starts a
fragmentation, a neighbour is deleted at the tick `N_INACT + 2` of its silence and no other. -/
theorem inactividad {inact : ℕ} (hinact : 1 ≤ inact) (succesor : In6Addr → In6Addr → Bool) {n : Node}
    (hn : n.neighTable = []) (es : List Aviso)
    (hes : ∀ t ∈ steps (step inact succesor) ⟨n, []⟩ es,
      t.1.acepta t.2.1 ∧ conDireccion t.2.1 ∧ t.1.sinFragmentar t.2.1) :
    ∀ t ∈ steps (step inact succesor) ⟨n, []⟩ es, t.1.Vigila inact t.2.1 t.2.2 := by
  intro t ht
  have hinv : t.1.AlDia inact :=
    invariant_of_guard (G := fun s e => s.acepta e ∧ conDireccion e ∧ s.sinFragmentar e)
      (fun s e s' h hg hstep => (h.step hinact hg.1 hg.2.1 hg.2.2 hstep).1) (alDia_nuevo inact hn) hes
      t.1 (source_mem_states ht)
  obtain ⟨hacepta, hdir, hfrag⟩ := hes t ht
  exact (hinv.step hinact hacepta hdir hfrag (step_of_mem_steps ht)).2

/-! ## What else can happen -/

/-- A heartbeat of a node with the address `a`. -/
def hbDe (a : In6Addr) : CtrlPkt := { CtrlPkt.zero with pktTypeF := .hb, srcAddr := a, primAddr := a }

/-- The first child of the root, with no neighbour yet. -/
def hijoSolo : Node := { Node.hijo.arrancar ⟨0, 0⟩ with neighTable := [] }

/-- It hears the root and a child, and the root falls silent; then another child is heard, and the root does
not answer. -/
def pierdeRoot : List Aviso :=
  [.hb .zero (hbDe root), .hb .zero (hbDe (slotAddr (slotAddr root 0) 2)), .tick .zero, .tick .zero,
    .hb .zero (hbDe (slotAddr (slotAddr root 0) 2)), .tick .zero,
    .hb .zero (hbDe (slotAddr (slotAddr root 0) 1))]

/-- The root of a network, with a secondary address and no neighbour. -/
def rootSolo : Node :=
  { (primAddrInit 64 "r").arrancar ⟨0, 0⟩ with
    secAddr := slotAddr root 1, secMask := 2, secAddrFlag := true }

/-- A heartbeat with the null address, and another one. -/
def oyeCero : List Aviso := [.hb .zero (hbDe .zero), .hb .zero (hbDe (slotAddr root 0))]

/-- A heartbeat deletes other neighbours when it starts a fragmentation, and so does one that finds the null
address in front. -/
theorem heartbeat_deletes_others :
    (¬ ∀ (inact : ℕ) (succesor : In6Addr → In6Addr → Bool) (n : Node) (es : List Aviso), 1 ≤ inact →
        n.neighTable = [] →
        (∀ t ∈ steps (step inact succesor) ⟨n, []⟩ es, t.1.acepta t.2.1 ∧ conDireccion t.2.1) →
        ∀ t ∈ steps (step inact succesor) ⟨n, []⟩ es, t.1.Vigila inact t.2.1 t.2.2)
      ∧ ¬ ∀ (inact : ℕ) (succesor : In6Addr → In6Addr → Bool) (n : Node) (es : List Aviso), 1 ≤ inact →
        n.neighTable = [] →
        (∀ t ∈ steps (step inact succesor) ⟨n, []⟩ es, t.1.acepta t.2.1 ∧ t.1.sinFragmentar t.2.1) →
        ∀ t ∈ steps (step inact succesor) ⟨n, []⟩ es, t.1.Vigila inact t.2.1 t.2.2 := by
  constructor
  · intro h
    have hbad : ∀ t ∈ steps (step 1 fun _ _ => false) ⟨hijoSolo, []⟩ pierdeRoot,
        Ajena (slotAddr (slotAddr root 0) 2) t.1 t.2.1 t.2.2 := fun t ht =>
      (h 1 (fun _ _ => false) hijoSolo pierdeRoot le_rfl rfl (by decide +kernel) t ht).ajenas _
    revert hbad
    decide +kernel
  · intro h
    have hbad : ∀ t ∈ steps (step 1 fun _ _ => false) ⟨rootSolo, []⟩ oyeCero,
        Ajena .zero t.1 t.2.1 t.2.2 := fun t ht =>
      (h 1 (fun _ _ => false) rootSolo oyeCero le_rfl rfl (by decide +kernel) t ht).ajenas _
    revert hbad
    decide +kernel

/-- A child and the root: the root is deleted at the third tick of its silence. -/
theorem inactividad_pierdeRoot :
    hijoSolo.neighTable = []
      ∧ ∀ t ∈ steps (step 1 fun _ _ => false) ⟨hijoSolo, []⟩ (pierdeRoot.take 6), t.1.Vigila 1 t.2.1 t.2.2 :=
  ⟨rfl, inactividad le_rfl (fun _ _ => false) rfl (pierdeRoot.take 6) (by decide +kernel)⟩

end Vigia

end Antop
