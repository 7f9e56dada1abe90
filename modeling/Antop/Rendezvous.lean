import Antop.NameTransport
import Antop.Library.Memory
import Antop.Library.Transition

/-!
# Registering a name and looking it up

A name is registered with the servers `distribute_in_hc` computes from it, and looked up at one of
those it computes.  The two computations are made in different nodes, and in different places of the
daemon: `register_rv` computes the list once, from the command line, into `rv_servers`;
`answer_dns_query` takes the name out of the wire format of a query, and `solve_name` computes the
list into `rv_servers_dst`, over the one that an earlier query has left there.

* `hash2Hc`, `distributeInHc`, `distWMask` — how the servers are computed and compared.
* `decodificar`, `solveName`, `answerDnsQuery` — the way of a query.
* `Rendezvous`, `Rendezvous.step` — the variables of `rendezvous.c` and what happens to them.
* `encuentro` — a lookup goes to one of the servers with which the name is registered.
-/

namespace Antop

open CString Memory Transition

/-! ## The servers of a name -/

/-- `hc[0]` of `hash_2_hc`: the characters are signed. -/
def hc0 (uAddr : List UChar) : BitVec 64 := uAddr.foldl (fun h c => h * 31 + c.signExtend 64) 0

/-- The table `hc` of `hash_2_hc`. -/
def hc (uAddr : List UChar) : ℕ → BitVec 64
  | 0 => hc0 uAddr
  | i + 1 => (hc uAddr i + 17) * 31

/-- `*((uint16_t *) (hc + 2 * i))`. -/
def hcWord (uAddr : List UChar) (i : ℕ) : Word := (hc uAddr (2 * i)).setWidth 16

/-- `hash_2_hc`.  What it writes behind the eighth word is no longer in the address. -/
def hash2Hc (hcDim : ℕ) (uAddr : List UChar) : In6Addr :=
  let addr := (In6Addr.zero.setWord 0 0x0120).setWord 1 0xb80d
  let addr := (List.range (hcDim / 16)).foldl
    (fun addr i => addr.setWord (4 + i) (hcWord uAddr i)) addr
  let i := hcDim / 16
  (List.range (hcDim % 16)).foldl (fun addr j =>
    addr.setWord (4 + i) (addr.word (4 + i) + (htons (pow2 j) &&& hcWord uAddr i))) addr

/-- `branch_bits`: the logarithm of 64, rounded up. -/
def branchBits : ℕ := Nat.log2 64 + if 2 ^ Nat.log2 64 = 64 then 0 else 1

/-- The branch of the server `i`, from the first and the last character of the name. -/
def branch (i : ℕ) (primero ultimo : UChar) : Word :=
  if i = 0 then
    let mask := BitVec.ofInt 16 (Int.tmod (5 * primero.toInt) ultimo.toInt)
    if 64 < mask then mask / 4 else if mask < 1 then mask * 7 else mask
  else
    let mask := BitVec.ofInt 16 (Int.tmod (7 * ultimo.toInt) primero.toInt)
    if 64 < mask then mask / 4 else if mask < 1 then mask * 9 else mask

/-- The server `i` of a name, one round of the loop of `distribute_in_hc`.  The empty name divides by
zero. -/
def rvServer (hcDim : ℕ) (uAddr : List UChar) (i : ℕ) : Option In6Addr :=
  match uAddr.head?, uAddr.getLast? with
  | some primero, some ultimo =>
      let addr := hash2Hc hcDim uAddr
      let mask := ((List.range branchBits).map fun j => pow2 j).sum
      let mask := ~~~(mask <<< (16 - branchBits))
      let addr := addr.setWord 4 (htons (addr.word 4 &&& htons mask))
      let mask := branch i primero ultimo <<< (16 - branchBits)
      some (addr.setWord 4 (htons (addr.word 4) ||| htons mask))
  | _, _ => none

/-- The loop of `distribute_in_hc` from the round `i` on.  Each round writes into the cell it finds and
hangs a new one behind it, whose address is not read before it is written; the last one is freed. -/
def distribuirDesde (hcDim : ℕ) (uAddr : List UChar) : ℕ → ℕ → List In6Addr → Option (List In6Addr)
  | 0, _, _ => some []
  | _ + 1, _, [] => none
  | quedan + 1, i, _ :: _ => do
      let addr ← rvServer hcDim uAddr i
      let rest ← distribuirDesde hcDim uAddr quedan (i + 1) [.zero]
      return addr :: rest

/-- `distribute_in_hc`: `rvServers` is the list that is there, when it is used again. -/
def distributeInHc (hcDim serverCount : ℕ) (uAddr : List UChar) (rvServers : List In6Addr) :
    Option (List In6Addr) :=
  distribuirDesde hcDim uAddr serverCount 0 (if rvServers = [] then [.zero] else rvServers)

/-- `NSERVER_RV`. -/
def nserverRv : ℕ := 2

/-- **The list that was there** makes no difference: its first cell is written over, and the others are
cut off. -/
lemma distributeInHc_eq (hcDim serverCount : ℕ) (uAddr : List UChar) (rvServers : List In6Addr) :
    distributeInHc hcDim serverCount uAddr rvServers = distributeInHc hcDim serverCount uAddr [] := by
  rw [distributeInHc, distributeInHc, if_pos rfl]
  cases rvServers with
  | nil => rw [if_pos rfl]
  | cons addr rvServers =>
      rw [if_neg (List.cons_ne_nil _ _)]
      cases serverCount <;> rfl

lemma exists_rvServer (hcDim : ℕ) {uAddr : List UChar} (h : uAddr ≠ []) (i : ℕ) :
    ∃ addr, rvServer hcDim uAddr i = some addr := by
  unfold rvServer
  rw [List.head?_eq_some_head h, List.getLast?_eq_some_getLast h]
  exact ⟨_, rfl⟩

lemma exists_distribuirDesde (hcDim : ℕ) {uAddr : List UChar} (h : uAddr ≠ []) (quedan i : ℕ)
    (celda : In6Addr) (celdas : List In6Addr) :
    ∃ l, distribuirDesde hcDim uAddr quedan i (celda :: celdas) = some l ∧ l.length = quedan := by
  induction quedan generalizing i celda celdas with
  | zero => exact ⟨[], rfl, rfl⟩
  | succ quedan ih =>
      obtain ⟨addr, haddr⟩ := exists_rvServer hcDim h i
      obtain ⟨rest, hrest, hlen⟩ := ih (i + 1) .zero []
      refine ⟨addr :: rest, ?_, by rw [List.length_cons, hlen]⟩
      simp only [distribuirDesde, haddr, hrest]
      rfl

/-- There are servers for every name that is not empty. -/
lemma exists_distributeInHc (hcDim serverCount : ℕ) {uAddr : List UChar} (h : uAddr ≠ []) :
    ∃ l, distributeInHc hcDim serverCount uAddr [] = some l ∧ l.length = serverCount :=
  exists_distribuirDesde hcDim h serverCount 0 .zero []

/-! ## The closest server -/

/-- Memory that nobody has written before it is read: `neigh.prim_mask`, and the words behind the two
addresses that `dist_w_mask` compares. -/
structure SinIniciar where
  primMask : UChar
  trasDst : ℕ → Word
  trasNeigh : ℕ → Word

/-- Memory that is filled with zeros, but for a mask of 64 bits. -/
def SinIniciar.zero : SinIniciar := ⟨64, fun _ => 0, fun _ => 0⟩

/-- The word `i` from the start of an address on. -/
def palabra (addr : In6Addr) (tras : ℕ → Word) (i : ℕ) : Word :=
  if i < 8 then addr.word i else tras i

/-- `dist_w_mask`. -/
def distWMask (m : SinIniciar) (dst neigh : In6Addr) : ℕ :=
  let distintos (i j : ℕ) : Bool :=
    (palabra dst m.trasDst i &&& htons (pow2 j)) != (palabra neigh m.trasNeigh i &&& htons (pow2 j))
  let words := 4 + m.primMask.toNat / 16
  let bits := 15 - m.primMask.toNat % 16
  ((List.range (words - 4)).map fun i => (List.range 16).countP fun j => distintos (4 + i) j).sum
    + (List.range (15 - bits)).countP fun k => distintos words (15 - k)

/-- One round of the loop of `solve_name` over the servers: `main_rv_server` and `min_dist`. -/
def acercar (dist : In6Addr → ℕ) (p : In6Addr × ℕ) (addr : In6Addr) : In6Addr × ℕ :=
  if dist addr < p.2 then (addr, dist addr) else p

lemma sum_countP_le (f : ℕ → ℕ → Bool) (k : ℕ) :
    ((List.range k).map fun i => (List.range 16).countP (f i)).sum ≤ k * 16 := by
  refine (List.sum_le_card_nsmul _ 16 ?_).trans_eq (by simp)
  intro c hc
  obtain ⟨i, -, rfl⟩ := List.mem_map.mp hc
  exact List.countP_le_length.trans_eq List.length_range

/-- `dist_w_mask` counts no more bits than the mask says. -/
lemma distWMask_le (m : SinIniciar) (dst neigh : In6Addr) :
    distWMask m dst neigh ≤ m.primMask.toNat := by
  refine (Nat.add_le_add (sum_countP_le _ _)
    (List.countP_le_length.trans_eq List.length_range)).trans ?_
  omega

lemma distWMask_lt (m : SinIniciar) (dst neigh : In6Addr) : distWMask m dst neigh < 1000 :=
  (distWMask_le m dst neigh).trans_lt (m.primMask.isLt.trans (by decide))

lemma foldl_acercar (dist : In6Addr → ℕ) (l : List In6Addr) (p : In6Addr × ℕ) :
    (l.foldl (acercar dist) p).1 = p.1 ∨ (l.foldl (acercar dist) p).1 ∈ l := by
  induction l generalizing p with
  | nil => exact Or.inl rfl
  | cons a l ih =>
      rw [List.foldl_cons]
      rcases ih (acercar dist p a) with h | h
      · rw [h, acercar]
        split_ifs
        · exact Or.inr List.mem_cons_self
        · exact Or.inl rfl
      · exact Or.inr (List.mem_cons_of_mem a h)

/-- **The choice.**  When every server is closer than the bound it starts with, the loop ends at one of
them. -/
lemma foldl_acercar_mem {dist : In6Addr → ℕ} {l : List In6Addr} (main : In6Addr) {min : ℕ}
    (hl : l ≠ []) (h : ∀ a, dist a < min) : (l.foldl (acercar dist) (main, min)).1 ∈ l := by
  cases l with
  | nil => exact absurd rfl hl
  | cons a l =>
      have ha : acercar dist (main, min) a = (a, dist a) := if_pos (h a)
      rw [List.foldl_cons, ha]
      rcases foldl_acercar dist l (a, dist a) with hm | hm
      · rw [hm]
        exact List.mem_cons_self
      · exact List.mem_cons_of_mem a hm

/-! ## The name in a query -/

/-- `IPV6_MDNS_QUERY_OFF`. -/
def ipv6MdnsQueryOff : ℕ := 92

/-- What `answer_dns_query` looks up: the string at the question, which starts with the length of the
label, moved one place to the front.  `auxStr` is what its buffer holds before.  An empty string
makes the loop run for ever. -/
def decodificar (auxStr : Buffer UChar 150) (data : List UChar) : Option (List UChar) := do
  let qname ← cstr (data.drop ipv6MdnsQueryOff)
  let aux ← auxStr.strcpy qname
  guard (qname ≠ [])
  cstr (put (pull aux.units (qname.length - 1)) (qname.length - 1) [0])

/-- A name that is one label. -/
structure Etiqueta where
  bytes : List UChar
  cstr : CStr bytes
  noVacia : 1 ≤ bytes.length
  corta : bytes.length ≤ 63

/-- The question of a packet asks for a name: its length, its characters, and the root label. -/
def Pregunta (data : List UChar) (nombre : Etiqueta) : Prop :=
  BitVec.ofNat 8 nombre.bytes.length :: (nombre.bytes ++ [0]) <+: data.drop ipv6MdnsQueryOff

lemma Etiqueta.ne_nil (nombre : Etiqueta) : nombre.bytes ≠ [] :=
  List.ne_nil_of_length_pos nombre.noVacia

/-- The string at the question of a packet that asks for a name. -/
lemma Pregunta.cstr_eq {data : List UChar} {nombre : Etiqueta} (h : Pregunta data nombre) :
    cstr (data.drop ipv6MdnsQueryOff) = some (BitVec.ofNat 8 nombre.bytes.length :: nombre.bytes) := by
  obtain ⟨resto, hresto⟩ := h
  have hcorta := nombre.corta
  have hlong : BitVec.ofNat 8 nombre.bytes.length ≠ 0 := by
    intro hc
    have := congrArg BitVec.toNat hc
    rw [BitVec.toNat_ofNat, Nat.mod_eq_of_lt (by omega)] at this
    have := nombre.noVacia
    simp_all
  have hqname : CStr (BitVec.ofNat 8 nombre.bytes.length :: nombre.bytes) := by
    intro b hb
    rcases List.mem_cons.mp hb with rfl | hb
    · exact hlong
    · exact nombre.cstr b hb
  rw [← hresto]
  simpa using cstr_append_zero hqname resto

/-- The string at the question loses its first octet. -/
lemma decodificar_cons {data uaddr : List UChar} {largo : UChar}
    (h : cstr (data.drop ipv6MdnsQueryOff) = some (largo :: uaddr)) (hcabe : uaddr.length ≤ 148)
    (auxStr : Buffer UChar 150) : decodificar auxStr data = some uaddr := by
  have hstr : CStr uaddr := fun b hb => CStr.of_cstr h b (List.mem_cons_of_mem _ hb)
  obtain ⟨aux, haux, hunits⟩ := auxStr.exists_memcpy (largo :: uaddr ++ [0]) (by simp; omega)
  obtain ⟨y, hy⟩ := pull_cons largo uaddr (0 :: auxStr.units.drop (uaddr.length + 2))
  have hpull : pull aux.units uaddr.length
      = uaddr ++ y :: 0 :: auxStr.units.drop (uaddr.length + 2) := by
    rw [← hy, hunits]
    simp
  unfold decodificar
  rw [h, Option.bind_eq_bind, Option.bind_some, Buffer.strcpy, haux, Option.bind_eq_bind,
    Option.bind_some, guard, if_pos (List.cons_ne_nil _ _), List.length_cons, Nat.add_sub_cancel,
    hpull, put_append_cons]
  exact cstr_append_zero hstr _

/-- **The name of a question** is taken out of it as it was written. -/
theorem decodificar_eq {data : List UChar} {nombre : Etiqueta} (h : Pregunta data nombre)
    (auxStr : Buffer UChar 150) : decodificar auxStr data = some nombre.bytes :=
  decodificar_cons h.cstr_eq (nombre.corta.trans (by decide)) auxStr

/-! ## The variables of `rendezvous.c` -/

/-- An entry of `cached_table`, and where the characters of its name lie in memory. -/
structure EntradaCache where
  hcAddr : In6Addr
  univAddr : Buffer UChar 20
  dir : ℕ

/-- `memcmp(a, b, n) == 0`, as far as both pieces of memory are known. -/
def memcmpCero (a b : List UChar) (n : ℕ) : Bool := ((a.zip b).take n).all fun p => p.1 = p.2

/-- The test of `solve_name` for an entry of the cache.  When the name is not the shorter one, the
source writes the place of the other name where its length is meant. -/
def EntradaCache.coincide (e : EntradaCache) (uaddr : List UChar) : Bool :=
  let n := if uaddr.length < (e.univAddr.units.takeWhile (· ≠ 0)).length then uaddr.length else e.dir
  e.dir ≠ 0 ∧ memcmpCero (uaddr ++ [0]) e.univAddr.units n

/-- **The cache** has no name: an entry that is filled with zeros is no one's. -/
lemma EntradaCache.coincide_eq_false {e : EntradaCache} (he : e.univAddr.units = List.replicate 20 0)
    {uaddr : List UChar} (hcstr : CStr uaddr) (hne : uaddr ≠ []) : e.coincide uaddr = false := by
  cases uaddr with
  | nil => exact absurd rfl hne
  | cons b uaddr =>
      have hb : b ≠ 0 := hcstr b List.mem_cons_self
      rw [EntradaCache.coincide, he]
      cases hdir : e.dir with
      | zero => simp
      | succ dir =>
          rw [decide_eq_false_iff_not]
          rintro ⟨-, hcmp⟩
          rw [if_neg (by simp), memcmpCero, List.replicate_succ, List.cons_append, List.zip_cons_cons,
            List.take_succ_cons, List.all_cons, Bool.and_eq_true] at hcmp
          exact hb (of_decide_eq_true hcmp.1)

/-- The variables `register_rv` and `solve_name` use, with the command line argument `univ_addr` as it
lies in memory. -/
structure Rendezvous where
  node : Node
  univAddr : List UChar
  rvServersDst : List In6Addr
  cachedTable : List EntradaCache
  mainRvServer : In6Addr

namespace Rendezvous

/-- The state after `rv_tables_init`: the cache has one entry, whose name is filled with zeros. -/
def rvTablesInit (n : Node) (univAddr : List UChar) (hcAddr mainRvServer : In6Addr) (dir : ℕ) :
    Rendezvous where
  node := { n with rvTable := [], rvServers := [] }
  univAddr := univAddr
  rvServersDst := []
  cachedTable := [{ hcAddr := hcAddr, univAddr := ⟨List.replicate 20 0, rfl⟩, dir := dir }]
  mainRvServer := mainRvServer

/-- `register_rv`: the servers are computed when there are none. -/
def registerRv (env : Env) (s : Rendezvous) : Option Rendezvous :=
  if s.node.flagMezcla || s.node.flagFragmentacion || s.node.rvServers ≠ [] then
    some { s with node := s.node.registerRv env }
  else
    (distributeInHc s.node.hcDim nserverRv s.univAddr []).map fun rvServers =>
      { s with node := s.node.registerRv { env with distributeInHc := rvServers } }

/-- The `RV_ADDR_LOOKUP` of `solve_name`. -/
def rvAddrLookup (n : Node) (uaddr : List UChar) : RvCtrlPkt :=
  { type := .rvAddrLookup, primAddr := n.primAddr, univAddr := texto uaddr }

/-- `solve_name`. -/
def solveName (m : SinIniciar) (uaddr : List UChar) (s : Rendezvous) : Option Rendezvous :=
  if s.cachedTable.any fun e => e.coincide uaddr then some s
  else
    (distributeInHc s.node.hcDim nserverRv uaddr s.rvServersDst).map fun rvServersDst =>
      let main := (rvServersDst.foldl (acercar (distWMask m s.node.primAddr))
        (s.mainRvServer, 1000)).1
      { s with
        node := { s.node with rvOut := s.node.rvOut ++ [(main, rvAddrLookup s.node uaddr)] }
        rvServersDst := rvServersDst
        mainRvServer := main }

/-- `answer_dns_query` on a query that has come from this node. -/
def answerDnsQuery (auxStr : Buffer UChar 150) (m : SinIniciar) (data : List UChar)
    (s : Rendezvous) : Option Rendezvous :=
  (decodificar auxStr data).bind fun uaddr => s.solveName m uaddr

/-- `clear_rv_tables`. -/
def clearRvTables (s : Rendezvous) : Rendezvous :=
  { s with node := s.node.clearRvTables, rvServersDst := [], cachedTable := [], mainRvServer := .zero }

/-- What happens to a node.  `otro` is any handler outside `rendezvous.c`: it may leave the rest of
the node as it likes. -/
inductive Evento
  | registerRv (env : Env)
  | answerDnsQuery (auxStr : Buffer UChar 150) (m : SinIniciar) (data : List UChar)
  | clearRvTables
  | otro (n : Node)

/-- One event.  `hc_dim` is set before the first of them, and `rv_servers` is static. -/
def step (s : Rendezvous) : Evento → Option Rendezvous
  | .registerRv env => s.registerRv env
  | .answerDnsQuery auxStr m data => s.answerDnsQuery auxStr m data
  | .clearRvTables => some s.clearRvTables
  | .otro n =>
      some { s with node := { n with hcDim := s.node.hcDim, rvServers := s.node.rvServers } }

/-! ## Every run -/

/-- What every state of a node with the dimension `hcDim` and the name `univAddr` has. -/
structure Coherente (hcDim : ℕ) (univAddr : List UChar) (s : Rendezvous) : Prop where
  dim : s.node.hcDim = hcDim
  nombre : s.univAddr = univAddr
  servers : s.node.rvServers = []
    ∨ distributeInHc hcDim nserverRv univAddr [] = some s.node.rvServers
  cache : ∀ e ∈ s.cachedTable, e.univAddr.units = List.replicate 20 0

variable {hcDim : ℕ} {univAddr : List UChar} {s s' : Rendezvous}

lemma coherente_rvTablesInit (n : Node) (univAddr : List UChar) (hcAddr mainRvServer : In6Addr)
    (dir : ℕ) : Coherente n.hcDim univAddr (rvTablesInit n univAddr hcAddr mainRvServer dir) where
  dim := rfl
  nombre := rfl
  servers := Or.inl rfl
  cache := by
    intro e he
    rw [List.mem_singleton.mp he]

/-- A registration is that of the node, with the servers of the name. -/
lemma exists_registerRv {env : Env} (hs : Coherente hcDim univAddr s)
    (h : s.registerRv env = some s') :
    ∃ env', s' = { s with node := s.node.registerRv env' }
      ∧ ((s.node.flagMezcla || s.node.flagFragmentacion) = false →
          distributeInHc hcDim nserverRv univAddr [] = some (s.node.registeredServers env')) := by
  unfold registerRv at h
  split_ifs at h with hcond
  · refine ⟨env, (Option.some.inj h).symm, ?_⟩
    intro hflags
    have hne : s.node.rvServers ≠ [] := by simpa [hflags] using hcond
    rw [Node.registeredServers, hflags, if_neg Bool.false_ne_true, if_neg hne]
    exact hs.servers.resolve_left hne
  · obtain ⟨rvServers, hservers, rfl⟩ := Option.map_eq_some_iff.mp h
    refine ⟨_, rfl, ?_⟩
    intro hflags
    have hnil : s.node.rvServers = [] := by simpa [hflags] using hcond
    rw [Node.registeredServers, hflags, if_neg Bool.false_ne_true, if_pos hnil, ← hservers, hs.dim,
      hs.nombre]

/-- A name is not in the cache. -/
lemma Coherente.not_cached (hs : Coherente hcDim univAddr s) {uaddr : List UChar} (hcstr : CStr uaddr)
    (hne : uaddr ≠ []) : ¬ s.cachedTable.any fun e => e.coincide uaddr := by
  rw [List.any_eq_true]
  rintro ⟨e, he, hc⟩
  rw [EntradaCache.coincide_eq_false (hs.cache e he) hcstr hne] at hc
  exact Bool.false_ne_true hc

/-- A query for a name is sent to the closest server of the name. -/
lemma solveName_eq (m : SinIniciar) {uaddr : List UChar} (hcstr : CStr uaddr) (hnoVacia : uaddr ≠ [])
    (hs : Coherente hcDim univAddr s) :
    ∃ servers main, distributeInHc hcDim nserverRv uaddr [] = some servers ∧ main ∈ servers
      ∧ s.solveName m uaddr = some { s with
          node := { s.node with rvOut := s.node.rvOut ++ [(main, rvAddrLookup s.node uaddr)] }
          rvServersDst := servers
          mainRvServer := main } := by
  obtain ⟨servers, hservers, hlen⟩ := exists_distributeInHc hcDim nserverRv hnoVacia
  have hne : servers ≠ [] := List.ne_nil_of_length_pos (hlen ▸ Nat.zero_lt_two)
  refine ⟨servers, _, hservers, foldl_acercar_mem s.mainRvServer hne
    (distWMask_lt m s.node.primAddr), ?_⟩
  rw [solveName, if_neg (hs.not_cached hcstr hnoVacia), distributeInHc_eq, hs.dim, hservers, Option.map_some]

/-- **A query for a name** is sent on, in every state. -/
lemma answerDnsQuery_eq (auxStr : Buffer UChar 150) (m : SinIniciar) {data : List UChar}
    {nombre : Etiqueta} (hq : Pregunta data nombre) (hs : Coherente hcDim univAddr s) :
    ∃ servers main, distributeInHc hcDim nserverRv nombre.bytes [] = some servers ∧ main ∈ servers
      ∧ Rendezvous.step s (.answerDnsQuery auxStr m data) = some { s with
          node := { s.node with rvOut := s.node.rvOut ++ [(main, rvAddrLookup s.node nombre.bytes)] }
          rvServersDst := servers
          mainRvServer := main } := by
  have hname : Rendezvous.step s (.answerDnsQuery auxStr m data) = s.solveName m nombre.bytes := by
    rw [Rendezvous.step, answerDnsQuery, decodificar_eq hq, Option.bind_some]
  rw [hname]
  exact solveName_eq m nombre.cstr nombre.ne_nil hs

/-- **One event** leaves the servers of a name as they are, or forgets them. -/
lemma Coherente.step {e : Evento} (hs : Coherente hcDim univAddr s)
    (h : Rendezvous.step s e = some s') : Coherente hcDim univAddr s' := by
  cases e with
  | registerRv env =>
      obtain ⟨env', rfl, hservers⟩ := exists_registerRv hs h
      refine ⟨?_, hs.nombre, ?_, hs.cache⟩
      · rw [Node.registerRv_eq]
        exact hs.dim
      · rw [Node.registerRv_eq]
        cases hflags : s.node.flagMezcla || s.node.flagFragmentacion with
        | false => exact Or.inr (hservers hflags)
        | true =>
            rw [Node.registeredServers, hflags, if_pos rfl]
            exact hs.servers
  | answerDnsQuery auxStr m data =>
      obtain ⟨uaddr, -, hsolve⟩ := Option.bind_eq_some_iff.mp h
      unfold solveName at hsolve
      split_ifs at hsolve
      · exact Option.some.inj hsolve ▸ hs
      · obtain ⟨servers, -, rfl⟩ := Option.map_eq_some_iff.mp hsolve
        exact ⟨hs.dim, hs.nombre, hs.servers, hs.cache⟩
  | clearRvTables =>
      rw [← Option.some.inj h]
      exact ⟨hs.dim, hs.nombre, Or.inl rfl, by simp [clearRvTables]⟩
  | otro n =>
      rw [← Option.some.inj h]
      exact ⟨hs.dim, hs.nombre, hs.servers, hs.cache⟩

/-- The messages an event sends. -/
def enviado (s s' : Rendezvous) : List (In6Addr × RvCtrlPkt) :=
  s'.node.rvOut.drop s.node.rvOut.length

/-- A registration that sends anything goes to every server of the name. -/
lemma enviado_registerRv {env : Env} (hs : Coherente hcDim univAddr s)
    (h : Rendezvous.step s (.registerRv env) = some s') (hsend : enviado s s' ≠ []) :
    ∃ servers q, distributeInHc hcDim nserverRv univAddr [] = some servers ∧ q.type = .rvReg
      ∧ ∀ addr ∈ servers, (addr, q) ∈ enviado s s' := by
  obtain ⟨env', rfl, hservers⟩ := exists_registerRv hs h
  cases hflags : s.node.flagMezcla || s.node.flagFragmentacion with
  | true =>
      refine absurd ?_ hsend
      rw [enviado, Node.registerRv_eq, Node.registeredOut, hflags, if_pos rfl]
      exact List.drop_length
  | false =>
      refine ⟨_, { type := .rvReg, primAddr := s.node.primAddr, univAddr := s.node.univAddr },
        hservers hflags, rfl, ?_⟩
      intro addr haddr
      rw [enviado, Node.registerRv_eq, Node.registeredOut, hflags, if_neg Bool.false_ne_true,
        List.drop_left]
      exact List.mem_map_of_mem haddr

/-- **Registrar and resolver meet.**  In any two runs, of two nodes with the same dimension: when a
node registers its name, and another one takes a query for that name, the query is sent on, to a server
to which the registration is sent. -/
theorem encuentro (nombre : Etiqueta) {n n' : Node} (hdim : n.hcDim = n'.hcDim)
    (otroNombre : List UChar) (hcAddr hcAddr' main main' : In6Addr) (dir dir' : ℕ)
    {es es' : List Evento} {r r' t t' : Rendezvous} {env : Env}
    (hr : (r, .registerRv env, r') ∈
      steps Rendezvous.step (rvTablesInit n nombre.bytes hcAddr main dir) es)
    (hsend : enviado r r' ≠ [])
    {auxStr : Buffer UChar 150} {m : SinIniciar} {data : List UChar}
    (ht : (t, .answerDnsQuery auxStr m data, t') ∈
      steps Rendezvous.step (rvTablesInit n' otroNombre hcAddr' main' dir') es')
    (hq : Pregunta data nombre) :
    ∃ p q, p.type = .rvAddrLookup ∧ q.type = .rvReg
      ∧ enviado t t' = [(t'.mainRvServer, p)] ∧ (t'.mainRvServer, q) ∈ enviado r r' := by
  have hinv {n : Node} {u : List UChar} {a b : In6Addr} {d : ℕ} {es : List Evento} {x}
      (hx : x ∈ steps Rendezvous.step (rvTablesInit n u a b d) es) : Coherente n.hcDim u x.1 :=
    invariant (fun _ _ _ hs h => hs.step h) (coherente_rvTablesInit n u a b d) _
      (source_mem_states hx)
  obtain ⟨servers, q, hservers, hq', hmem⟩ :=
    enviado_registerRv (hinv hr) (step_of_mem_steps hr) hsend
  obtain ⟨servers', main'', hservers', hmain, hstep⟩ := answerDnsQuery_eq auxStr m hq (hinv ht)
  obtain rfl : servers' = servers := by
    rw [hdim, hservers'] at hservers
    exact Option.some.inj hservers
  have ht' : Rendezvous.step t (.answerDnsQuery auxStr m data) = some t' := step_of_mem_steps ht
  rw [← Option.some.inj (hstep.symm.trans ht')]
  exact ⟨_, q, rfl, hq', List.drop_left, hmem _ hmain⟩

/-- A node with the given name after `rv_tables_init`, in memory that is filled with zeros. -/
def arranque (univAddr : List UChar) : Rendezvous :=
  rvTablesInit (primAddrInit 64 (texto univAddr)) univAddr .zero .zero 4096

/-- A query for a name, with zeros in its headers. -/
def consulta (nombre : Etiqueta) : Evento :=
  .answerDnsQuery ⟨List.replicate 150 0, rfl⟩ .zero (List.replicate ipv6MdnsQueryOff 0
    ++ BitVec.ofNat 8 nombre.bytes.length :: (nombre.bytes ++ [0]))

lemma pregunta_replicate (nombre : Etiqueta) : Pregunta (List.replicate ipv6MdnsQueryOff 0
    ++ BitVec.ofNat 8 nombre.bytes.length :: (nombre.bytes ++ [0])) nombre := by
  rw [Pregunta, List.drop_left' List.length_replicate]

/-- A query for a name is handled in every state. -/
lemma exists_consulta (nombre : Etiqueta) (hs : Coherente hcDim univAddr s) :
    ∃ t, Rendezvous.step s (consulta nombre) = some t ∧ Coherente hcDim univAddr t := by
  obtain ⟨_, _, -, -, hstep⟩ :=
    answerDnsQuery_eq ⟨List.replicate 150 0, rfl⟩ .zero (pregunta_replicate nombre) hs
  exact ⟨_, hstep, hs.step hstep⟩

/-- The node `n1` registers; `n3` asks for `n2`, and then for `n1`. -/
theorem encuentro_n1_n3 : ∃ (n1 n2 : Etiqueta) (r' t t' : Rendezvous) (p q : RvCtrlPkt),
    n1.bytes = [110, 49] ∧ n2.bytes = [110, 50]
    ∧ (arranque n1.bytes, .registerRv .zero, r') ∈
        steps Rendezvous.step (arranque n1.bytes) [.registerRv .zero]
    ∧ (t, consulta n1, t') ∈
        steps Rendezvous.step (arranque [110, 51]) [consulta n2, consulta n1]
    ∧ enviado t t' = [(t'.mainRvServer, p)]
    ∧ (t'.mainRvServer, q) ∈ enviado (arranque n1.bytes) r' := by
  let n1 : Etiqueta := ⟨[110, 49], by simp [CStr], by decide, by decide⟩
  let n2 : Etiqueta := ⟨[110, 50], by simp [CStr], by decide, by decide⟩
  have hcoh : Coherente 64 [110, 51] (arranque [110, 51]) :=
    coherente_rvTablesInit (primAddrInit 64 (texto [110, 51])) _ .zero .zero 4096
  obtain ⟨t, h₁, hcoh₁⟩ := exists_consulta n2 hcoh
  obtain ⟨t', h₂, -⟩ := exists_consulta n1 hcoh₁
  obtain ⟨r', h₀, hsend⟩ : ∃ r', Rendezvous.step (arranque n1.bytes) (.registerRv .zero) = some r'
      ∧ enviado (arranque n1.bytes) r' ≠ [] := ⟨_, rfl, by decide⟩
  have hr : (arranque n1.bytes, .registerRv .zero, r') ∈
      steps Rendezvous.step (arranque n1.bytes) [.registerRv .zero] := by
    rw [steps_cons_some _ h₀]
    exact List.mem_cons_self
  have ht : (t, consulta n1, t') ∈
      steps Rendezvous.step (arranque [110, 51]) [consulta n2, consulta n1] := by
    rw [steps_cons_some _ h₁, steps_cons_some _ h₂]
    exact List.mem_cons_of_mem _ List.mem_cons_self
  have hdim : (primAddrInit 64 (texto n1.bytes)).hcDim
      = (primAddrInit 64 (texto [110, 51])).hcDim := rfl
  obtain ⟨p, q, -, -, hp, hq⟩ := encuentro n1 hdim [110, 51] .zero .zero .zero .zero 4096 4096 hr
    hsend ht (pregunta_replicate n1)
  exact ⟨n1, n2, _, _, _, p, q, rfl, rfl, hr, ht, hp, hq⟩

end Rendezvous

end Antop
