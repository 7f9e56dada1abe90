import Antop.FromAddress
import Antop.Rendezvous

/-!
# Pending queries

A query for a name that is not in the cache waits in `dns` until an `RV_ADDR_SOLVE` brings the address.
`answer_dns_query` takes the three cases by its arguments: the query, the reply with `MASK_SOLVED`, and
the reply without it.

* `DnsQQueue` — an entry of the queue; `Consultas` — the queue with the variables of `rendezvous.c`.
* `DnsQQueue.armar` — the answer, byte by byte; `armar_eq` is what it comes to.
* `Consultas.step` — a query, a reply, or `clear_rv_tables`.
* **`cuenta_iff`** — a solved reply is dealt with as it should be exactly when a query for its name is
  pending, and the entry that is freed first in the queue still holds its link.
* **`bajas_iff`** — along a run, the failed lookups are taken off the queue exactly when there never is
  one.
-/

namespace Antop

open CString Memory Transition

/-! ## The queue -/

/-- `MDNS_QUERY_OFFSET`. -/
def mdnsQueryOffset : ℕ := 12

/-- `UDP_PKT_OFF`. -/
def udpPktOff : ℕ := 80

/-- `MDNS_PORT`. -/
def mdnsPort : Word := 5353

/-- `DNS_PORT`. -/
def dnsPort : Word := 53

/-- A packet holds a question: a name that is not empty, as far as `strlen` sees it, with a type and a
class behind it. -/
def PreguntaCompleta (pkt : List UChar) : Prop :=
  ∃ qname ∈ cstr (pkt.drop ipv6MdnsQueryOff), qname ≠ [] ∧ ipv6MdnsQueryOff + qname.length + 5 ≤ pkt.length

instance (pkt : List UChar) : Decidable (PreguntaCompleta pkt) :=
  inferInstanceAs (Decidable (∃ qname ∈ cstr (pkt.drop ipv6MdnsQueryOff),
    qname ≠ [] ∧ ipv6MdnsQueryOff + qname.length + 5 ≤ pkt.length))

/-- `struct dns_q_queue`: a query that was sent to one of the two ports.  `terminada` says that a reply
has ended its lookup without an address. -/
structure DnsQQueue where
  pkt : List UChar
  dstPort : Word
  srcPort : Word
  terminada : Bool
  completa : PreguntaCompleta pkt
  puerto : htons srcPort = mdnsPort ∨ htons srcPort = dnsPort

namespace DnsQQueue

/-- The string at the question, with the length of the first label in front. -/
def qname (e : DnsQQueue) : List UChar := (cstr (e.pkt.drop ipv6MdnsQueryOff)).getD []

/-- The name the replies are compared with. -/
def nombre (e : DnsQQueue) : List UChar := (cstr (e.pkt.drop (ipv6MdnsQueryOff + 1))).getD []

/-- The test for an entry: `strlen` of both names, and `memcmp` as far as `strlen` goes in the
question. -/
def coincide (e : DnsQQueue) (univAddr : List UChar) : Bool :=
  e.nombre.length = univAddr.length ∧ memcmpCero e.nombre univAddr (e.qname.length - 1)

lemma cstr_qname (e : DnsQQueue) : cstr (e.pkt.drop ipv6MdnsQueryOff) = some e.qname := by
  obtain ⟨q, hq, -⟩ := e.completa
  rw [qname, Option.mem_def.mp hq]
  rfl

lemma qname_ne_nil (e : DnsQQueue) : e.qname ≠ [] := by
  obtain ⟨q, hq, hne, -⟩ := e.completa
  rwa [Option.some.inj (e.cstr_qname.symm.trans hq)]

lemma length_qname (e : DnsQQueue) : ipv6MdnsQueryOff + e.qname.length + 5 ≤ e.pkt.length := by
  obtain ⟨q, hq, -, hlen⟩ := e.completa
  rwa [Option.some.inj (e.cstr_qname.symm.trans hq)]

/-- The name is the question without the length in front. -/
lemma qname_eq (e : DnsQQueue) : ∃ b, e.qname = b :: e.nombre := by
  have hq := e.cstr_qname
  obtain ⟨b, q, hbq⟩ := List.exists_cons_of_ne_nil e.qname_ne_nil
  refine ⟨b, ?_⟩
  have hdrop : e.pkt.drop (ipv6MdnsQueryOff + 1) = (e.pkt.drop ipv6MdnsQueryOff).tail := by
    rw [← List.drop_one, List.drop_drop]
  cases hm : e.pkt.drop ipv6MdnsQueryOff with
  | nil => simp [hm] at hq
  | cons x m =>
      have hstr : CStr e.qname := CStr.of_cstr hq
      rw [hbq] at hstr
      rw [hm] at hq
      have hx : x ≠ 0 := by
        rintro rfl
        rw [cstr_zero_cons, hbq] at hq
        exact absurd hq (by simp)
      have hrec := cstr_append (s := [x]) (by simpa [CStr] using hx) m
      rw [List.singleton_append, hq, hbq] at hrec
      obtain ⟨n, hn, heq⟩ := Option.map_eq_some_iff.mp hrec.symm
      rw [hbq, nombre, hdrop, hm, List.tail_cons, hn, Option.getD_some]
      rw [List.singleton_append] at heq
      rw [(List.cons.inj heq).2]

/-- **The test compares the names.** -/
lemma coincide_iff (e : DnsQQueue) (univAddr : List UChar) : e.coincide univAddr ↔ e.nombre = univAddr := by
  obtain ⟨b, hb⟩ := e.qname_eq
  rw [coincide, hb, List.length_cons, Nat.add_sub_cancel, decide_eq_true_iff]
  constructor
  · rintro ⟨hlen, hcmp⟩
    apply List.ext_getElem hlen
    intro i hi hj
    rw [memcmpCero, List.take_of_length_le (by simp), List.all_eq_true] at hcmp
    have hpair : (e.nombre[i], univAddr[i]) ∈ e.nombre.zip univAddr := by
      rw [List.mem_iff_getElem]
      exact ⟨i, by simp [hi, hj], by simp⟩
    exact of_decide_eq_true (hcmp _ hpair)
  · rintro rfl
    refine ⟨rfl, ?_⟩
    rw [memcmpCero, List.all_eq_true]
    intro p hp
    have hzip := List.mem_of_mem_take hp
    rw [List.zip_eq_zipWith, List.zipWith_self] at hzip
    obtain ⟨x, -, rfl⟩ := List.mem_map.mp hzip
    exact decide_eq_true rfl

/-! ## The answer -/

/-- A write that stays inside the memory. -/
def poner (off : ℕ) (bs m : List UChar) : Option (List UChar) :=
  if off + bs.length ≤ m.length then some (put m off bs) else none

/-- The `TTL` and the length of the data of the answer. -/
def ttlLargo : List UChar := [0, 0, 0, 10, 0, 16]

/-- The authority record: both names are pointers to the octet 21. -/
def autoridad : List UChar := [192, 21, 0, 2, 0, 1, 0, 0, 28, 32, 0, 2, 192, 21]

/-- The additional record, with an address. -/
def adicional : List UChar :=
  [192, 21, 0, 28, 0, 1, 0, 0, 28, 32, 0, 16, 32, 1, 0] ++ List.replicate 12 0 ++ [10]

/-- `size_aux`. -/
def sizeAux (e : DnsQQueue) : ℕ := e.pkt.length - 80 + e.qname.length + 1 + 26

/-- `data_aux` as it is sent: `heap` is what `malloc` returns. -/
def armar (heap : ℕ → UChar) (primAddr : In6Addr) (e : DnsQQueue) : Option (List UChar) := do
  let query := e.pkt.drop udpPktOff
  let data := (List.range (e.sizeAux + 42)).map heap
  let data ← poner 0 (slice query 0 (e.sizeAux - e.qname.length - 1 - 26)) data
  let data ← poner 2 [0x85, 0] data
  let data ← poner 6 [0, 1, 0, 1, 0, 1] data
  -- all that follows is written behind the zero of this string
  let l := (← cstr (data.drop mdnsQueryOffset)).length
  let data ← poner (mdnsQueryOffset + l + 3) [0, 1] data
  let data2 := mdnsQueryOffset + 5 + l
  let data ← poner data2 (slice query mdnsQueryOffset (l + 5)) data
  let data2 := data2 + l + 5
  let data ← poner data2 (ttlLargo ++ primAddr.bytes) data
  let data2 := data2 + 22
  poner data2 (autoridad ++ adicional) data

/-- The header of the answer: the identifier and the number of questions stay. -/
def cabecera (cab : List UChar) : List UChar :=
  cab.take 2 ++ [0x85, 0] ++ slice cab 4 2 ++ [0, 1, 0, 1, 0, 1]

/-- What the answer says, from the question on. -/
def respuesta (e : DnsQQueue) (tipo clase : List UChar) (primAddr : In6Addr) : List UChar :=
  e.qname ++ 0 :: tipo ++ [0, 1] ++ e.qname ++ 0 :: tipo ++ clase ++ ttlLargo ++ primAddr.bytes
    ++ autoridad ++ adicional

lemma poner_append (a : List UChar) {x r bs : List UChar} {off : ℕ} (hoff : a.length = off)
    (hx : x.length = bs.length) : poner off bs (a ++ (x ++ r)) = some (a ++ (bs ++ r)) := by
  subst hoff
  rw [poner, if_pos (by simp [hx]), put_append a (x ++ r) (by simp [hx]), ← hx, List.drop_left,
    List.append_assoc]

/-- The parts of a query. -/
lemma exists_partes (e : DnsQQueue) :
    ∃ cab tipo clase resto, cab.length = 12 ∧ tipo.length = 2 ∧ clase.length = 2
      ∧ e.pkt.drop udpPktOff = cab ++ e.qname ++ 0 :: tipo ++ clase ++ resto := by
  have hlen := e.length_qname
  have hq := e.cstr_qname
  rw [ipv6MdnsQueryOff] at hlen
  obtain ⟨m, hm⟩ := exists_of_cstr hq
  have hmlen := congrArg List.length hm
  rw [List.length_drop, List.length_append, List.length_cons, ipv6MdnsQueryOff] at hmlen
  refine ⟨slice e.pkt 80 12, m.take 2, slice m 2 2, m.drop 4, length_slice (by omega), ?_,
    length_slice (by omega), ?_⟩
  · rw [List.length_take]
    omega
  · have hcab : e.pkt.drop udpPktOff = slice e.pkt 80 12 ++ e.pkt.drop ipv6MdnsQueryOff := by
      rw [slice, udpPktOff, ipv6MdnsQueryOff, show 92 = 80 + 12 from rfl, ← List.drop_drop,
        List.take_append_drop]
    have hcola : m = m.take 2 ++ slice m 2 2 ++ m.drop 4 := by
      rw [slice, show 4 = 2 + 2 from rfl, ← List.drop_drop, List.append_assoc, List.take_append_drop,
        List.take_append_drop]
    rw [hcab, hm]
    conv_lhs => rw [hcola]
    simp

lemma length_cabecera {cab : List UChar} (hcab : cab.length = 12) : (cabecera cab).length = 12 := by
  match cab, hcab with
  | [c₀, c₁, c₂, c₃, c₄, c₅, c₆, c₇, c₈, c₉, c₁₀, c₁₁], _ => rfl

/-- The fields of the header are set. -/
lemma poner_cabecera {cab : List UChar} (hcab : cab.length = 12) (r : List UChar) :
    ∃ data, poner 2 [0x85, 0] (cab ++ r) = some data
      ∧ poner 6 [0, 1, 0, 1, 0, 1] data = some (cabecera cab ++ r) := by
  match cab, hcab with
  | [c₀, c₁, c₂, c₃, c₄, c₅, c₆, c₇, c₈, c₉, c₁₀, c₁₁], _ =>
      have hflags : poner 2 [0x85, 0] ([c₀, c₁] ++ ([c₂, c₃] ++ ([c₄, c₅, c₆, c₇, c₈, c₉, c₁₀, c₁₁] ++ r)))
          = some ([c₀, c₁] ++ ([0x85, 0] ++ ([c₄, c₅, c₆, c₇, c₈, c₉, c₁₀, c₁₁] ++ r))) :=
        poner_append _ rfl rfl
      have hcounts : poner 6 [0, 1, 0, 1, 0, 1]
          ([c₀, c₁, 0x85, 0, c₄, c₅] ++ ([c₆, c₇, c₈, c₉, c₁₀, c₁₁] ++ r))
          = some ([c₀, c₁, 0x85, 0, c₄, c₅] ++ ([0, 1, 0, 1, 0, 1] ++ r)) := poner_append _ rfl rfl
      exact ⟨_, hflags, hcounts⟩

/-- Memory in four parts of given lengths. -/
lemma exists_cuatro (m : List UChar) {i j k l : ℕ} (h : m.length = i + j + k + l) :
    ∃ x y z r, x.length = i ∧ y.length = j ∧ z.length = k ∧ r.length = l ∧ m = x ++ (y ++ (z ++ r)) := by
  refine ⟨m.take i, slice m i j, slice m (i + j) k, m.drop (i + j + k), ?_, length_slice (by omega),
    length_slice (by omega), ?_, ?_⟩
  · rw [List.length_take]
    omega
  · rw [List.length_drop]
    omega
  · rw [slice, slice, ← List.drop_drop (i := k) (j := i + j), List.take_append_drop,
      ← List.drop_drop (i := j) (j := i), List.take_append_drop, List.take_append_drop]

section Partes

variable {e : DnsQQueue} {cab tipo clase resto : List UChar}

/-- What is copied from the query: all of it, and its question. -/
lemma slice_query (hcab : cab.length = 12) (htipo : tipo.length = 2) (hclase : clase.length = 2)
    (hpkt : e.pkt.drop udpPktOff = cab ++ e.qname ++ 0 :: tipo ++ clase ++ resto) :
    slice (e.pkt.drop udpPktOff) 0 (e.sizeAux - e.qname.length - 1 - 26) = e.pkt.drop udpPktOff
      ∧ slice (e.pkt.drop udpPktOff) mdnsQueryOffset (e.qname.length + 5)
        = (e.qname ++ 0 :: tipo) ++ clase := by
  constructor
  · rw [slice, List.drop_zero, List.take_of_length_le]
    rw [List.length_drop, udpPktOff, sizeAux]
    omega
  · have hlen : ((e.qname ++ 0 :: tipo) ++ clase).length = e.qname.length + 5 := by
      simp only [List.length_append, List.length_cons, htipo, hclase]
    have hparts : e.pkt.drop udpPktOff = cab ++ (((e.qname ++ 0 :: tipo) ++ clase) ++ resto) := by
      rw [hpkt]
      simp
    rw [slice, hparts, mdnsQueryOffset, ← hcab, List.drop_left, ← hlen, List.take_left]

lemma sizeAux_eq (hcab : cab.length = 12) (htipo : tipo.length = 2) (hclase : clase.length = 2)
    (hpkt : e.pkt.drop udpPktOff = cab ++ e.qname ++ 0 :: tipo ++ clase ++ resto) :
    e.sizeAux = 2 * e.qname.length + 44 + resto.length := by
  have hlen := congrArg List.length hpkt
  simp only [List.length_drop, List.length_append, List.length_cons, hcab, htipo, hclase, udpPktOff] at hlen
  rw [sizeAux]
  omega

/-- The query in the memory from `malloc`; what follows its question is written over but for `r`. -/
lemma exists_copia (heap : ℕ → UChar) (hcab : cab.length = 12) (htipo : tipo.length = 2)
    (hclase : clase.length = 2)
    (hpkt : e.pkt.drop udpPktOff = cab ++ e.qname ++ 0 :: tipo ++ clase ++ resto) :
    ∃ x y z r, x.length = e.qname.length + 5 ∧ y.length = 22 ∧ z.length = 42 ∧ r.length = resto.length
      ∧ poner 0 (e.pkt.drop udpPktOff) ((List.range (e.sizeAux + 42)).map heap)
        = some (cab ++ ((e.qname ++ 0 :: tipo) ++ (clase ++ (x ++ (y ++ (z ++ r)))))) := by
  obtain ⟨n, hn⟩ : ∃ n, (e.pkt.drop udpPktOff).length = n := ⟨_, rfl⟩
  have hquery : n = 17 + e.qname.length + resto.length := by
    rw [← hn, hpkt]
    simp only [List.length_append, List.length_cons, hcab, htipo, hclase]
    omega
  have hsize := sizeAux_eq hcab htipo hclase hpkt
  obtain ⟨data, hdata⟩ : ∃ data, (List.range (e.sizeAux + 42)).map heap = data := ⟨_, rfl⟩
  have hmalloc : data.length = e.sizeAux + 42 := by
    rw [← hdata, List.length_map, List.length_range]
  have hcola : (resto ++ data.drop n).length = (e.qname.length + 5) + 22 + 42 + resto.length := by
    rw [List.length_append, List.length_drop, hmalloc]
    omega
  obtain ⟨x, y, z, r, hx, hy, hz, hr, hparts⟩ := exists_cuatro _ hcola
  refine ⟨x, y, z, r, hx, hy, hz, hr, ?_⟩
  have hcopy : poner 0 (e.pkt.drop udpPktOff) ([] ++ (data.take n ++ data.drop n))
      = some ([] ++ (e.pkt.drop udpPktOff ++ data.drop n)) := by
    refine poner_append _ rfl ?_
    rw [List.length_take, hn, hmalloc]
    omega
  rw [List.nil_append, List.take_append_drop, List.nil_append, hpkt, List.append_assoc _ resto, hparts] at hcopy
  rw [hdata, hpkt, hcopy]
  simp

/-- The four writes behind the header: the class, the question once more, the address, and the two other
records. -/
lemma poner_respuesta {c p clase x y z : List UChar} {l : ℕ} (hc : c.length = 12) (hp : p.length = l + 3)
    (hclase : clase.length = 2) (hx : x.length = l + 5) (hy : y.length = 22) (hz : z.length = 42)
    (primAddr : In6Addr) (r : List UChar) :
    ((poner (mdnsQueryOffset + l + 3) [0, 1] (c ++ (p ++ (clase ++ (x ++ (y ++ (z ++ r))))))).bind
      fun data => (poner (mdnsQueryOffset + 5 + l) (p ++ clase) data).bind
      fun data => (poner (mdnsQueryOffset + 5 + l + l + 5) (ttlLargo ++ primAddr.bytes) data).bind
      fun data => poner (mdnsQueryOffset + 5 + l + l + 5 + 22) (autoridad ++ adicional) data)
      = some (c ++ p ++ [0, 1] ++ (p ++ clase) ++ (ttlLargo ++ primAddr.bytes)
        ++ ((autoridad ++ adicional) ++ r)) := by
  have hclass : poner (mdnsQueryOffset + l + 3) [0, 1] (c ++ p ++ (clase ++ (x ++ (y ++ (z ++ r)))))
      = some (c ++ p ++ ([0, 1] ++ (x ++ (y ++ (z ++ r))))) := by
    refine poner_append _ ?_ hclase
    rw [List.length_append, hc, hp, mdnsQueryOffset]
    omega
  have hanswer : poner (mdnsQueryOffset + 5 + l) (p ++ clase) (c ++ p ++ [0, 1] ++ (x ++ (y ++ (z ++ r))))
      = some (c ++ p ++ [0, 1] ++ ((p ++ clase) ++ (y ++ (z ++ r)))) := by
    refine poner_append _ ?_ ?_
    · simp only [List.length_append, List.length_cons, List.length_nil, hc, hp, mdnsQueryOffset]
      omega
    · rw [List.length_append, hx, hp, hclase]
  have hdir : poner (mdnsQueryOffset + 5 + l + l + 5) (ttlLargo ++ primAddr.bytes)
      (c ++ p ++ [0, 1] ++ (p ++ clase) ++ (y ++ (z ++ r)))
      = some (c ++ p ++ [0, 1] ++ (p ++ clase) ++ ((ttlLargo ++ primAddr.bytes) ++ (z ++ r))) := by
    refine poner_append _ ?_ ?_
    · simp only [List.length_append, List.length_cons, List.length_nil, hc, hp, hclase, mdnsQueryOffset]
      omega
    · rw [hy, List.length_append, In6Addr.length_bytes]
      rfl
  have hrest : poner (mdnsQueryOffset + 5 + l + l + 5 + 22) (autoridad ++ adicional)
      (c ++ p ++ [0, 1] ++ (p ++ clase) ++ (ttlLargo ++ primAddr.bytes) ++ (z ++ r))
      = some (c ++ p ++ [0, 1] ++ (p ++ clase) ++ (ttlLargo ++ primAddr.bytes)
        ++ ((autoridad ++ adicional) ++ r)) := by
    refine poner_append _ ?_ ?_
    · simp only [List.length_append, List.length_cons, List.length_nil, hc, hp, hclase, In6Addr.length_bytes,
        mdnsQueryOffset, ttlLargo]
      omega
    · rw [hz]
      rfl
  rw [← List.append_assoc c, hclass, Option.bind_some, ← List.append_assoc _ [0, 1], hanswer,
    Option.bind_some, ← List.append_assoc _ (p ++ clase), hdir, Option.bind_some,
    ← List.append_assoc _ (ttlLargo ++ primAddr.bytes), hrest]

/-- **The answer**: the question with its class set to 1, the record with the address, and the two
other records; what is left of the memory stays as it was. -/
lemma armar_eq (heap : ℕ → UChar) (hcab : cab.length = 12) (htipo : tipo.length = 2)
    (hclase : clase.length = 2)
    (hpkt : e.pkt.drop udpPktOff = cab ++ e.qname ++ 0 :: tipo ++ clase ++ resto) :
    ∃ r, r.length = resto.length ∧ ∀ primAddr : In6Addr,
      e.armar heap primAddr = some (cabecera cab ++ (e.respuesta tipo clase primAddr ++ r)) := by
  obtain ⟨x, y, z, r, hx, hy, hz, hr, hcopy⟩ := exists_copia heap hcab htipo hclase hpkt
  obtain ⟨hall, hname⟩ := slice_query hcab htipo hclase hpkt
  obtain ⟨data, hflags, hcounts⟩ := poner_cabecera hcab
    ((e.qname ++ 0 :: tipo) ++ (clase ++ (x ++ (y ++ (z ++ r)))))
  have hc := length_cabecera hcab
  have hp : (e.qname ++ 0 :: tipo).length = e.qname.length + 3 := by
    rw [List.length_append, List.length_cons, htipo]
  refine ⟨r, hr, fun primAddr => ?_⟩
  have hstr : cstr ((cabecera cab ++ ((e.qname ++ 0 :: tipo) ++ (clase ++ (x ++ (y ++ (z ++ r)))))).drop
      mdnsQueryOffset) = some e.qname := by
    rw [mdnsQueryOffset, ← hc, List.drop_left, List.append_assoc, List.cons_append,
      cstr_append_zero (CStr.of_cstr e.cstr_qname)]
  have hwrites := poner_respuesta hc hp hclase hx hy hz primAddr r
  simp only [armar, Option.bind_eq_bind]
  rw [hall, hcopy, Option.bind_some, hflags, Option.bind_some, hcounts, Option.bind_some, hstr,
    Option.bind_some, hname, hwrites]
  simp [respuesta]

end Partes

/-- The answer is always built. -/
lemma exists_armar (heap : ℕ → UChar) (primAddr : In6Addr) (e : DnsQQueue) :
    ∃ data, e.armar heap primAddr = some data := by
  obtain ⟨cab, tipo, clase, resto, hcab, htipo, hclase, hpkt⟩ := e.exists_partes
  obtain ⟨r, -, h⟩ := armar_eq heap hcab htipo hclase hpkt
  exact ⟨_, h primAddr⟩

end DnsQQueue

/-- A datagram that is sent, and its destination. -/
structure EnvioDns where
  datagrama : List UChar
  dst : In6Addr
  port : Word

/-- `antop_socket_send` at the end of `answer_dns_query`: from the port of `mDNS` or that of `DNS`, to
this same node. -/
def DnsQQueue.enviar (e : DnsQQueue) (propia : In6Addr) (data : List UChar) : List EnvioDns :=
  if htons e.srcPort = mdnsPort then [⟨data.take e.sizeAux, propia, htons e.dstPort⟩]
  else if htons e.srcPort = dnsPort then [⟨data.take (e.sizeAux + 42), propia, htons e.dstPort⟩]
  else []

/-- One answer is sent, to the port of the query. -/
lemma DnsQQueue.exists_enviar (e : DnsQQueue) (propia : In6Addr) (data : List UChar) :
    ∃ envio, e.enviar propia data = [envio] ∧ envio.port = htons e.dstPort := by
  unfold enviar
  split_ifs with hmdns hdns
  · exact ⟨_, rfl, rfl⟩
  · exact ⟨_, rfl, rfl⟩
  · exact absurd e.puerto (not_or.mpr ⟨hmdns, hdns⟩)

/-! ## The variables of `rendezvous.c` -/

/-- `dns`, with what `solve_name` uses, and what is sent in the step. -/
structure Consultas where
  rv : Rendezvous
  dns : List DnsQQueue
  enviados : List EnvioDns

/-- What `malloc` returns for the answer, and whether an entry still holds its link after `free`. -/
structure EntornoDns where
  heap : ℕ → UChar
  intacta : Bool

namespace Consultas

/-- `answer_dns_query` for a query of this node.  For a name in the cache it goes on without an entry of
the queue, with a pointer that has no value. -/
def consultar (auxStr : Buffer UChar 150) (m : SinIniciar) (e : DnsQQueue) (s : Consultas) :
    Option Consultas :=
  (decodificar auxStr e.pkt).bind fun uaddr =>
    if s.rv.cachedTable.any fun c => c.coincide uaddr then none
    else (s.rv.solveName m uaddr).map fun rv =>
      { rv := rv, dns := s.dns ++ [{ e with terminada := false }], enviados := [] }

/-- `answer_dns_query` for a reply with `MASK_SOLVED`.  When no query has the name, it reads through a
null pointer; the first entry of the queue is read after it has been freed. -/
def resolver (env : EntornoDns) (primAddr : In6Addr) (univAddr : List UChar) (s : Consultas) :
    Option Consultas :=
  match s.dns.findIdx? fun e => e.coincide univAddr with
  | none => none
  | some i => do
      let e ← s.dns[i]?
      let data ← e.armar env.heap primAddr
      if i = 0 ∧ env.intacta = false then none
      else some { s with dns := s.dns.eraseIdx i, enviados := e.enviar s.rv.node.primAddr data }

/-- The lookup of the oldest query for the name has ended. -/
def terminar (nombre : List UChar) (dns : List DnsQQueue) : List DnsQQueue :=
  dns.replaceF fun e =>
    if e.nombre = nombre ∧ e.terminada = false then some { e with terminada := true } else none

/-- `antop_process_pkt` for an `RV_ADDR_SOLVE`.  Without `MASK_SOLVED`, `answer_dns_query` gets no packet
and returns at once. -/
def rvAddrSolve (env : EntornoDns) (rvPkt : RvCtrlPktMem) (detras : List UChar) (s : Consultas) :
    Option Consultas :=
  if rvPkt.flags &&& maskSolved ≠ 0 then
    (rvPkt.leerNombre detras).bind fun univAddr => s.resolver env rvPkt.primAddr univAddr
  else some { s with
    enviados := []
    dns := (rvPkt.leerNombre detras).elim s.dns fun nombre => terminar nombre s.dns }

/-- What happens to the queue. -/
inductive Evento
  | consultar (auxStr : Buffer UChar 150) (m : SinIniciar) (e : DnsQQueue)
  | rvAddrSolve (env : EntornoDns) (rvPkt : RvCtrlPktMem) (detras : List UChar)
  | clearRvTables

/-- One event. -/
def step (s : Consultas) : Evento → Option Consultas
  | .consultar auxStr m e => s.consultar auxStr m e
  | .rvAddrSolve env rvPkt detras => s.rvAddrSolve env rvPkt detras
  | .clearRvTables => some { rv := s.rv.clearRvTables, dns := [], enviados := [] }

/-! ## Solved replies -/

/-- **The account of a solved reply**: the first query for the name is removed and gets one answer; when
there is none, nothing happens. -/
def Cuenta (nombre : List UChar) (s : Consultas) (r : Option Consultas) : Prop :=
  match s.dns.findIdx? fun e => e.nombre = nombre with
  | some i => ∃ s' ∈ r, s'.dns = s.dns.eraseIdx i ∧ ∃ e ∈ s.dns[i]?,
      ∃ envio, s'.enviados = [envio] ∧ envio.port = htons e.dstPort
  | none => ∃ s' ∈ r, s'.dns = s.dns ∧ s'.enviados = []

/-- **The condition**: a query for the name is pending, and if it is the first of the queue, it still
holds its link when it has been freed. -/
def guardaCuenta (env : EntornoDns) (nombre : List UChar) (s : Consultas) : Prop :=
  (∃ e ∈ s.dns, e.nombre = nombre) ∧ ((∃ e ∈ s.dns.head?, e.nombre = nombre) → env.intacta = true)

instance (env : EntornoDns) (nombre : List UChar) (s : Consultas) :
    Decidable (s.guardaCuenta env nombre) :=
  inferInstanceAs (Decidable ((∃ e ∈ s.dns, e.nombre = nombre)
    ∧ ((∃ e ∈ s.dns.head?, e.nombre = nombre) → env.intacta = true)))

lemma findIdx_coincide (nombre : List UChar) (dns : List DnsQQueue) :
    (dns.findIdx? fun e => e.coincide nombre) = dns.findIdx? fun e => e.nombre = nombre := by
  congr 1
  funext e
  rw [Bool.eq_iff_iff, e.coincide_iff, decide_eq_true_iff]

/-- The first query for a name is the head of the queue when its position is 0. -/
lemma findIdx_eq_zero_iff {nombre : List UChar} {dns : List DnsQQueue} {i : ℕ}
    (h : (dns.findIdx? fun e => e.nombre = nombre) = some i) :
    i = 0 ↔ ∃ e ∈ dns.head?, e.nombre = nombre := by
  cases dns with
  | nil => simp at h
  | cons e dns =>
      rw [List.findIdx?_cons] at h
      split_ifs at h with he
      · obtain rfl := Option.some.inj h
        exact iff_of_true rfl ⟨e, rfl, of_decide_eq_true he⟩
      · obtain ⟨j, -, rfl⟩ := Option.map_eq_some_iff.mp h
        refine iff_of_false (Nat.succ_ne_zero j) ?_
        rintro ⟨x, ⟨⟩, hx⟩
        exact he (decide_eq_true hx)

/-- **A solved reply** is dealt with as it should be exactly under the condition. -/
theorem cuenta_iff (s : Consultas) (env : EntornoDns) {rvPkt : RvCtrlPktMem} {detras nombre : List UChar}
    (hsolved : rvPkt.flags &&& maskSolved ≠ 0) (hname : rvPkt.leerNombre detras = some nombre) :
    Cuenta nombre s (s.step (.rvAddrSolve env rvPkt detras)) ↔ s.guardaCuenta env nombre := by
  have hstep : s.step (.rvAddrSolve env rvPkt detras) = s.resolver env rvPkt.primAddr nombre := by
    rw [step, rvAddrSolve, if_pos hsolved, hname, Option.bind_some]
  rw [hstep, resolver, findIdx_coincide, Cuenta, guardaCuenta]
  cases hi : s.dns.findIdx? fun e => e.nombre = nombre with
  | none =>
      refine iff_of_false ?_ ?_
      · rintro ⟨s', hs', -⟩
        exact absurd hs' (by simp)
      · rintro ⟨⟨e, he, hnom⟩, -⟩
        have hno := List.findIdx?_eq_none_iff.mp hi e he
        exact absurd hnom (of_decide_eq_false hno)
  | some i =>
      obtain ⟨hlt, hnom, -⟩ := List.findIdx?_eq_some_iff_getElem.mp hi
      have hget : s.dns[i]? = some s.dns[i] := List.getElem?_eq_getElem hlt
      have hsome : ∃ e ∈ s.dns, e.nombre = nombre :=
        ⟨_, List.getElem_mem hlt, of_decide_eq_true hnom⟩
      obtain ⟨data, hdata⟩ := s.dns[i].exists_armar env.heap rvPkt.primAddr
      simp only [hget, Option.bind_eq_bind, Option.bind_some, hdata]
      rw [← findIdx_eq_zero_iff hi]
      split_ifs with hfree
      · refine iff_of_false ?_ fun hc => ?_
        · rintro ⟨s', hs', -⟩
          exact absurd hs' (by simp)
        · exact absurd (hc.2 hfree.1) (by simp [hfree.2])
      · refine iff_of_true ⟨_, rfl, rfl, _, rfl, s.dns[i].exists_enviar _ data⟩ ⟨hsome, fun hzero => ?_⟩
        rw [not_and, Bool.not_eq_false] at hfree
        exact hfree hzero

/-! ## Failed lookups -/

/-- **The account of a failed lookup**: the oldest query for the name is removed; a solved reply finds
none whose lookup has ended. -/
def Baja (s : Consultas) : Evento → Consultas → Prop
  | .rvAddrSolve _ rvPkt detras, s' => ∀ nombre ∈ rvPkt.leerNombre detras,
      if rvPkt.flags &&& maskSolved = 0 then s'.dns = s.dns.eraseP fun e => e.nombre = nombre
      else ∀ e ∈ s.dns.find? fun e => e.nombre = nombre, e.terminada = false
  | _, _ => True

/-- **The condition**: a reply that brings no address is for a name that no query is pending for. -/
def guardaBaja (s : Consultas) : Evento → Prop
  | .rvAddrSolve _ rvPkt detras => rvPkt.flags &&& maskSolved = 0 →
      ∀ nombre ∈ rvPkt.leerNombre detras, ∀ e ∈ s.dns, e.nombre ≠ nombre
  | _ => True

/-- No pending query has been given up. -/
def Vivas (s : Consultas) : Prop := ∀ e ∈ s.dns, e.terminada = false

lemma terminar_eq_self {nombre : List UChar} {dns : List DnsQQueue} (h : ∀ e ∈ dns, e.nombre ≠ nombre) :
    terminar nombre dns = dns :=
  List.replaceF_of_forall_none fun e he => if_neg fun hc => h e he hc.1

lemma eraseP_eq_self {nombre : List UChar} {dns : List DnsQQueue} (h : ∀ e ∈ dns, e.nombre ≠ nombre) :
    (dns.eraseP fun e => e.nombre = nombre) = dns :=
  List.eraseP_of_forall_not fun e he hc => h e he (of_decide_eq_true hc)

/-- Marking does not shorten the queue. -/
lemma length_terminar (nombre : List UChar) (dns : List DnsQQueue) :
    (terminar nombre dns).length = dns.length := List.length_replaceF

/-- A failed lookup, for a reply whose name can be read. -/
lemma rvAddrSolve_sinResolver {s : Consultas} {env : EntornoDns} {rvPkt : RvCtrlPktMem}
    {detras nombre : List UChar} (hfailed : rvPkt.flags &&& maskSolved = 0)
    (hname : rvPkt.leerNombre detras = some nombre) :
    s.step (.rvAddrSolve env rvPkt detras)
      = some { s with enviados := [], dns := terminar nombre s.dns } := by
  rw [step, rvAddrSolve, if_neg (not_not.mpr hfailed), hname]
  rfl

/-- The step keeps its account exactly when its reply is for no pending query. -/
lemma Vivas.baja_iff {s s' : Consultas} (h : s.Vivas) {ev : Evento} (hstep : s.step ev = some s') :
    s.Baja ev s' ↔ s.guardaBaja ev := by
  cases ev with
  | consultar auxStr m e => exact Iff.rfl
  | clearRvTables => exact Iff.rfl
  | rvAddrSolve env rvPkt detras =>
      by_cases hf : rvPkt.flags &&& maskSolved = 0
      · have hguard : s.guardaBaja (.rvAddrSolve env rvPkt detras)
            ↔ ∀ nombre ∈ rvPkt.leerNombre detras, ∀ e ∈ s.dns, e.nombre ≠ nombre :=
          forall_prop_of_true hf
        rw [hguard]
        refine forall₂_congr fun nombre hn => ?_
        rw [if_pos hf]
        rw [rvAddrSolve_sinResolver hf hn] at hstep
        obtain rfl := Option.some.inj hstep
        constructor
        · intro hremoved e he hnom
          have hlen := congrArg List.length hremoved
          have hmem : (decide (e.nombre = nombre)) = true := decide_eq_true hnom
          rw [length_terminar, List.length_eraseP_of_mem he hmem] at hlen
          have hpos := List.length_pos_of_mem he
          omega
        · intro hno
          rw [eraseP_eq_self hno]
          exact terminar_eq_self hno
      · refine iff_of_true (fun nombre _ => ?_) fun hc => absurd hc hf
        rw [if_neg hf]
        exact fun e he => h e (List.mem_of_find?_eq_some he)

/-- No query is given up. -/
lemma Vivas.step {s s' : Consultas} (h : s.Vivas) {ev : Evento} (hg : s.guardaBaja ev)
    (hstep : s.step ev = some s') : s'.Vivas := by
  cases ev with
  | consultar auxStr m e =>
      obtain ⟨uaddr, -, hq⟩ := Option.bind_eq_some_iff.mp hstep
      split_ifs at hq
      obtain ⟨rv, -, rfl⟩ := Option.map_eq_some_iff.mp hq
      intro x hx
      rcases List.mem_append.mp hx with hx | hx
      · exact h x hx
      · obtain rfl := List.mem_singleton.mp hx
        rfl
  | clearRvTables =>
      obtain rfl := Option.some.inj hstep
      exact fun x hx => absurd hx List.not_mem_nil
  | rvAddrSolve env rvPkt detras =>
      by_cases hf : rvPkt.flags &&& maskSolved = 0
      · cases hn : rvPkt.leerNombre detras with
        | none =>
            rw [Consultas.step, rvAddrSolve, if_neg (not_not.mpr hf), hn] at hstep
            obtain rfl := Option.some.inj hstep
            exact h
        | some nombre =>
            rw [rvAddrSolve_sinResolver hf hn] at hstep
            obtain rfl := Option.some.inj hstep
            have hsame := terminar_eq_self (hg hf nombre hn)
            exact fun x hx => h x (hsame ▸ hx)
      · rw [Consultas.step, rvAddrSolve, if_pos hf] at hstep
        obtain ⟨univAddr, -, hq⟩ := Option.bind_eq_some_iff.mp hstep
        unfold resolver at hq
        split at hq
        · exact absurd hq (by simp)
        · obtain ⟨e, -, hq⟩ := Option.bind_eq_some_iff.mp hq
          obtain ⟨data, -, hq⟩ := Option.bind_eq_some_iff.mp hq
          split_ifs at hq
          obtain rfl := Option.some.inj hq
          exact fun x hx => h x ((List.eraseIdx_sublist _ _).subset hx)

/-- **Failed lookups are taken off the queue** along a run exactly when none of them is for a pending
query. -/
theorem bajas_iff {s : Consultas} (h : s.Vivas) (evs : List Evento) :
    (∀ t ∈ steps step s evs, t.1.Baja t.2.1 t.2.2) ↔ ∀ t ∈ steps step s evs, t.1.guardaBaja t.2.1 :=
  steps_iff_guard (fun _ _ _ hu hstep => hu.baja_iff hstep) (fun _ _ _ hu hg hstep => hu.step hg hstep) h

/-! ## A name with two letters -/

/-- A query for `n1`, from the port 4660 to that of `DNS`. -/
def consultaN1 : DnsQQueue where
  pkt := List.replicate 80 0 ++ [0, 7, 1, 0, 0, 1, 0, 0, 0, 0, 0, 0] ++ [2, 110, 49, 0, 0, 28, 0, 1]
  dstPort := htons 4660
  srcPort := htons 53
  terminada := false
  completa := by decide
  puerto := by decide

/-- The reply to it. -/
def respuestaN1 (flags : UChar) : RvCtrlPktMem where
  type := .rvAddrSolve
  flags := flags
  id := 0
  n := 0
  primAddr := .zero
  univAddr := ⟨[110, 49] ++ List.replicate 48 0, rfl⟩
  srcAddr := .zero

/-- The reply to a lookup of `n2` that failed. -/
def respuestaN2 : RvCtrlPktMem :=
  { respuestaN1 0 with univAddr := ⟨[110, 50] ++ List.replicate 48 0, rfl⟩ }

/-- The queue at the beginning. -/
def vacia (rv : Rendezvous) : Consultas := { rv := rv, dns := [], enviados := [] }

/-- The rendezvous variables of a node without a name. -/
def rvInicial : Rendezvous := Rendezvous.arranque []

/-- Memory with zeros, in which freed entries stay as they are. -/
def entornoCero : EntornoDns := { heap := fun _ => 0, intacta := true }

/-- A reply that comes twice finds no query the second time, and a null pointer is read. -/
theorem respuesta_sin_consulta :
    ¬ ∀ (s : Consultas) (env : EntornoDns) (rvPkt : RvCtrlPktMem) (detras nombre : List UChar),
      rvPkt.flags &&& maskSolved ≠ 0 → rvPkt.leerNombre detras = some nombre →
        Cuenta nombre s (s.step (.rvAddrSolve env rvPkt detras)) := by
  intro h
  obtain ⟨s', hs', -⟩ := h (vacia rvInicial) entornoCero (respuestaN1 1) [] [110, 49] (by decide)
    (by decide)
  rw [step, rvAddrSolve, if_pos (by decide)] at hs'
  obtain ⟨u, -, hr⟩ := Option.bind_eq_some_iff.mp hs'
  exact absurd hr (by simp [resolver, vacia])

/-- The reply to a pending query. -/
theorem cuenta_iff_n1 :
    Cuenta [110, 49] { vacia rvInicial with dns := [consultaN1] }
        (step { vacia rvInicial with dns := [consultaN1] } (.rvAddrSolve entornoCero (respuestaN1 1) []))
      ↔ guardaCuenta entornoCero [110, 49] { vacia rvInicial with dns := [consultaN1] } :=
  cuenta_iff _ entornoCero (by decide) (by decide)

/-- A query for a name of one label is queued. -/
lemma exists_consultar {hcDim : ℕ} {univAddr : List UChar} {s : Consultas}
    (hs : Rendezvous.Coherente hcDim univAddr s.rv) (auxStr : Buffer UChar 150) (m : SinIniciar)
    {e : DnsQQueue} {nombre : Etiqueta} (hp : Pregunta e.pkt nombre) :
    ∃ rv, s.step (.consultar auxStr m e)
      = some { rv := rv, dns := s.dns ++ [{ e with terminada := false }], enviados := [] } := by
  obtain ⟨servers, main, -, -, hsolve⟩ := Rendezvous.solveName_eq m nombre.cstr nombre.ne_nil hs
  have hquery : s.step (.consultar auxStr m e) = (s.rv.solveName m nombre.bytes).map fun rv =>
      { rv := rv, dns := s.dns ++ [{ e with terminada := false }], enviados := [] } := by
    rw [step, consultar, decodificar_eq hp, Option.bind_some,
      if_neg (hs.not_cached nombre.cstr nombre.ne_nil)]
  rw [hsolve] at hquery
  exact ⟨_, hquery⟩

/-- The lookup of a query fails, and the query stays. -/
theorem baja_olvidada :
    ¬ ∀ (rv : Rendezvous) (evs : List Evento),
      ∀ t ∈ steps step (vacia rv) evs, t.1.Baja t.2.1 t.2.2 := by
  intro h
  obtain ⟨n1, hn1⟩ : ∃ n1 : Etiqueta, n1.bytes = [110, 49] :=
    ⟨⟨[110, 49], by simp [CStr], by decide, by decide⟩, rfl⟩
  have hp : Pregunta consultaN1.pkt n1 := by
    rw [Pregunta, hn1]
    decide
  have hcoh : Rendezvous.Coherente 64 [] rvInicial :=
    Rendezvous.coherente_rvTablesInit (primAddrInit 64 (texto [])) _ .zero .zero 4096
  obtain ⟨rv, hq⟩ := exists_consultar (s := vacia rvInicial) hcoh ⟨List.replicate 150 0, rfl⟩ .zero hp
  have hrun := h rvInicial [.consultar ⟨List.replicate 150 0, rfl⟩ .zero consultaN1,
    .rvAddrSolve entornoCero (respuestaN1 0) []]
  have hname : (respuestaN1 0).leerNombre [] = some [110, 49] := by decide
  rw [steps_cons_some _ hq, steps_cons_some _ (rvAddrSolve_sinResolver (by decide) hname),
    List.forall_mem_cons, List.forall_mem_cons] at hrun
  have hbaja := hrun.2.1 [110, 49] hname
  rw [if_pos (show (respuestaN1 0).flags &&& maskSolved = 0 by decide)] at hbaja
  have hlen : [consultaN1].length = ([consultaN1].eraseP fun e => e.nombre = [110, 49]).length := by
    rw [← length_terminar [110, 49] [consultaN1]]
    exact congrArg List.length hbaja
  exact absurd hlen (by decide)

/-- A query for `n1` is pending when the lookup of `n2` fails. -/
theorem bajas_iff_vacia :
    (∀ t ∈ steps step (vacia rvInicial) [.consultar (.filled 150 0) .zero consultaN1,
        .rvAddrSolve entornoCero respuestaN2 []], t.1.Baja t.2.1 t.2.2)
      ↔ ∀ t ∈ steps step (vacia rvInicial) [.consultar (.filled 150 0) .zero consultaN1,
          .rvAddrSolve entornoCero respuestaN2 []], t.1.guardaBaja t.2.1 :=
  bajas_iff (fun _ he => absurd he List.not_mem_nil) _

end Consultas

end Antop
