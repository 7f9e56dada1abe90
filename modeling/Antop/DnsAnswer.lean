import Antop.Library.DnsMessage
import Antop.PendingQueries

/-!
# The answer to a DNS query

`answer_dns_query` answers a query for an address with three records.  The first has the name of the
question once more; the names in the other two are pointers to the octet 21, whatever the name, and the
port of mDNS gets the datagram without these two.

* `ConsultaAAAA` — a pending query with one question, for the addresses of a name, and nothing else.
* `BienFormada` — a datagram is a message of RFC 1035 that answers a question.
* `mensaje` — the datagrams that are sent, when the name has no octet that is zero.
* `not_bienFormada_cero` — a name with a zero in a label is cut there, and its answer is no message.
* **`bien_respondida`** — the answers are well formed exactly when the query came to the port of DNS, for
  the class `IN` and a name without a zero, and the octet 21 is the start of a label.
-/

namespace Antop

open CString Memory DnsMessage

/-! ## Queries and answers -/

/-- A pending query with one question, of the type `AAAA`, and no records. -/
structure ConsultaAAAA (e : DnsQQueue) (ls : Name) (clase : ℕ) : Prop where
  nombre : IsName ls
  clase_lt : clase < 65536
  datos : ∃ ident flags : List UChar, ident.length = 2 ∧ flags.length = 2
    ∧ e.pkt.drop udpPktOff = ident ++ flags ++ [0, 1, 0, 0, 0, 0, 0, 0] ++ wire ls ++ [0, 28] ++ bytes16 clase

/-- The datagram is a message with the one question, and the records its header announces; one of them
is the answer, with the address, and the pointers lead to labels. -/
def BienFormada (d : List UChar) (q : Question) (addr : List UChar) : Prop :=
  ∃ msg ∈ parse d, msg.questions.map Prod.fst = [q]
    ∧ (∃ r, msg.answers = [r] ∧ r.name = q.qname ∧ r.type = q.qtype ∧ r.rclass = q.qclass ∧ r.rdata = addr)
    ∧ PointersSound d msg

/-- What `answer_dns_query` sends for a pending query is well formed. -/
def BienRespondida (e : DnsQQueue) (ls : Name) (clase : ℕ) (heap : ℕ → UChar) (propia primAddr : In6Addr) :
    Prop :=
  ∃ data ∈ e.armar heap primAddr, ∃ envio, e.enviar propia data = [envio]
    ∧ BienFormada envio.datagrama ⟨ls, 28, clase⟩ primAddr.bytes

/-- No octet of a label is zero. -/
def SinCeros (ls : Name) : Prop := ∀ l ∈ ls, CStr l

/-- The octet 21 is the start of a label in the question or in the answer. -/
def PunteroAEtiqueta (ls : Name) : Prop :=
  21 ∈ labelOffsets 12 ls ∨ 21 ∈ labelOffsets (12 + (wire ls).length + 4) ls

instance (ls : Name) : Decidable (PunteroAEtiqueta ls) :=
  inferInstanceAs (Decidable (21 ∈ labelOffsets 12 ls ∨ 21 ∈ labelOffsets (12 + (wire ls).length + 4) ls))

/-! ## The datagram -/

/-- The header of the answer. -/
def cabeceraDns (i₁ i₂ : UChar) : List UChar := [i₁, i₂, 0x85, 0, 0, 1, 0, 1, 0, 1, 0, 1]

/-- The datagram, as far as the answer and with `resto` behind it. -/
def mensaje (i₁ i₂ : UChar) (ls : Name) (clase : ℕ) (addr resto : List UChar) : List UChar :=
  cabeceraDns i₁ i₂ ++ (wire ls ++ ([0, 28, 0, 1] ++ (wire ls ++ ([0, 28] ++ (bytes16 clase
    ++ ([0, 0, 0, 10] ++ ([0, 16] ++ (addr ++ resto))))))))

/-- The offset behind the answer. -/
def finRespuesta (ls : Name) : ℕ := 12 + (wire ls).length + 4 + (wire ls).length + 10 + 16

section Datagrama

variable {i₁ i₂ : UChar} {ls : Name} {clase : ℕ} {addr resto : List UChar}

lemma drop_pregunta : (mensaje i₁ i₂ ls clase addr resto).drop 12 = wire ls ++ ([0, 28, 0, 1]
    ++ (wire ls ++ ([0, 28] ++ (bytes16 clase ++ ([0, 0, 0, 10] ++ ([0, 16] ++ (addr ++ resto))))))) := rfl

lemma drop_respuesta : (mensaje i₁ i₂ ls clase addr resto).drop (12 + (wire ls).length + 4) = wire ls
    ++ ([0, 28] ++ (bytes16 clase ++ ([0, 0, 0, 10] ++ ([0, 16] ++ (addr ++ resto))))) :=
  drop_of_drop_append (a := [0, 28, 0, 1]) (drop_of_drop_append drop_pregunta)

lemma drop_finRespuesta (haddr : addr.length = 16) :
    (mensaje i₁ i₂ ls clase addr resto).drop (finRespuesta ls) = resto := by
  have htipo := drop_of_drop_append (@drop_respuesta i₁ i₂ ls clase addr resto)
  have hdata := drop_of_drop_append (a := [0, 28] ++ (bytes16 clase ++ ([0, 0, 0, 10] ++ [0, 16])))
    (r := addr ++ resto) (by rw [htipo]; simp)
  have hend := drop_of_drop_append hdata
  rw [haddr] at hend
  exact hend

lemma length_mensaje (haddr : addr.length = 16) :
    (mensaje i₁ i₂ ls clase addr resto).length = finRespuesta ls + resto.length := by
  simp only [mensaje, cabeceraDns, finRespuesta, List.length_append, List.length_cons, List.length_nil,
    length_bytes16, haddr]
  omega

/-- The question is read with the class 1. -/
lemma readQuestion_mensaje (hls : IsName ls) :
    readQuestion (mensaje i₁ i₂ ls clase addr resto) 12
      = some ((⟨ls, 28, 1⟩, 12), 12 + (wire ls).length + 4) :=
  readQuestion_of_name (name_wire hls drop_pregunta) (drop_of_drop_append drop_pregunta)

/-- The answer is read with the class of the query. -/
lemma readRecord_mensaje (hls : IsName ls) (hclase : clase < 65536) (haddr : addr.length = 16) :
    ∃ r : Record, readRecord (mensaje i₁ i₂ ls clase addr resto) (12 + (wire ls).length + 4)
        = some (r, finRespuesta ls)
      ∧ r.name = ls ∧ r.type = 28 ∧ r.rclass = clase ∧ r.rdata = addr
      ∧ r.off = 12 + (wire ls).length + 4 := by
  have hrest := drop_of_drop_append (@drop_respuesta i₁ i₂ ls clase addr resto)
  have hread := readRecord_of_name (name_wire hls drop_respuesta) addr hrest haddr
  have hval : (BitVec.ofNat 8 (clase / 256)).toNat * 256 + (BitVec.ofNat 8 clase).toNat = clase := by
    simp only [BitVec.toNat_ofNat]
    omega
  rw [if_pos (fun hc => absurd hc (by decide)), haddr, hval] at hread
  exact ⟨_, hread, rfl, rfl, rfl, rfl, rfl⟩

/-- **The datagram** up to the answer is read. -/
lemma parse_mensaje (hls : IsName ls) (hclase : clase < 65536) (haddr : addr.length = 16) :
    ∃ r : Record, r.name = ls ∧ r.type = 28 ∧ r.rclass = clase ∧ r.rdata = addr
      ∧ r.off = 12 + (wire ls).length + 4
      ∧ parse (mensaje i₁ i₂ ls clase addr resto)
        = (readRecord (mensaje i₁ i₂ ls clase addr resto) (finRespuesta ls)).bind fun ns =>
          (readRecord (mensaje i₁ i₂ ls clase addr resto) ns.2).bind fun ar =>
            if ar.2 = (mensaje i₁ i₂ ls clase addr resto).length then
              some ⟨[(⟨ls, 28, 1⟩, 12)], [r], [ns.1], [ar.1]⟩ else none := by
  obtain ⟨r, hread, hname, htype, hclass, hdata, hoff⟩ := @readRecord_mensaje i₁ i₂ ls clase addr resto
    hls hclase haddr
  refine ⟨r, hname, htype, hclass, hdata, hoff, ?_⟩
  have hq := @readQuestion_mensaje i₁ i₂ ls clase addr resto hls
  rw [parse_one (u16_of_drop (a := 0) (b := 1) rfl) (u16_of_drop (a := 0) (b := 1) rfl)
    (u16_of_drop (a := 0) (b := 1) rfl) (u16_of_drop (a := 0) (b := 1) rfl), hq, Option.bind_some, hread,
    Option.bind_some]

/-- Without the other records it is no message. -/
lemma parse_mensaje_nil (hls : IsName ls) (hclase : clase < 65536) (haddr : addr.length = 16) :
    parse (mensaje i₁ i₂ ls clase addr []) = none := by
  obtain ⟨r, -, -, -, -, -, hparse⟩ := @parse_mensaje i₁ i₂ ls clase addr [] hls hclase haddr
  rw [hparse, readRecord_of_length_le (by rw [length_mensaje haddr, List.length_nil]; rfl), Option.bind_none]

end Datagrama

/-! ## The pointers -/

section Punteros

variable {i₁ i₂ : UChar} {ls : Name} {clase : ℕ} {addr : List UChar}

/-- The datagram with its three records. -/
abbrev mensajeDns (i₁ i₂ : UChar) (ls : Name) (clase : ℕ) (addr : List UChar) : List UChar :=
  mensaje i₁ i₂ ls clase addr (DnsQQueue.autoridad ++ DnsQQueue.adicional)

lemma drop_autoridad (haddr : addr.length = 16) :
    (mensajeDns i₁ i₂ ls clase addr).drop (finRespuesta ls)
      = 192 :: 21 :: ([0, 2, 0, 1, 0, 0, 28, 32, 0, 2] ++ ([192, 21] ++ DnsQQueue.adicional)) :=
  drop_finRespuesta haddr

lemma drop_rdata (haddr : addr.length = 16) :
    (mensajeDns i₁ i₂ ls clase addr).drop (finRespuesta ls + 12) = 192 :: 21 :: DnsQQueue.adicional :=
  drop_of_drop_append (a := [192, 21, 0, 2, 0, 1, 0, 0, 28, 32, 0, 2]) (drop_autoridad haddr)

lemma drop_adicional (haddr : addr.length = 16) :
    (mensajeDns i₁ i₂ ls clase addr).drop (finRespuesta ls + 14)
      = 192 :: 21 :: ([0, 28, 0, 1, 0, 0, 28, 32, 0, 16]
        ++ (([32, 1, 0] ++ List.replicate 12 0 ++ [10]) ++ [])) :=
  drop_of_drop_append (a := [192, 21]) (drop_rdata haddr)

/-- A pointer is read when it leads to a label. -/
lemma exists_name_puntero (hls : IsName ls) (hp : PunteroAEtiqueta ls) {off : ℕ} {r : List UChar}
    (h : (mensajeDns i₁ i₂ ls clase addr).drop off = 192 :: 21 :: r) (hoff : finRespuesta ls ≤ off) :
    ∃ bs, name (mensajeDns i₁ i₂ ls clase addr) off = some (bs, off + 2) := by
  have hlt : 21 < off := by
    unfold finRespuesta at hoff
    omega
  rcases hp with hp | hp
  · exact name_pointer (by decide) h hls drop_pregunta hp hlt
  · exact name_pointer (by decide) h hls drop_respuesta hp hlt

/-- The two records behind the answer, once their names are read. -/
lemma readRecord_punteros (haddr : addr.length = 16) {a b c : Name}
    (ha : name (mensajeDns i₁ i₂ ls clase addr) (finRespuesta ls) = some (a, finRespuesta ls + 2))
    (hb : name (mensajeDns i₁ i₂ ls clase addr) (finRespuesta ls + 12) = some (b, finRespuesta ls + 14))
    (hc : name (mensajeDns i₁ i₂ ls clase addr) (finRespuesta ls + 14) = some (c, finRespuesta ls + 16)) :
    readRecord (mensajeDns i₁ i₂ ls clase addr) (finRespuesta ls)
        = some (⟨a, 2, 1, 7200, [192, 21], finRespuesta ls, finRespuesta ls + 12⟩, finRespuesta ls + 14)
      ∧ readRecord (mensajeDns i₁ i₂ ls clase addr) (finRespuesta ls + 14)
        = some (⟨c, 28, 1, 7200, [32, 1, 0] ++ List.replicate 12 0 ++ [10], finRespuesta ls + 14,
            finRespuesta ls + 26⟩, finRespuesta ls + 42) := by
  have hns := readRecord_of_name ha [192, 21]
    (drop_of_drop_append (a := [192, 21]) (drop_autoridad haddr)) rfl
  have har := readRecord_of_name hc ([32, 1, 0] ++ List.replicate 12 0 ++ [10])
    (drop_of_drop_append (a := [192, 21]) (drop_adicional haddr)) rfl
  constructor
  · rw [hns, if_pos fun _ => by rw [hb]; rfl]
    rfl
  · rw [har, if_pos fun hmem => absurd hmem (by decide)]
    rfl

/-- A message that is read as `mensajeDns` should be. -/
structure Leido (ls : Name) (clase : ℕ) (addr : List UChar) (msg : Message) : Prop where
  pregunta : msg.questions = [(⟨ls, 28, 1⟩, 12)]
  respuesta : ∃ r : Record, msg.answers = [r] ∧ r.name = ls ∧ r.type = 28 ∧ r.rclass = clase ∧ r.rdata = addr
  nombres : msg.nameOffsets
    = [12, 12 + (wire ls).length + 4, finRespuesta ls, finRespuesta ls + 12, finRespuesta ls + 14]

/-- **The datagram** is read once its three pointers are. -/
lemma exists_leido (hls : IsName ls) (hclase : clase < 65536) (haddr : addr.length = 16) {a b c : Name}
    (ha : name (mensajeDns i₁ i₂ ls clase addr) (finRespuesta ls) = some (a, finRespuesta ls + 2))
    (hb : name (mensajeDns i₁ i₂ ls clase addr) (finRespuesta ls + 12) = some (b, finRespuesta ls + 14))
    (hc : name (mensajeDns i₁ i₂ ls clase addr) (finRespuesta ls + 14) = some (c, finRespuesta ls + 16)) :
    ∃ msg, parse (mensajeDns i₁ i₂ ls clase addr) = some msg ∧ Leido ls clase addr msg := by
  obtain ⟨r, hname, htype, hclass, hdata, hoff, hparse⟩ := @parse_mensaje i₁ i₂ ls clase addr
    (DnsQQueue.autoridad ++ DnsQQueue.adicional) hls hclase haddr
  obtain ⟨hns, har⟩ := readRecord_punteros haddr ha hb hc
  have hlen : (mensajeDns i₁ i₂ ls clase addr).length = finRespuesta ls + 42 := length_mensaje haddr
  rw [hns, Option.bind_some, har, Option.bind_some, if_pos hlen.symm] at hparse
  have hanswer : r.nameOffsets = [12 + (wire ls).length + 4] := by
    rw [Record.nameOffsets, htype, if_neg (by decide), hoff]
  refine ⟨_, hparse, rfl, ⟨r, rfl, hname, htype, hclass, hdata⟩, ?_⟩
  change 12 :: (r.nameOffsets ++ [finRespuesta ls, finRespuesta ls + 12, finRespuesta ls + 14]) = _
  rw [hanswer]
  rfl

/-- The names of the three pointers are read when the datagram is. -/
lemma exists_punteros (hls : IsName ls) (hclase : clase < 65536) (haddr : addr.length = 16) {msg : Message}
    (h : parse (mensajeDns i₁ i₂ ls clase addr) = some msg) :
    ∃ a b c : Name,
      name (mensajeDns i₁ i₂ ls clase addr) (finRespuesta ls) = some (a, finRespuesta ls + 2)
      ∧ name (mensajeDns i₁ i₂ ls clase addr) (finRespuesta ls + 12) = some (b, finRespuesta ls + 14)
      ∧ name (mensajeDns i₁ i₂ ls clase addr) (finRespuesta ls + 14) = some (c, finRespuesta ls + 16) := by
  obtain ⟨r, -, -, -, -, -, hparse⟩ := @parse_mensaje i₁ i₂ ls clase addr
    (DnsQQueue.autoridad ++ DnsQQueue.adicional) hls hclase haddr
  rw [h] at hparse
  obtain ⟨⟨ns, nsEnd⟩, hns, hparse⟩ := Option.bind_eq_some_iff.mp hparse.symm
  obtain ⟨⟨ar, arEnd⟩, har, -⟩ := Option.bind_eq_some_iff.mp hparse
  obtain ⟨aEnd, ha, -⟩ := of_readRecord hns
  obtain rfl := snd_of_name_pointer (by decide) (drop_autoridad haddr) ha
  -- the name that is the data of the authority record
  rw [readRecord_of_name ha [192, 21]
    (drop_of_drop_append (a := [192, 21]) (drop_autoridad haddr)) rfl] at hns
  obtain ⟨hdata, hrecord⟩ := Option.ite_none_right_eq_some.mp hns
  obtain ⟨⟨b, bEnd⟩, hb, hbEnd⟩ := Option.map_eq_some_iff.mp (hdata (by decide))
  obtain rfl := snd_of_name_pointer (by decide) (drop_rdata haddr) hb
  obtain rfl : finRespuesta ls + 14 = nsEnd := congrArg Prod.snd (Option.some.inj hrecord)
  obtain ⟨cEnd, hc, -⟩ := of_readRecord har
  obtain rfl := snd_of_name_pointer (by decide) (drop_adicional haddr) hc
  exact ⟨_, b, _, ha, hb, hc⟩

/-- **The pointers lead to labels** when a label starts at the octet 21. -/
lemma Leido.pointersSound_iff {msg : Message} (h : Leido ls clase addr msg) (hls : IsName ls)
    (haddr : addr.length = 16) :
    PointersSound (mensajeDns i₁ i₂ ls clase addr) msg ↔ PunteroAEtiqueta ls := by
  have hq : (mensajeDns i₁ i₂ ls clase addr).drop 12 = _ := drop_pregunta
  have han : (mensajeDns i₁ i₂ ls clase addr).drop (12 + (wire ls).length + 4) = _ := drop_respuesta
  have hns : (mensajeDns i₁ i₂ ls clase addr).drop (finRespuesta ls) = _ := drop_autoridad haddr
  have hdata : (mensajeDns i₁ i₂ ls clase addr).drop (finRespuesta ls + 12) = _ := drop_rdata haddr
  have har : (mensajeDns i₁ i₂ ls clase addr).drop (finRespuesta ls + 14) = _ := drop_adicional haddr
  generalize mensajeDns i₁ i₂ ls clase addr = m at *
  have hfuel : ls.length < m.length := by
    have hlt := length_lt_length_wire ls
    have hlen := length_of_drop hq (by simp [wire])
    omega
  obtain ⟨n, hn⟩ := Nat.exists_eq_succ_of_ne_zero (Nat.ne_of_gt (Nat.zero_lt_of_lt hfuel))
  have hstarts : (∃ o' ∈ msg.nameOffsets, 21 ∈ labelStarts m m.length o') ↔ PunteroAEtiqueta ls := by
    simp only [h.nombres, List.exists_mem_cons_iff, labelStarts_wire hls.labels hfuel hq,
      labelStarts_wire hls.labels hfuel han, labelStarts_pointer (by decide) hns,
      labelStarts_pointer (by decide) hdata, labelStarts_pointer (by decide) har]
    simp [PunteroAEtiqueta]
  rw [PointersSound, ← hstarts]
  constructor
  · intro hall
    have hmem : finRespuesta ls ∈ msg.nameOffsets := by
      rw [h.nombres]
      simp
    refine hall _ hmem 21 ?_
    rw [hn, Nat.succ_eq_add_one, target_pointer (by decide) hns]
    rfl
  · intro hex o ho t ht
    rw [hn, Nat.succ_eq_add_one] at ht
    rw [h.nombres] at ho
    have h21 : t = 21 := by
      simp only [List.mem_cons, List.not_mem_nil, or_false] at ho
      rcases ho with rfl | rfl | rfl | rfl | rfl
      · rw [target_wire hls.labels hq] at ht
        exact absurd ht (by simp)
      · rw [target_wire hls.labels han] at ht
        exact absurd ht (by simp)
      · rw [target_pointer (by decide) hns] at ht
        exact (Option.some.inj ht).symm
      · rw [target_pointer (by decide) hdata] at ht
        exact (Option.some.inj ht).symm
      · rw [target_pointer (by decide) har] at ht
        exact (Option.some.inj ht).symm
    rw [h21]
    exact hex

/-- **The datagram is well formed** for the class `IN`, when the pointers lead to labels. -/
lemma bienFormada_iff (hls : IsName ls) (hclase : clase < 65536) (haddr : addr.length = 16) :
    BienFormada (mensajeDns i₁ i₂ ls clase addr) ⟨ls, 28, clase⟩ addr ↔ clase = 1 ∧ PunteroAEtiqueta ls := by
  constructor
  · rintro ⟨msg, hmsg, hq, -, hsound⟩
    obtain ⟨a, b, c, ha, hb, hc⟩ := exists_punteros hls hclase haddr hmsg
    obtain ⟨msg', hmsg', hleido⟩ := exists_leido hls hclase haddr ha hb hc
    obtain rfl := Option.some.inj (hmsg'.symm.trans hmsg)
    rw [hleido.pregunta] at hq
    have hclass : 1 = clase := congrArg Question.qclass (List.head_eq_of_cons_eq hq)
    exact ⟨hclass.symm, (hleido.pointersSound_iff hls haddr).mp hsound⟩
  · rintro ⟨rfl, hp⟩
    obtain ⟨a, ha⟩ := exists_name_puntero hls hp (drop_autoridad haddr) le_rfl
    obtain ⟨b, hb⟩ := exists_name_puntero hls hp (drop_rdata haddr) (Nat.le_add_right _ _)
    obtain ⟨c, hc⟩ := exists_name_puntero hls hp (drop_adicional haddr) (Nat.le_add_right _ _)
    obtain ⟨msg, hmsg, hleido⟩ := exists_leido hls hclase haddr ha hb hc
    refine ⟨msg, hmsg, ?_, hleido.respuesta, (hleido.pointersSound_iff hls haddr).mpr hp⟩
    rw [hleido.pregunta]
    rfl

end Punteros

/-! ## Names without a zero -/

section SinCeros

variable {e : DnsQQueue} {ls : Name} {clase : ℕ}

lemma cstr_flatMap (hls : ∀ l ∈ ls, 1 ≤ l.length ∧ l.length ≤ 63) (hc : SinCeros ls) :
    CStr (ls.flatMap wireLabel) := by
  intro b hb
  obtain ⟨l, hl, hb⟩ := List.mem_flatMap.mp hb
  rcases List.mem_cons.mp hb with rfl | hb
  · exact ofNat_length_ne_zero (hls l hl)
  · exact hc l hl b hb

lemma ConsultaAAAA.drop_nombre (h : ConsultaAAAA e ls clase) :
    e.pkt.drop ipv6MdnsQueryOff = wire ls ++ ([0, 28] ++ bytes16 clase) := by
  obtain ⟨ident, flags, hident, hflags, hpkt⟩ := h.datos
  have hdrop : e.pkt.drop udpPktOff = (ident ++ flags ++ [0, 1, 0, 0, 0, 0, 0, 0])
      ++ (wire ls ++ ([0, 28] ++ bytes16 clase)) := by
    rw [hpkt]
    simp
  have hrest := drop_of_drop_append hdrop
  simp only [List.length_append, hident, hflags] at hrest
  exact hrest

lemma ConsultaAAAA.qname_eq (h : ConsultaAAAA e ls clase) (hc : SinCeros ls) :
    e.qname = ls.flatMap wireLabel := by
  have hstr : cstr (e.pkt.drop ipv6MdnsQueryOff) = some (ls.flatMap wireLabel) := by
    rw [h.drop_nombre, wire, List.append_assoc, List.singleton_append,
      cstr_append_zero (cstr_flatMap h.nombre.labels hc)]
  exact Option.some.inj (e.cstr_qname.symm.trans hstr)

/-- **What is built** for a name without a zero. -/
lemma ConsultaAAAA.exists_armar (h : ConsultaAAAA e ls clase) (hc : SinCeros ls) :
    e.sizeAux = finRespuesta ls ∧ ∃ i₁ i₂, ∀ heap primAddr,
      e.armar heap primAddr = some (mensajeDns i₁ i₂ ls clase primAddr.bytes) := by
  obtain ⟨ident, flags, hident, hflags, hdatos⟩ := h.datos
  match ident, flags, hident, hflags with
  | [i₁, i₂], [f₁, f₂], _, _ =>
      have hq := h.qname_eq hc
      have hwire : wire ls = e.qname ++ [0] := by
        rw [hq]
        rfl
      have hpkt : e.pkt.drop udpPktOff = [i₁, i₂, f₁, f₂, 0, 1, 0, 0, 0, 0, 0, 0] ++ e.qname ++ 0 :: [0, 28]
          ++ bytes16 clase ++ [] := by
        rw [hdatos, hwire]
        simp
      constructor
      · have hlen := congrArg List.length hwire
        rw [DnsQQueue.sizeAux_eq rfl rfl rfl hpkt, finRespuesta, hlen, List.length_append]
        simp only [List.length_nil, List.length_cons]
        omega
      · refine ⟨i₁, i₂, fun heap primAddr => ?_⟩
        obtain ⟨r, hr, harmar⟩ := DnsQQueue.armar_eq heap rfl rfl rfl hpkt
        obtain rfl := List.eq_nil_of_length_eq_zero hr
        rw [harmar, mensajeDns, mensaje, hwire]
        simp [DnsQQueue.respuesta, DnsQQueue.cabecera, cabeceraDns, slice, DnsQQueue.ttlLargo]

/-- A name without a zero is answered as it should be on the port of DNS only. -/
lemma ConsultaAAAA.bienRespondida_iff (h : ConsultaAAAA e ls clase) (hc : SinCeros ls)
    (heap : ℕ → UChar) (propia primAddr : In6Addr) :
    BienRespondida e ls clase heap propia primAddr
      ↔ htons e.srcPort = dnsPort ∧ clase = 1 ∧ PunteroAEtiqueta ls := by
  obtain ⟨hsize, i₁, i₂, harmar⟩ := h.exists_armar hc
  have haddr := In6Addr.length_bytes primAddr
  have hsent : BienRespondida e ls clase heap propia primAddr
      ↔ ∃ envio, e.enviar propia (mensajeDns i₁ i₂ ls clase primAddr.bytes) = [envio]
        ∧ BienFormada envio.datagrama ⟨ls, 28, clase⟩ primAddr.bytes := by
    rw [BienRespondida, harmar]
    simp
  rw [hsent]
  rcases e.puerto with hport | hport
  · -- the port of mDNS: the datagram ends behind the answer
    have htake : (mensajeDns i₁ i₂ ls clase primAddr.bytes).take e.sizeAux
        = mensaje i₁ i₂ ls clase primAddr.bytes [] := by
      have hparts : mensajeDns i₁ i₂ ls clase primAddr.bytes = mensaje i₁ i₂ ls clase primAddr.bytes []
          ++ (DnsQQueue.autoridad ++ DnsQQueue.adicional) := by simp [mensaje]
      have hlen : (mensaje i₁ i₂ ls clase primAddr.bytes []).length = e.sizeAux := by
        rw [length_mensaje haddr, hsize]
        rfl
      rw [hparts, ← hlen, List.take_left]
    refine iff_of_false ?_ fun hcond => absurd (hport.symm.trans hcond.1) (by decide)
    rintro ⟨envio, henvio, msg, hmsg, -⟩
    rw [DnsQQueue.enviar, if_pos hport, htake] at henvio
    obtain rfl := List.head_eq_of_cons_eq henvio
    rw [Option.mem_def, parse_mensaje_nil h.nombre h.clase_lt haddr] at hmsg
    exact absurd hmsg (by simp)
  · have htake : (mensajeDns i₁ i₂ ls clase primAddr.bytes).take (e.sizeAux + 42)
        = mensajeDns i₁ i₂ ls clase primAddr.bytes := by
      refine List.take_of_length_le (le_of_eq ?_)
      rw [length_mensaje haddr, hsize]
      rfl
    have henviar : e.enviar propia (mensajeDns i₁ i₂ ls clase primAddr.bytes)
        = [⟨mensajeDns i₁ i₂ ls clase primAddr.bytes, propia, htons e.dstPort⟩] := by
      rw [DnsQQueue.enviar, if_neg (fun hm => absurd (hm.symm.trans hport) (by decide)), if_pos hport, htake]
    rw [henviar, ← bienFormada_iff h.nombre h.clase_lt haddr]
    constructor
    · rintro ⟨envio, henvio, hbien⟩
      obtain rfl := List.head_eq_of_cons_eq henvio
      exact ⟨hport, hbien⟩
    · rintro ⟨-, hbien⟩
      exact ⟨_, rfl, hbien⟩

end SinCeros

/-! ## Names with a zero -/

section ConCeros

variable {e : DnsQQueue} {ls : Name} {clase : ℕ}

/-- The first label that has a zero. -/
lemma exists_primera (hc : ¬ SinCeros ls) :
    ∃ pre l₁ l₂ post, ls = pre ++ (l₁ ++ 0 :: l₂) :: post ∧ SinCeros pre ∧ CStr l₁ := by
  induction ls with
  | nil => exact absurd (fun l hl => absurd hl List.not_mem_nil) hc
  | cons l ls ih =>
      by_cases hl : CStr l
      · have hrest : ¬ SinCeros ls := fun hall => hc (List.forall_mem_cons.mpr ⟨hl, hall⟩)
        obtain ⟨pre, l₁, l₂, post, rfl, hpre, hl₁⟩ := ih hrest
        exact ⟨l :: pre, l₁, l₂, post, rfl, List.forall_mem_cons.mpr ⟨hl, hpre⟩, hl₁⟩
      · have hmem : (0 : UChar) ∈ l := by
          by_contra hno
          exact hl fun b hb hzero => hno (hzero ▸ hb)
        obtain ⟨l₁, l₂, rfl, hno⟩ := List.eq_append_cons_of_mem hmem
        exact ⟨[], l₁, l₂, ls, rfl, fun x hx => absurd hx List.not_mem_nil,
          fun b hb hzero => hno (hzero ▸ hb)⟩

/-- `strlen` ends inside a label. -/
lemma ConsultaAAAA.exists_cero (h : ConsultaAAAA e ls clase) (hc : ¬ SinCeros ls) :
    ∃ (pre : Name) (b : UChar) (l₁ : List UChar), (∀ l ∈ pre, 1 ≤ l.length ∧ l.length ≤ 63)
      ∧ b ≠ 0 ∧ b.toNat < 64 ∧ l₁.length < b.toNat ∧ e.qname = pre.flatMap wireLabel ++ b :: l₁ := by
  obtain ⟨pre, l₁, l₂, post, rfl, hpre, hl₁⟩ := exists_primera hc
  have hlabels : ∀ l ∈ pre, 1 ≤ l.length ∧ l.length ≤ 63 := fun l hl =>
    h.nombre.labels l (List.mem_append_left _ hl)
  have hl := h.nombre.labels (l₁ ++ 0 :: l₂) (List.mem_append_right _ List.mem_cons_self)
  have hstr : CStr (pre.flatMap wireLabel ++ BitVec.ofNat 8 (l₁ ++ 0 :: l₂).length :: l₁) := by
    intro b hb
    rcases List.mem_append.mp hb with hb | hb
    · exact cstr_flatMap hlabels hpre b hb
    · rcases List.mem_cons.mp hb with rfl | hb
      · exact ofNat_length_ne_zero hl
      · exact hl₁ b hb
  refine ⟨pre, BitVec.ofNat 8 (l₁ ++ 0 :: l₂).length, l₁, hlabels, ofNat_length_ne_zero hl, ?_, ?_, ?_⟩
  · rw [toNat_length hl]
    omega
  · rw [toNat_length hl, List.length_append, List.length_cons]
    omega
  · have hparts : wire (pre ++ (l₁ ++ 0 :: l₂) :: post) ++ ([0, 28] ++ bytes16 clase)
        = (pre.flatMap wireLabel ++ BitVec.ofNat 8 (l₁ ++ 0 :: l₂).length :: l₁)
          ++ 0 :: (l₂ ++ (wire post ++ ([0, 28] ++ bytes16 clase))) := by
      simp [wire, wireLabel]
    have hq := e.cstr_qname
    rw [h.drop_nombre, hparts, cstr_append_zero hstr] at hq
    exact (Option.some.inj hq).symm

/-- **What is built** for any name: `r` is what the writes leave of the query and of the memory. -/
lemma ConsultaAAAA.exists_armar_partes (h : ConsultaAAAA e ls clase) (heap : ℕ → UChar) :
    ∃ (i₁ i₂ t₁ t₂ : UChar) (cl r : List UChar), cl.length = 2
      ∧ e.qname.length + 1 + r.length ≤ 255 ∧ e.sizeAux = 2 * e.qname.length + 44 + r.length
      ∧ ∀ primAddr, e.armar heap primAddr
        = some (cabeceraDns i₁ i₂ ++ (e.respuesta [t₁, t₂] cl primAddr ++ r)) := by
  obtain ⟨ident, flags, hident, hflags, hdatos⟩ := h.datos
  obtain ⟨cab, tipo, cl, resto, hcab, htipo, hcl, hpkt⟩ := e.exists_partes
  obtain ⟨r, hr, harmar⟩ := DnsQQueue.armar_eq heap hcab htipo hcl hpkt
  match ident, flags, tipo, hident, hflags, htipo with
  | [i₁, i₂], [f₁, f₂], [t₁, t₂], _, _, _ =>
      have hboth : cab ++ (e.qname ++ 0 :: t₁ :: t₂ :: (cl ++ resto))
          = [i₁, i₂, f₁, f₂, 0, 1, 0, 0, 0, 0, 0, 0] ++ (wire ls ++ ([0, 28] ++ bytes16 clase)) := by
        have heq := hpkt.symm.trans hdatos
        simpa using heq
      obtain ⟨rfl, hrest⟩ := List.append_inj hboth hcab
      have hlen := congrArg List.length hrest
      simp only [List.length_append, List.length_cons, List.length_nil, length_bytes16, hcl] at hlen
      have hshort := h.nombre.short
      refine ⟨i₁, i₂, t₁, t₂, cl, r, hcl, by omega, ?_, harmar⟩
      rw [DnsQQueue.sizeAux_eq hcab rfl hcl hpkt, hr]

lemma exists_bytes (v : UChar) : ∃ a : In6Addr, a.bytes = List.replicate 16 v := by
  refine ⟨⟨fun _ => v ++ v⟩, ?_⟩
  have hlow : (v ++ v).setWidth 8 = v := by
    rw [BitVec.setWidth_append, dif_pos le_rfl, BitVec.setWidth_eq]
  have hhigh : ((v ++ v) >>> 8).setWidth 8 = v := by
    apply BitVec.eq_of_toNat_eq
    rw [BitVec.toNat_setWidth, BitVec.toNat_ushiftRight, BitVec.toNat_append,
      ← Nat.shiftLeft_add_eq_or_of_lt v.isLt, Nat.shiftLeft_eq, Nat.shiftRight_eq_div_pow,
      show 2 ^ 8 = 256 from rfl]
    have hdiv : (v.toNat * 256 + v.toNat) / 256 = v.toNat := by
      have hv := v.isLt
      omega
    rw [hdiv, Nat.mod_eq_of_lt v.isLt]
  rw [In6Addr.bytes]
  simp only [hlow, hhigh]
  rfl

/-- In a datagram with the question and its copy, no two octets behind the first name are those of a type
that the copy has: what stands before them is the name, which has no zero. -/
lemma not_tipo_aaaa {i₁ i₂ t₁ t₂ : UChar} {m q cola : List UChar} {o : ℕ}
    (hcola : m = cabeceraDns i₁ i₂ ++ (q ++ 0 :: t₁ :: t₂ :: 0 :: 1 :: (q ++ 0 :: t₁ :: t₂ :: cola)))
    (hstr : CStr q) (hmin : 12 + q.length + 2 ≤ o) (hmax : o < 12 + q.length + 5 + q.length)
    (hzero : m[o]? = some 0) (h28 : m[o + 1]? = some 28)
    (hanswer : m[12 + q.length + (q.length + 2 + 5)]? = some 28) : False := by
  have hget (i : ℕ) : m[12 + q.length + i]?
      = (0 :: t₁ :: t₂ :: 0 :: 1 :: (q ++ 0 :: t₁ :: t₂ :: cola))[i]? := by
    have hlen : (cabeceraDns i₁ i₂ ++ q).length = 12 + q.length := List.length_append
    rw [hcola, ← List.append_assoc, ← hlen, List.getElem?_append_right (Nat.le_add_right _ _),
      Nat.add_sub_cancel_left]
  have ht₂ : t₂ = 28 := by
    rw [hget] at hanswer
    change (q ++ 0 :: t₁ :: t₂ :: cola)[q.length + 2]? = _ at hanswer
    rw [List.getElem?_append_right (Nat.le_add_right _ _), Nat.add_sub_cancel_left] at hanswer
    exact Option.some.inj hanswer
  obtain ⟨j, rfl⟩ := Nat.exists_eq_add_of_le hmin
  rw [show 12 + q.length + 2 + j = 12 + q.length + (j + 2) by omega, hget] at hzero
  rw [show 12 + q.length + 2 + j + 1 = 12 + q.length + (j + 3) by omega, hget] at h28
  match j with
  | 0 =>
      have ht₂' : t₂ = 0 := Option.some.inj hzero
      exact absurd (ht₂.symm.trans ht₂') (by decide)
  | 1 => exact absurd (Option.some.inj h28) (by decide)
  | 2 => exact absurd (Option.some.inj hzero) (by decide)
  | j + 3 =>
      change (q ++ 0 :: t₁ :: t₂ :: cola)[j]? = _ at hzero
      rw [List.getElem?_append_left (by omega)] at hzero
      exact hstr 0 (List.mem_of_getElem? hzero) rfl

/-- **A datagram whose question is cut short** is not well formed, for an address with one octet only that
is rare elsewhere. -/
lemma not_bienFormada_cero {i₁ i₂ b t₁ t₂ v : UChar} {pre : Name} {l₁ cl r : List UChar} {k : ℕ}
    (hpre : ∀ l ∈ pre, 1 ≤ l.length ∧ l.length ≤ 63) (hb : b ≠ 0) (hlt : b.toNat < 64)
    (hlabel : l₁.length < b.toNat) {q : List UChar} (hq : q = pre.flatMap wireLabel ++ b :: l₁) (hstr : CStr q)
    (hcl : cl.length = 2) {p s : List UChar}
    (hp : p = cabeceraDns i₁ i₂ ++ (q ++ 0 :: t₁ :: t₂ :: 0 :: 1 :: (q ++ 0 :: t₁ :: t₂ :: cl))
      ++ DnsQQueue.ttlLargo)
    (hs : s = DnsQQueue.autoridad ++ r) (h16 : v ≠ 16) (h192 : v ≠ 192) (hrare : (p ++ s).count v < 16)
    (hk : 12 + q.length ≤ k) :
    ¬ BienFormada ((p ++ (List.replicate 16 v ++ s)).take k) ⟨ls, 28, clase⟩ (List.replicate 16 v) := by
  rintro ⟨msg, hmsg, hquestions, ⟨rec, hanswers, -, htype, -, hdata⟩, -⟩
  obtain ⟨m, hm⟩ : ∃ m, p ++ (List.replicate 16 v ++ s) = m := ⟨_, rfl⟩
  rw [hm] at hmsg
  have hpart {i : ℕ} {x : UChar} (hx : (m.take k)[i]? = some x) : m[i]? = some x := by
    rw [List.getElem?_take] at hx
    split_ifs at hx
    exact hx
  -- the string of the question, with what stands behind it
  obtain ⟨cola, hcola⟩ : ∃ cola, m = cabeceraDns i₁ i₂ ++ (q ++ 0 :: t₁ :: t₂ :: 0 :: 1
      :: (q ++ 0 :: t₁ :: t₂ :: cola)) := by
    refine ⟨cl ++ DnsQQueue.ttlLargo ++ (List.replicate 16 v ++ s), ?_⟩
    rw [← hm, hp]
    simp
  obtain ⟨resto, hresto⟩ : ∃ resto, m.take k = cabeceraDns i₁ i₂ ++ (q ++ resto) := by
    obtain ⟨j, rfl⟩ := Nat.exists_eq_add_of_le hk
    have hlen : 12 + q.length + j = (cabeceraDns i₁ i₂ ++ q).length + j := by
      rw [List.length_append]
      rfl
    rw [hcola, ← List.append_assoc, hlen, List.take_length_add_append, List.append_assoc]
    exact ⟨_, rfl⟩
  have hnombre : (m.take k).drop 12 = pre.flatMap wireLabel ++ b :: (l₁ ++ resto) := by
    rw [hresto]
    change q ++ resto = _
    rw [hq]
    simp
  rw [Option.mem_def, parse_one (by rw [hresto]; rfl) (by rw [hresto]; rfl) (by rw [hresto]; rfl)
    (by rw [hresto]; rfl)] at hmsg
  obtain ⟨qq, hqq, hmsg⟩ := Option.bind_eq_some_iff.mp hmsg
  obtain ⟨an, han, hmsg⟩ := Option.bind_eq_some_iff.mp hmsg
  obtain ⟨ns, -, hmsg⟩ := Option.bind_eq_some_iff.mp hmsg
  obtain ⟨ar, -, hmsg⟩ := Option.bind_eq_some_iff.mp hmsg
  split_ifs at hmsg
  obtain rfl := Option.some.inj hmsg
  obtain rfl : an.1 = rec := List.head_eq_of_cons_eq hanswers
  have hqtype : qq.1.1.qtype = 28 := congrArg Question.qtype (List.head_eq_of_cons_eq hquestions)
  obtain ⟨o₁, hname₁, htype₁, hend₁⟩ := of_readQuestion hqq
  obtain ⟨o₂, hname₂, htype₂, hdata₂⟩ := of_readRecord han
  rw [hqtype] at htype₁
  replace htype : an.1.type = 28 := htype
  rw [htype] at htype₂
  rw [hend₁] at hname₂
  -- the data is where the address has been written
  have hfin : o₂ + 10 = p.length := by
    rw [hdata, List.length_replicate] at hdata₂
    have hslice : slice m (o₂ + 10) 16 = List.replicate 16 v := by
      rw [← slice_take (k := k) (by rw [hdata₂, List.length_replicate]), hdata₂]
    rw [← hm] at hslice
    refine eq_of_slice_replicate ?_ ?_ hrare hslice
    · rw [hp, List.getLast?_append]
      exact fun hlast => h16 (Option.some.inj hlast).symm
    · rw [hs]
      exact fun hfirst => h192 (Option.some.inj hfirst).symm
  have hplen : p.length = 2 * q.length + 28 := by
    rw [hp]
    simp only [cabeceraDns, DnsQQueue.ttlLargo, List.length_append, List.length_cons, List.length_nil, hcl]
    omega
  have hmin := lt_snd_of_labels hpre hnombre hb hlt (Option.filter_eq_some_iff.mp hname₁).1
  have hmax := lt_snd_of_readName (Option.filter_eq_some_iff.mp hname₂).1
  have hqlen : q.length = (pre.flatMap wireLabel).length + 1 + l₁.length := by
    rw [hq, List.length_append, List.length_cons]
    omega
  dsimp only at hmin hmax
  -- the two octets of the type, and those they would have to be
  obtain ⟨hzero, h28⟩ := getElem?_of_u16 htype₁ (by decide)
  obtain ⟨-, hanswer⟩ := getElem?_of_u16 htype₂ (by decide)
  rw [show o₂ + 1 = 12 + q.length + (q.length + 2 + 5) by omega] at hanswer
  exact not_tipo_aaaa hcola hstr (by omega) (by omega) (hpart hzero) (hpart h28) (hpart hanswer)

/-- **A name with a zero** is not answered as it should be for every address. -/
lemma ConsultaAAAA.exists_mal (h : ConsultaAAAA e ls clase) (hc : ¬ SinCeros ls) (heap : ℕ → UChar)
    (propia : In6Addr) : ∃ primAddr, ¬ BienRespondida e ls clase heap propia primAddr := by
  obtain ⟨pre, b, l₁, hpre, hb, hlt, hlabel, hq⟩ := h.exists_cero hc
  obtain ⟨i₁, i₂, t₁, t₂, cl, r, hcl, hshort, hsize, harmar⟩ := h.exists_armar_partes heap
  obtain ⟨p, hp⟩ : ∃ p, p = cabeceraDns i₁ i₂ ++ (e.qname ++ 0 :: t₁ :: t₂ :: 0 :: 1
      :: (e.qname ++ 0 :: t₁ :: t₂ :: cl)) ++ DnsQQueue.ttlLargo := ⟨_, rfl⟩
  obtain ⟨s, hs⟩ : ∃ s, s = DnsQQueue.autoridad ++ (DnsQQueue.adicional ++ r) := ⟨_, rfl⟩
  have hlen : (p ++ s).length < 600 := by
    rw [hp, hs]
    simp only [cabeceraDns, DnsQQueue.ttlLargo, DnsQQueue.autoridad, DnsQQueue.adicional, List.length_append,
      List.length_cons, List.length_nil, List.length_replicate, hcl]
    omega
  -- an octet that is neither the one before the address nor the one behind it
  have hcard : ((Finset.range 100).image fun i => (BitVec.ofNat 8 (i + 17) : UChar)).card = 100 := by
    rw [Finset.card_image_of_injOn, Finset.card_range]
    intro i hi j hj heq
    have hval := congrArg BitVec.toNat heq
    simp only [Finset.coe_range, Set.mem_Iio] at hi hj
    simp only [BitVec.toNat_ofNat] at hval
    omega
  obtain ⟨v, hv, hrare⟩ := exists_count_lt (n := 16) (hlen.trans (by rw [hcard]; decide))
  obtain ⟨i, hi, rfl⟩ := Finset.mem_image.mp hv
  rw [Finset.mem_range] at hi
  have hne (n : ℕ) (hn : n = 16 ∨ n = 192) : BitVec.ofNat 8 (i + 17) ≠ BitVec.ofNat 8 n := by
    intro heq
    have hval := congrArg BitVec.toNat heq
    simp only [BitVec.toNat_ofNat] at hval
    omega
  obtain ⟨primAddr, hbytes⟩ := exists_bytes (BitVec.ofNat 8 (i + 17))
  refine ⟨primAddr, ?_⟩
  rintro ⟨data, hdata, envio, henvio, hbien⟩
  obtain ⟨k, hk, hsent⟩ : ∃ k, 12 + e.qname.length ≤ k ∧ envio.datagrama = data.take k := by
    unfold DnsQQueue.enviar at henvio
    split_ifs at henvio
    · obtain rfl := List.head_eq_of_cons_eq henvio
      exact ⟨_, by omega, rfl⟩
    · obtain rfl := List.head_eq_of_cons_eq henvio
      exact ⟨_, by omega, rfl⟩
  obtain rfl := Option.some.inj ((harmar primAddr).symm.trans hdata)
  have hparts : cabeceraDns i₁ i₂ ++ (e.respuesta [t₁, t₂] cl primAddr ++ r)
      = p ++ (List.replicate 16 (BitVec.ofNat 8 (i + 17)) ++ s) := by
    rw [hp, hs, ← hbytes]
    simp [DnsQQueue.respuesta]
  rw [hsent, hparts, hbytes] at hbien
  exact not_bienFormada_cero hpre hb hlt hlabel hq (CStr.of_cstr e.cstr_qname) hcl hp hs (hne 16 (Or.inl rfl))
    (hne 192 (Or.inr rfl)) hrare hk hbien

end ConCeros

/-! ## Well-formed answers -/

/-- **The answers to a query** are well formed, whatever the address, exactly when the query came to the
port of DNS, asks for the class `IN`, has no zero in its labels, and has one that starts at the octet 21. -/
theorem bien_respondida {e : DnsQQueue} {ls : Name} {clase : ℕ} (h : ConsultaAAAA e ls clase) :
    (∀ heap propia primAddr, BienRespondida e ls clase heap propia primAddr)
      ↔ SinCeros ls ∧ htons e.srcPort = dnsPort ∧ clase = 1 ∧ PunteroAEtiqueta ls := by
  by_cases hc : SinCeros ls
  · have hall (heap propia primAddr) := h.bienRespondida_iff hc heap propia primAddr
    simp only [hall]
    exact ⟨fun hcond => ⟨hc, hcond (fun _ => 0) .zero .zero⟩, fun hcond _ _ _ => hcond.2⟩
  · refine iff_of_false (fun hall => ?_) fun hcond => hc hcond.1
    obtain ⟨primAddr, hmal⟩ := h.exists_mal hc (fun _ => 0) .zero
    exact hmal (hall _ _ _)

/-- A query for a name with one label of eight letters. -/
def consultaAbcdefgh : DnsQQueue :=
  { Consultas.consultaN1 with
    pkt := List.replicate 80 0 ++ [0, 7, 1, 0, 0, 1, 0, 0, 0, 0, 0, 0]
      ++ [8, 97, 98, 99, 100, 101, 102, 103, 104, 0, 0, 28, 0, 1]
    completa := by decide }

/-- A label of eight letters ends at the octet 21. -/
theorem bien_respondida_abcdefgh :
    BienRespondida consultaAbcdefgh [[97, 98, 99, 100, 101, 102, 103, 104]] 1 (fun _ => 0) .zero .zero :=
  (bien_respondida ⟨by decide, by decide, [0, 7], [1, 0], rfl, rfl, by decide⟩).mpr
    ⟨by unfold SinCeros CStr; decide, by decide, rfl, by decide⟩ _ _ _

/-- In the answer for `n1`, the pointers lead into the middle of a label. -/
theorem puntero_a_medias :
    ¬ ∀ (e : DnsQQueue) (ls : Name) (clase : ℕ) (heap : ℕ → UChar) (propia primAddr : In6Addr),
      ConsultaAAAA e ls clase → BienRespondida e ls clase heap propia primAddr := by
  intro hall
  have h : ConsultaAAAA Consultas.consultaN1 [[110, 49]] 1 :=
    ⟨by decide, by decide, [0, 7], [1, 0], rfl, rfl, by decide⟩
  have hc : SinCeros [[110, 49]] := by
    unfold SinCeros CStr
    decide
  have hbien := hall _ _ _ (fun _ => 0) .zero .zero h
  rw [h.bienRespondida_iff hc] at hbien
  exact absurd hbien.2.2 (by decide)

end Antop
