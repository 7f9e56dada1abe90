import Antop.State
import Antop.Library.CString
import Antop.Library.Memory

/-!
# The address a packet comes from

A node writes its primary address into a Destination Options header of every packet it originates, 32
bytes between the IPv6 header and the payload, and the next node reads it there, at
`FROM_ADDR_OFFSET`.  The header is made by `print_pkt` in the hook `LOCAL_OUT`, `cb` returns the
verdict with which the kernel sends the packet on, and `route` reads in the hook `PRE_ROUTING`.

* `printPkt`, `cb` — the packet in user space, and what the kernel is told to emit.
* `fromAddr_conOpcion` — the packet `print_pkt` makes has the address where `route` reads it.
* `traspaso_iff` — `cb` does not have it emitted: the address arrives only when the packet had those
  bytes before.
-/

namespace Antop

open Memory

/-! ## Packets as bytes -/

/-- An address as it lies in memory: the low byte of a word comes first. -/
def In6Addr.bytes (a : In6Addr) : List UChar :=
  (List.finRange 8).flatMap fun i =>
    [(a.s6Addr16 i).setWidth 8, (a.s6Addr16 i >>> 8).setWidth 8]

@[simp] lemma In6Addr.length_bytes (a : In6Addr) : a.bytes.length = 16 := rfl

/-- An IPv6 packet: its header is complete. -/
structure Ipv6Pkt where
  bytes : List UChar
  cabecera : 40 ≤ bytes.length

/-- The byte at an offset. -/
def byte (data : List UChar) (i : ℕ) : UChar := data.getD i 0

/-- A field of two bytes, in network order. -/
def campo16 (data : List UChar) (i : ℕ) : ℕ := (byte data i).toNat * 256 + (byte data (i + 1)).toNat

/-- A number as a field of two bytes. -/
def bytes16 (v : ℕ) : List UChar := [BitVec.ofNat 8 (v / 256), BitVec.ofNat 8 v]

@[simp] lemma length_bytes16 (v : ℕ) : (bytes16 v).length = 2 := rfl

/-! ## Checksums -/

/-- `cksum_sum` in network order; `ret` is the last word read.  An odd byte replaces its low byte. -/
def cksumSum : List UChar → ℕ → ℕ
  | a :: b :: w, _ =>
      let ret := a.toNat * 256 + b.toNat
      ret + cksumSum w ret
  | [a], ret => ret / 256 * 256 + a.toNat
  | [], _ => 0

/-- The end of both checksums: the carries are added, and the sum is complemented. -/
def cksumFin (sum : ℕ) : ℕ :=
  let sum := sum / 65536 + sum % 65536
  let sum := sum + sum / 65536
  65535 - sum % 65536

/-- What both checksums add up: the addresses, the length, the protocol, the fields of the header and
the payload. -/
def cksum (protocolo : ℕ) (campos : List ℕ) (data : List UChar) (payL ipv6PayL : ℕ) : ℕ :=
  cksumFin (cksumSum (slice data 8 16) 0 + cksumSum (slice data 24 16) 0 + ipv6PayL % 65536 + protocolo
    + (campos.map (campo16 data)).sum + cksumSum (slice data 80 payL) 0)

/-- `icmpv6_cksum`. -/
def icmpv6Cksum : List UChar → ℕ → ℕ → ℕ := cksum 0x3a [72, 76, 78]

/-- `udp_cksum`. -/
def udpCksum : List UChar → ℕ → ℕ → ℕ := cksum 0x11 [72, 74, 76]

/-! ## `print_pkt` -/

/-- The five hooks. -/
inductive Hook
  | preRouting | localIn | forward | localOut | postRouting

/-- What `print_pkt` uses of a node: its primary address, and `nat_table`, the sources that are set for
some destinations. -/
structure Origen where
  primAddr : In6Addr
  natTable : List (In6Addr × In6Addr)

/-- `data`: the packet with 32 zeros behind it. -/
def copia (p : List UChar) : List UChar := p ++ List.replicate 32 0

/-- A neighbour solicitation or advertisement, which `print_pkt` leaves as it is. -/
def esVecindad (p : List UChar) : Prop := byte p 6 = 58 ∧ (byte p 40 = 135 ∨ byte p 40 = 136)

instance (p : List UChar) : Decidable (esVecindad p) := by
  unfold esVecindad
  infer_instance

/-- The maximum segment size of a TCP packet with the flag `SYN` is changed. -/
def conSyn (p : List UChar) : List UChar :=
  if byte p 6 = 6 ∧ byte p 53 = 2 then
    let p := put p 63 [0x80]
    put p 59 [byte p 59 + 32]
  else p

/-- The packet with the Destination Options header. -/
def conFrom (primAddr : In6Addr) (p : List UChar) : List UChar :=
  let ret := p.length
  let data := copia p
  let data := put data 3 [byte data 3 ||| 4]
  let data := put data 72 ((conSyn p).drop 40)
  let data := put data 4 (bytes16 (ret + 32 - 40))
  let data := put data 7 [10]
  let data := put data 40 [byte data 6]
  let data := put data 6 [60]
  -- the length of the header, a `PadN` of ten zeros, and type and length of the option
  let data := put data 41 ([3, 1, 10] ++ List.replicate 10 0 ++ [16, 16])
  put data 56 primAddr.bytes

/-- The checksum of an ICMPv6 packet. -/
def conIcmp (ret : ℕ) (data : List UChar) : List UChar :=
  put data 74 (bytes16 (icmpv6Cksum data (ret - 40 - 8) (ret - 40)))

/-- A standard query for an address, which is answered by `answer_dns_query`. -/
def esConsulta (data : List UChar) : Prop :=
  campo16 data 72 ∉ [5353, 4469, 4473] ∧ campo16 data 74 ∈ [5353, 53] ∧ byte data 85 = 1
    ∧ byte data 82 = 1 ∧ byte data (80 + 12 + ((data.drop 92).takeWhile (· ≠ 0)).length + 2) = 28

instance (data : List UChar) : Decidable (esConsulta data) := by
  unfold esConsulta
  infer_instance

/-- The address of the DNS server, `2001:db8::c`. -/
def dnsServer : In6Addr := .ofWords 0x0120 0xb80d 0 0 0 0 0 0x0c00

/-- An answer of the own DNS server gets its port and address. -/
def conPuertoDns (ret : ℕ) (data : List UChar) : List UChar :=
  if campo16 data 72 = 4477 ∧ campo16 data 74 ≠ 4477 then
    let data := put data 72 (bytes16 53)
    let data := put data 8 dnsServer.bytes
    put data 78 (bytes16 (udpCksum data (ret - 40 - 8) (ret - 40)))
  else data

/-- A rendezvous packet is marked. -/
def conMarcaRv (data : List UChar) : List UChar :=
  if byte data 74 = 0x11 ∧ byte data 75 = 0x75 ∧ byte data 80 ∈ [9, 10, 11] then
    put data 3 [byte data 3 ||| 2]
  else data

/-- What is done with a UDP packet. -/
def conUdp (primAddr : In6Addr) (ret : ℕ) (data : List UChar) : List UChar :=
  let data := if esConsulta data then put data 8 primAddr.bytes else data
  conMarcaRv (conPuertoDns ret data)

/-- The source address is replaced when `nat_table` has an entry for the destination. -/
def conNat (natTable : List (In6Addr × In6Addr)) (data : List UChar) : List UChar :=
  match natTable.find? fun e => slice data 24 16 = e.1.bytes with
  | some e => put data 8 e.2.bytes
  | none => data

/-- The packet `print_pkt` makes in `LOCAL_OUT`, as it gives it to `route`. -/
def conOpcion (o : Origen) (p : List UChar) : List UChar :=
  let data := conFrom o.primAddr p
  let data := if byte p 6 = 58 then conIcmp p.length data else data
  let data := if byte p 6 = 17 then conUdp o.primAddr p.length data else data
  conNat o.natTable data

/-- `print_pkt`: the packet in user space, its size and whether it is accepted.  `ruta` is `route`, which
may change flags and hop limit and may ask for the packet to be dropped. -/
def printPkt (ruta : Hook → List UChar → List UChar × Bool) (o : Origen) (hook : Hook)
    (p : List UChar) : List UChar × ℕ × Bool :=
  match hook with
  | .forward => ((ruta .forward (copia p)).1, p.length, true)
  | .localIn => (copia p, p.length, true)
  | .preRouting => ((ruta .preRouting (copia p)).1, p.length, !(ruta .preRouting (copia p)).2)
  | .localOut =>
      if esVecindad p then (copia p, p.length, true)
      else ((ruta .localOut (conOpcion o p)).1, p.length + 32, true)
  | .postRouting => (copia p, p.length, true)

/-! ## Verdicts -/

/-- A verdict of `nfq_set_verdict`: the packet goes on as it is, with length 0 and no data, or with the
data supplied, or is dropped. -/
inductive Veredicto
  | sinCambios
  | con (data : List UChar)
  | descartado

/-- What the kernel emits. -/
def Veredicto.emite (p : List UChar) : Veredicto → Option (List UChar)
  | .sinCambios => some p
  | .con data => some data
  | .descartado => none

/-- `cb`. -/
def cb (ruta : Hook → List UChar → List UChar × Bool) (o : Origen) (hook : Hook) (p : List UChar) :
    Veredicto :=
  let (data, pktSize, accept) := printPkt ruta o hook p
  match hook with
  | .localOut => .sinCambios
  | .preRouting => if accept then .con (data.take pktSize) else .descartado
  | _ => .con (data.take pktSize)

/-- What a node puts on the link for a packet it originates: it passes the hooks `LOCAL_OUT` and
`POST_ROUTING`. -/
def originar (ruta : Hook → List UChar → List UChar × Bool) (o : Origen) (p : List UChar) :
    Option (List UChar) :=
  ((cb ruta o .localOut p).emite p).bind fun q => (cb ruta o .postRouting q).emite q

/-- The bytes `route` reads at `FROM_ADDR_OFFSET`. -/
def fromAddr (data : List UChar) : List UChar := slice data 56 16

/-- The next node gets the packet, and what `route` reads in `PRE_ROUTING` as the address it comes from
is the primary address of the node it comes from. -/
def Traspaso (ruta : Hook → List UChar → List UChar × Bool) (o : Origen) (p : List UChar) : Prop :=
  ∃ q, originar ruta o p = some q ∧ fromAddr (copia q) = o.primAddr.bytes

/-! ## The encoder -/

/-- Writes beside the address. -/
lemma fromAddr_put {data bs : List UChar} {off : ℕ} (h : 72 ≤ off ∨ off + bs.length ≤ 56) :
    fromAddr (put data off bs) = fromAddr data :=
  slice_put_of_disjoint h

lemma fromAddr_conIcmp (ret : ℕ) (data : List UChar) : fromAddr (conIcmp ret data) = fromAddr data :=
  fromAddr_put (by simp)

lemma fromAddr_conUdp (primAddr : In6Addr) (ret : ℕ) (data : List UChar) :
    fromAddr (conUdp primAddr ret data) = fromAddr data := by
  have hconsulta (d : List UChar) :
      fromAddr (if esConsulta d then put d 8 primAddr.bytes else d) = fromAddr d := by
    split_ifs
    · exact fromAddr_put (by simp)
    · rfl
  have hpuerto (d : List UChar) : fromAddr (conPuertoDns ret d) = fromAddr d := by
    unfold conPuertoDns
    split_ifs
    · exact ((fromAddr_put (by simp)).trans (fromAddr_put (by simp))).trans (fromAddr_put (by simp))
    · rfl
  have hmarca (d : List UChar) : fromAddr (conMarcaRv d) = fromAddr d := by
    unfold conMarcaRv
    split_ifs
    · exact fromAddr_put (by simp)
    · rfl
  exact ((hmarca _).trans (hpuerto _)).trans (hconsulta data)

lemma fromAddr_conNat (natTable : List (In6Addr × In6Addr)) (data : List UChar) :
    fromAddr (conNat natTable data) = fromAddr data := by
  unfold conNat
  split
  · exact fromAddr_put (by simp)
  · rfl

/-- **`print_pkt` writes the address** where `route` reads it. -/
theorem fromAddr_conOpcion (o : Origen) (p : Ipv6Pkt) :
    fromAddr (conOpcion o p.bytes) = o.primAddr.bytes := by
  have hfrom : fromAddr (conFrom o.primAddr p.bytes) = o.primAddr.bytes := by
    have hlargo := p.cabecera
    refine slice_put_self ?_
    simp [copia]
    omega
  unfold conOpcion
  rw [fromAddr_conNat, ← hfrom]
  split_ifs
  · exact (fromAddr_conUdp _ _ _).trans (fromAddr_conIcmp _ _)
  · exact fromAddr_conUdp _ _ _
  · exact fromAddr_conIcmp _ _
  · rfl

lemma length_conOpcion (o : Origen) (p : List UChar) : (conOpcion o p).length = p.length + 32 := by
  have hfrom : (conFrom o.primAddr p).length = p.length + 32 := by simp [conFrom, copia]
  have hicmp (d : List UChar) : (conIcmp p.length d).length = d.length := length_put _ _ _
  have hudp (d : List UChar) : (conUdp o.primAddr p.length d).length = d.length := by
    unfold conUdp conMarcaRv conPuertoDns
    dsimp only
    split_ifs <;> simp
  have hnat (d : List UChar) : (conNat o.natTable d).length = d.length := by
    unfold conNat
    split <;> simp
  unfold conOpcion
  rw [hnat]
  split_ifs
  · rw [hudp, hicmp, hfrom]
  · rw [hudp, hfrom]
  · rw [hicmp, hfrom]
  · exact hfrom

/-- Emitted with the size `print_pkt` returns, it would hand the address over. -/
theorem fromAddr_emitida (o : Origen) (p : Ipv6Pkt) :
    fromAddr (copia ((conOpcion o p.bytes).take (p.bytes.length + 32))) = o.primAddr.bytes := by
  have hlargo := p.cabecera
  rw [← length_conOpcion o, List.take_length, copia, fromAddr, slice_append_of_le]
  · exact fromAddr_conOpcion o p
  · rw [length_conOpcion]
    omega

/-! ## The verdict -/

lemma take_copia (p : List UChar) : (copia p).take p.length = p := by
  rw [copia, List.take_append_of_le_length (Nat.le_refl _), List.take_length]

/-- A packet goes out as it was. -/
lemma originar_eq (ruta : Hook → List UChar → List UChar × Bool) (o : Origen) (p : List UChar) :
    originar ruta o p = some p := by
  change some ((copia p).take p.length) = some p
  rw [take_copia]

/-- **When the address is handed over.**  The packet goes out without the header, so the next node
reads 16 bytes of what the packet was, with zeros behind it. -/
theorem traspaso_iff (ruta : Hook → List UChar → List UChar × Bool) (o : Origen) (p : Ipv6Pkt) :
    Traspaso ruta o p.bytes
      ↔ slice (p.bytes ++ List.replicate 32 0) 56 16 = o.primAddr.bytes := by
  rw [Traspaso, originar_eq]
  constructor
  · rintro ⟨_, ⟨⟩, hfrom⟩
    exact hfrom
  · intro hfrom
    exact ⟨_, rfl, hfrom⟩

/-- An echo request without data from the first child of the root to the root. -/
def ecoAlRoot : Ipv6Pkt where
  bytes := [0x60, 0, 0, 0, 0, 8, 58, 64] ++ (slotAddr root 0).bytes ++ root.bytes
    ++ [128, 0, 0, 0, 0, 1, 0, 1]
  cabecera := by decide

/-- The root reads zeros. -/
theorem from_addr_lost :
    ¬ ∀ (ruta : Hook → List UChar → List UChar × Bool) (o : Origen) (p : Ipv6Pkt),
      Traspaso ruta o p.bytes := by
  intro h
  obtain ⟨q, hq, hfrom⟩ := h (fun _ data => (data, false)) ⟨slotAddr root 0, []⟩ ecoAlRoot
  rw [originar_eq] at hq
  obtain rfl := Option.some.inj hq
  exact absurd hfrom (by decide)

end Antop
