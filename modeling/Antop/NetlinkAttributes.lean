import Antop.Netlink

/-!
# Attributes that are built and read

A message is built in a buffer that is not initialised, attribute by attribute, and read by a walk over it.

* `Atributo`, `nlattr` — an attribute, and how attributes lie in memory.
* `mnlAttrForEach_eq` — the walk of the code is the walk over that format, so that it stays in the message, where
  its length is no negative `int`.
* `Construido` — the message holds some attributes; `Construido.mnlAttrPut` adds one.
* **`mnlAttrParse_put`** — a parser gets the attributes that have been put, in their order, whatever was in the
  buffer before.
-/

namespace Antop

open Memory Chain

/-! ## Attributes in memory -/

/-- An attribute, whose length fits in its field. -/
structure Atributo where
  tipo : BitVec 16
  datos : List UChar
  cabe : datos.length + 4 < 65536

/-- An attribute as it lies in memory, without the bytes behind it. -/
def Atributo.bytes (a : Atributo) : List UChar :=
  LittleEndian.bytes 2 (a.datos.length + 4) ++ LittleEndian.bytes 2 a.tipo.toNat ++ a.datos

@[simp] lemma Atributo.length_bytes (a : Atributo) : a.bytes.length = a.datos.length + 4 := by
  simp [Atributo.bytes]
  omega

/-- The type and the payload. -/
def Atributo.par (a : Atributo) : BitVec 16 × List UChar := (a.tipo, a.datos)

lemma hdr_nlattr_pos : 0 < 4 := by decide

/-- How attributes follow one another. -/
def nlattr : Format UChar where
  hdr := 4
  size h := campoHost h 0 2
  round := mnlAlign
  hdr_pos := hdr_nlattr_pos
  le_round := le_mnlAlign

lemma sizeAt_nlattr (m : List UChar) (attr : ℕ) : nlattr.sizeAt m attr = nlaLen m attr := by
  change LittleEndian.value (slice (slice m attr 4) 0 2) = nlaLen m attr
  rw [slice_slice (by decide), Nat.add_zero, nlaLen, campoHost]

lemma next_nlattr (m : List UChar) (attr : ℕ) : nlattr.next m attr = mnlAttrNext m attr := by
  rw [Format.next, sizeAt_nlattr]
  rfl

lemma fits_nlattr_iff (m : List UChar) (tail attr : ℕ) :
    nlattr.Fits m tail attr ↔ mnlAttrOk m attr (tail - attr) := by
  rw [Format.Fits, sizeAt_nlattr, mnlAttrOk]
  change attr + 4 ≤ tail ∧ 4 ≤ nlaLen m attr ∧ attr + nlaLen m attr ≤ tail ↔ _
  omega

/-- What follows an attribute that fits begins not far behind the tail. -/
lemma next_nlattr_le {m : List UChar} {tail attr : ℕ} (h : nlattr.Fits m tail attr) :
    attr ≤ nlattr.next m attr ∧ nlattr.next m attr < tail + 4 := by
  obtain ⟨-, -, hend⟩ := h
  rw [sizeAt_nlattr] at hend
  rw [next_nlattr, mnlAttrNext, mnlAlign]
  omega

/-- **The walk over attributes** is the walk over their format, where the bytes that remain fit in an `int`. -/
theorem mnlAttrForEach_eq (m : List UChar) {attr tail : ℕ} (h : tail < attr + 2 ^ 31)
    (h' : attr ≤ tail + 2 ^ 31) : mnlAttrForEach m attr tail = nlattr.walk m tail attr := by
  have hmap : visited (fun attr => mnlAttrOk m attr (restan tail attr)) (mnlAttrNext m) (tail - attr) (id attr)
      = (nlattr.walk m tail attr).map id := by
    refine visited_map id (P := fun a => tail < a + 2 ^ 31 ∧ a ≤ tail + 2 ^ 31) (fun a ha hfits => ?_)
      (fun a ha => ?_) (fun a _ _ => (next_nlattr m a).symm) (tail - attr) ⟨h, h'⟩
    · have hnext := next_nlattr_le hfits
      change tail < nlattr.next m a + 2 ^ 31 ∧ nlattr.next m a ≤ tail + 2 ^ 31
      omega
    · rw [id, restan_eq ha.1 ha.2]
      exact (fits_nlattr_iff m tail a).symm
  have hfuel : (restan tail attr).toNat = tail - attr := by
    rw [restan_eq h h']
    omega
  rw [List.map_id] at hmap
  rw [mnlAttrForEach, hfuel]
  exact hmap

/-- The type and the payload that are read. -/
def leer (m : List UChar) (attr : ℕ) : BitVec 16 × List UChar :=
  (BitVec.ofNat 16 (nlaType m attr), slice m (mnlAttrGetPayload attr) (mnlAttrGetPayloadLen m attr))

/-- The attribute lies at `attr`. -/
def Atributo.En (m : List UChar) (attr : ℕ) (a : Atributo) : Prop := slice m attr a.bytes.length = a.bytes

lemma proper_bytes (a : Atributo) : nlattr.Proper a.bytes := by
  refine ⟨?_, ?_⟩
  · rw [a.length_bytes]
    exact Nat.le_add_left 4 _
  · have hcabe := a.cabe
    have hhead : slice (a.bytes.take nlattr.hdr) 0 2 = LittleEndian.bytes 2 (a.datos.length + 4) := by
      rw [show a.bytes.take nlattr.hdr = LittleEndian.bytes 2 (a.datos.length + 4)
        ++ LittleEndian.bytes 2 a.tipo.toNat from List.take_left' (by simp; rfl), slice, List.drop_zero]
      exact List.take_left' (by simp)
    change LittleEndian.value (slice (a.bytes.take nlattr.hdr) 0 2) = _
    rw [hhead, LittleEndian.value_bytes (by omega), a.length_bytes]

section En

variable {m : List UChar} {attr : ℕ} {a : Atributo}

/-- What lies in an attribute. -/
lemma Atributo.En.slice_eq (h : a.En m attr) {i n : ℕ} (hin : i + n ≤ a.datos.length + 4) :
    slice m (attr + i) n = slice a.bytes i n := by
  rw [← slice_slice (n := a.bytes.length) (by simpa using hin), h]

lemma Atributo.En.nlaLen (h : a.En m attr) : nlaLen m attr = a.datos.length + 4 := by
  rw [← sizeAt_nlattr, Format.sizeAt_of_proper (proper_bytes a) h, a.length_bytes]

lemma Atributo.En.payloadLen (h : a.En m attr) : mnlAttrGetPayloadLen m attr = a.datos.length := by
  have hcabe := a.cabe
  rw [mnlAttrGetPayloadLen, h.nlaLen]
  omega

lemma Atributo.En.nlaType (h : a.En m attr) : nlaType m attr = a.tipo.toNat := by
  have hread : slice a.bytes 2 2 = LittleEndian.bytes 2 a.tipo.toNat := by
    rw [Atributo.bytes, List.append_assoc, slice, List.drop_left' (by simp)]
    exact List.take_left' (by simp)
  rw [Antop.nlaType, campoHost, h.slice_eq (by omega), hread, LittleEndian.value_bytes a.tipo.isLt]

lemma Atributo.En.payload (h : a.En m attr) : slice m (mnlAttrGetPayload attr) a.datos.length = a.datos := by
  rw [mnlAttrGetPayload, h.slice_eq (by omega), Atributo.bytes, slice, List.drop_left' (by simp), List.take_length]

/-- **An attribute is read** as it is. -/
lemma Atributo.En.leer (h : a.En m attr) : leer m attr = a.par := by
  rw [Antop.leer, h.nlaType, h.payloadLen, h.payload, BitVec.ofNat_toNat, BitVec.setWidth_eq, Atributo.par]

end En

/-- Attributes lie one behind another. -/
def Puestos (m : List UChar) (off : ℕ) (as : List Atributo) (tail : ℕ) : Prop :=
  nlattr.Laid m off (as.map Atributo.bytes) tail

/-- **What has been put** is what is visited. -/
theorem Puestos.forall₂ {m : List UChar} {off tail : ℕ} {as : List Atributo} (h : Puestos m off as tail)
    (hlen : tail < off + 2 ^ 31) :
    List.Forall₂ (fun attr a => a.En m attr) (mnlAttrForEach m off tail) as := by
  have hle : off ≤ tail := Format.Laid.le h
  have hwalk := Format.walk_of_laid (fun u hu => ?_) h
  · rw [mnlAttrForEach_eq m hlen (by omega)]
    exact (List.forall₂_map_right_iff (f := Atributo.bytes)).mp hwalk
  · obtain ⟨a, -, rfl⟩ := List.mem_map.mp hu
    exact proper_bytes a

/-- A parser that looks at types and payloads is run on the attributes. -/
theorem Puestos.mnlAttrParse {σ : Type*} {m : List UChar} {k : ℕ} {as : List Atributo}
    (h : Puestos m (16 + mnlAlign k) as (mnlNlmsgGetPayloadTail m 0)) (hlen : mnlNlmsgGetPayloadTail m 0 < 2 ^ 31)
    (cb : BitVec 16 × List UChar → σ → σ × ℤ) (data : σ) :
    mnlAttrParse m 0 k (fun attr => cb (leer m attr)) data
      = recorrer (fun p r => cb p r.1) (as.map Atributo.par) (data, mnlCbOk) := by
  have hall := h.forall₂ (by omega)
  rw [Antop.mnlAttrParse, mnlNlmsgGetPayloadOffset, Nat.zero_add]
  have hmap : (mnlAttrForEach m (16 + mnlAlign k) (mnlNlmsgGetPayloadTail m 0)).map (leer m)
      = as.map Atributo.par := by
    refine List.forall₂_eq_eq_eq ▸ List.forall₂_map_left_iff.mpr (List.forall₂_map_right_iff.mpr ?_)
    exact hall.imp fun attr a ha => ha.leer
  rw [← hmap]
  exact recorrer_map (fun p r => cb p r.1) (leer m) _ _

/-! ## Building -/

/-- The message at the start of `m` has an extra header of `k` bytes and these attributes. -/
structure Construido (m : List UChar) (k : ℕ) (as : List Atributo) : Prop where
  dentro : nlmsgLen m 0 ≤ m.length
  alineado : 4 ∣ nlmsgLen m 0
  puestos : Puestos m (16 + mnlAlign k) as (nlmsgLen m 0)

/-- The length is written. -/
lemma nlmsgLen_conNlmsgLen {m : List UChar} {len : ℕ} (hm : 4 ≤ m.length) (hlen : len < 2 ^ 32) :
    nlmsgLen (conNlmsgLen m 0 len) 0 = len := by
  rw [nlmsgLen, conNlmsgLen, campoHost_put_self len (by omega)]
  exact Nat.mod_eq_of_lt hlen

/-- Behind it nothing changes. -/
lemma slice_conNlmsgLen (m : List UChar) (len : ℕ) {i n : ℕ} (hi : 4 ≤ i) :
    slice (conNlmsgLen m 0 len) i n = slice m i n :=
  slice_put_of_disjoint (.inr (by simpa using hi))

@[simp] lemma length_conNlmsgLen (m : List UChar) (nlh len : ℕ) : (conNlmsgLen m nlh len).length = m.length :=
  length_put ..

lemma Puestos.of_slice {m m' : List UChar} {off tail : ℕ} {as : List Atributo} (h : Puestos m off as tail)
    (hsame : ∀ i n, off ≤ i → i + n ≤ tail → slice m' i n = slice m i n) : Puestos m' off as tail :=
  Format.Laid.of_slice h hsame

lemma nlmsgLen_mnlNlmsgPutHeader {buf : List UChar} (hbuf : 4 ≤ buf.length) :
    nlmsgLen (mnlNlmsgPutHeader buf) 0 = 16 :=
  nlmsgLen_conNlmsgLen (by rwa [length_put]) (by decide)

@[simp] lemma length_mnlNlmsgPutHeader (buf : List UChar) : (mnlNlmsgPutHeader buf).length = buf.length := by
  simp [mnlNlmsgPutHeader]

@[simp] lemma length_mnlNlmsgPutExtraHeader (m : List UChar) (nlh size : ℕ) :
    (mnlNlmsgPutExtraHeader m nlh size).length = m.length := by
  simp [mnlNlmsgPutExtraHeader]

/-- **The empty message** with its two headers. -/
lemma construido_nil {m : List UChar} {k : ℕ} (hm : nlmsgLen m 0 = 16) (hroom : 16 + mnlAlign k ≤ m.length)
    (hlen : m.length < 2 ^ 32) :
    Construido (mnlNlmsgPutExtraHeader m 0 k) k [] ∧ nlmsgLen (mnlNlmsgPutExtraHeader m 0 k) 0 = 16 + mnlAlign k := by
  have hk := le_mnlAlign k
  have hextra : nlmsgLen (mnlNlmsgPutExtraHeader m 0 k) 0 = 16 + mnlAlign k := by
    rw [mnlNlmsgPutExtraHeader, hm, nlmsgLen, campoHost_put_of_disjoint (.inl (by decide)), ← nlmsgLen]
    exact nlmsgLen_conNlmsgLen (by omega) (by omega)
  have hdvd := dvd_mnlAlign k
  refine ⟨⟨?_, ?_, ?_⟩, hextra⟩
  · rw [hextra, length_mnlNlmsgPutExtraHeader]
    exact hroom
  · rw [hextra]
    omega
  · rw [hextra]
    rfl

/-- The fields of the headers are set, but for the length. -/
lemma Construido.put {m : List UChar} {k : ℕ} {as : List Atributo} (h : Construido m k as) {off : ℕ}
    {bs : List UChar} (hoff : 4 ≤ off) (hbs : off + bs.length ≤ 16 + mnlAlign k) :
    Construido (Memory.put m off bs) k as ∧ nlmsgLen (Memory.put m off bs) 0 = nlmsgLen m 0 := by
  have hlen : nlmsgLen (Memory.put m off bs) 0 = nlmsgLen m 0 :=
    campoHost_put_of_disjoint (.inl (by omega))
  refine ⟨⟨?_, ?_, ?_⟩, hlen⟩
  · rw [hlen, length_put]
    exact h.dentro
  · rw [hlen]
    exact h.alineado
  · rw [hlen]
    exact h.puestos.of_slice fun i n hi _ => slice_put_of_disjoint (.inr (by omega))

lemma Construido.puts {m : List UChar} {k : ℕ} {as : List Atributo} (h : Construido m k as)
    {ws : List (ℕ × List UChar)} (hws : ∀ w ∈ ws, 4 ≤ w.1 ∧ w.1 + w.2.length ≤ 16 + mnlAlign k) :
    Construido (Memory.puts m ws) k as ∧ nlmsgLen (Memory.puts m ws) 0 = nlmsgLen m 0 := by
  induction ws generalizing m with
  | nil => exact ⟨h, rfl⟩
  | cons w ws ih =>
      obtain ⟨hoff, hbs⟩ := hws w (List.mem_cons_self ..)
      obtain ⟨hone, hlen⟩ := h.put hoff hbs
      obtain ⟨hall, hlen'⟩ := ih hone fun v hv => hws v (List.mem_cons_of_mem w hv)
      exact ⟨hall, hlen'.trans hlen⟩

section Paso

variable {m : List UChar} {k : ℕ} {as : List Atributo} {a : Atributo}

lemma Construido.desde (h : Construido m k as) : 16 + mnlAlign k ≤ nlmsgLen m 0 :=
  Format.Laid.le h.puestos

/-- The tail of a message that is built is its length. -/
lemma Construido.tail (h : Construido m k as) (hlen : m.length < 2 ^ 32) :
    mnlNlmsgGetPayloadTail m 0 = nlmsgLen m 0 := by
  have hdentro := h.dentro
  rw [mnlNlmsgGetPayloadTail, mnlAlign_of_dvd h.alineado, Nat.mod_eq_of_lt (by omega), Nat.zero_add]

lemma length_mnlAttrPut (m : List UChar) (type : ℕ) (data : List UChar) :
    (mnlAttrPut 0 m type data).length = m.length := by
  simp [mnlAttrPut]

/-- What `mnl_attr_put` leaves alone: all before the tail, but for the length. -/
lemma slice_mnlAttrPut (m : List UChar) (type : ℕ) (data : List UChar) {i n : ℕ} (hi : 4 ≤ i)
    (hn : i + n ≤ mnlNlmsgGetPayloadTail m 0) : slice (mnlAttrPut 0 m type data) i n = slice m i n := by
  rw [mnlAttrPut, slice_conNlmsgLen _ _ hi, mnlAttrGetPayload, slice_put_of_disjoint (.inl (by omega)),
    slice_put_of_disjoint (.inl (by omega)), slice_put_of_disjoint (.inl (by omega))]

/-- **One attribute.**  It lies at the tail. -/
lemma en_mnlAttrPut (htail : 4 ≤ mnlNlmsgGetPayloadTail m 0)
    (hroom : mnlNlmsgGetPayloadTail m 0 + a.bytes.length ≤ m.length) :
    a.En (mnlAttrPut 0 m a.tipo.toNat a.datos) (mnlNlmsgGetPayloadTail m 0) := by
  have hcabe := a.cabe
  rw [a.length_bytes] at hroom
  set t := mnlNlmsgGetPayloadTail m 0 with ht
  -- the three pieces that are written
  have hlen : slice (mnlAttrPut 0 m a.tipo.toNat a.datos) t 2 = LittleEndian.bytes 2 (a.datos.length + 4) := by
    rw [mnlAttrPut, slice_conNlmsgLen _ _ htail, ← ht, mnlAttrGetPayload, slice_put_of_disjoint (.inl (by omega)),
      Nat.mod_eq_of_lt (by omega), Nat.add_comm 4]
    exact slice_put_bytes _ (by rw [length_put]; omega)
  have htype : slice (mnlAttrPut 0 m a.tipo.toNat a.datos) (t + 2) 2 = LittleEndian.bytes 2 a.tipo.toNat := by
    rw [mnlAttrPut, slice_conNlmsgLen _ _ (by omega), ← ht, mnlAttrGetPayload,
      slice_put_of_disjoint (.inl (by omega)), slice_put_of_disjoint (.inr (by simp))]
    exact slice_put_bytes _ (by omega)
  have hdata : slice (mnlAttrPut 0 m a.tipo.toNat a.datos) (t + (2 + 2)) a.datos.length = a.datos := by
    rw [mnlAttrPut, slice_conNlmsgLen _ _ (by omega), ← ht, mnlAttrGetPayload]
    exact slice_put_self (by simp; omega)
  rw [Atributo.En, a.length_bytes, show a.datos.length + 4 = 2 + 2 + a.datos.length by omega, slice_add, slice_add,
    hlen, htype, hdata, Atributo.bytes]

/-- **The step.**  An attribute that fits in the buffer is added. -/
theorem Construido.mnlAttrPut (h : Construido m k as) (hlen : m.length < 2 ^ 32)
    (hroom : nlmsgLen m 0 + mnlAlign a.bytes.length ≤ m.length) :
    Construido (mnlAttrPut 0 m a.tipo.toNat a.datos) k (as ++ [a])
      ∧ nlmsgLen (mnlAttrPut 0 m a.tipo.toNat a.datos) 0 = nlmsgLen m 0 + mnlAlign a.bytes.length := by
  have hdesde := h.desde
  have halign := le_mnlAlign a.bytes.length
  have htail := h.tail hlen
  have hcabe := a.cabe
  have hnew : nlmsgLen (Antop.mnlAttrPut 0 m a.tipo.toNat a.datos) 0 = nlmsgLen m 0 + mnlAlign a.bytes.length := by
    rw [Atributo.length_bytes] at hroom halign
    rw [Antop.mnlAttrPut, mnlAttrGetPayload, htail, nlmsgLen, conNlmsgLen, campoHost_put_self _ (by simp; omega),
      nlmsgLen, campoHost_put_of_disjoint (.inl (by omega)), campoHost_put_of_disjoint (.inl (by omega)),
      campoHost_put_of_disjoint (.inl (by omega)), ← nlmsgLen, Nat.mod_eq_of_lt (by omega : 4 + a.datos.length < 65536),
      Atributo.length_bytes, Nat.add_comm 4]
    exact Nat.mod_eq_of_lt (by omega)
  have hdvd := h.alineado
  have hdvd' := dvd_mnlAlign a.bytes.length
  refine ⟨⟨?_, ?_, ?_⟩, hnew⟩
  · rw [hnew, length_mnlAttrPut]
    exact hroom
  · rw [hnew]
    omega
  · rw [hnew, Puestos, List.map_append, List.map_singleton]
    have hsame : Puestos (Antop.mnlAttrPut 0 m a.tipo.toNat a.datos) (16 + mnlAlign k) as (nlmsgLen m 0) :=
      h.puestos.of_slice fun i n hi hn => slice_mnlAttrPut m _ _ (by omega) (by omega)
    refine Format.Laid.append hsame ⟨?_, rfl⟩
    · rw [← htail]
      exact en_mnlAttrPut (by omega) (by omega)

end Paso

/-! ## Round trip -/

/-- Attributes are put one after another. -/
def ponerTodos (m : List UChar) (as : List Atributo) : List UChar :=
  as.foldl (fun m a => mnlAttrPut 0 m a.tipo.toNat a.datos) m

/-- The bytes that attributes take. -/
def ocupan (as : List Atributo) : ℕ := (as.map fun a => mnlAlign a.bytes.length).sum

lemma length_ponerTodos (m : List UChar) (as : List Atributo) : (ponerTodos m as).length = m.length := by
  induction as generalizing m with
  | nil => rfl
  | cons a as ih => exact (ih _).trans (length_mnlAttrPut m _ _)

/-- **The run.**  All attributes that fit in the buffer are added. -/
theorem Construido.ponerTodos {m : List UChar} {k : ℕ} {as bs : List Atributo} (h : Construido m k as)
    (hlen : m.length < 2 ^ 32) (hroom : nlmsgLen m 0 + ocupan bs ≤ m.length) :
    Construido (ponerTodos m bs) k (as ++ bs)
      ∧ nlmsgLen (Antop.ponerTodos m bs) 0 = nlmsgLen m 0 + ocupan bs := by
  induction bs generalizing m as with
  | nil =>
      rw [List.append_nil]
      exact ⟨h, rfl⟩
  | cons b bs ih =>
      have hocupan : ocupan (b :: bs) = mnlAlign b.bytes.length + ocupan bs := by simp [ocupan]
      obtain ⟨hone, hnew⟩ := h.mnlAttrPut hlen (a := b) (by omega)
      have hsize := length_mnlAttrPut m b.tipo.toNat b.datos
      obtain ⟨hall, hend⟩ := ih hone (by omega) (by omega)
      rw [List.append_assoc] at hall
      refine ⟨hall, hend.trans ?_⟩
      omega

/-- The headers stay, but for the length. -/
lemma Construido.slice_ponerTodos {m : List UChar} {k : ℕ} {as bs : List Atributo} (h : Construido m k as)
    (hlen : m.length < 2 ^ 32) (hroom : nlmsgLen m 0 + ocupan bs ≤ m.length) {i n : ℕ} (hi : 4 ≤ i)
    (hn : i + n ≤ nlmsgLen m 0) : slice (Antop.ponerTodos m bs) i n = slice m i n := by
  induction bs generalizing m as with
  | nil => rfl
  | cons b bs ih =>
      have hocupan : ocupan (b :: bs) = mnlAlign b.bytes.length + ocupan bs := by simp [ocupan]
      obtain ⟨hone, hnew⟩ := h.mnlAttrPut hlen (a := b) (by omega)
      have hsize := length_mnlAttrPut m b.tipo.toNat b.datos
      have htail := h.tail hlen
      exact (ih hone (by omega) (by omega) (by omega)).trans (slice_mnlAttrPut m _ _ hi (by omega))

/-- A message with an extra header of `k` bytes and some attributes, built in a buffer. -/
def construir (buf : List UChar) (k : ℕ) (as : List Atributo) : List UChar :=
  ponerTodos (mnlNlmsgPutExtraHeader (mnlNlmsgPutHeader buf) 0 k) as

/-- **Round trip.**  Whatever was in the buffer, which has less than 2^31 bytes, the message that is built in it has
the length that its parts take, and a parser is run on the types and payloads that have been put, in their order. -/
theorem mnlAttrParse_put {σ : Type*} {buf : List UChar} {k : ℕ} {as : List Atributo}
    (hroom : 16 + mnlAlign k + ocupan as ≤ buf.length) (hlen : buf.length < 2 ^ 31)
    (cb : BitVec 16 × List UChar → σ → σ × ℤ) (data : σ) :
    nlmsgLen (construir buf k as) 0 = 16 + mnlAlign k + ocupan as
      ∧ mnlAttrParse (construir buf k as) 0 k (fun attr => cb (leer (construir buf k as) attr)) data
        = recorrer (fun p r => cb p r.1) (as.map Atributo.par) (data, mnlCbOk) := by
  have hhead : nlmsgLen (mnlNlmsgPutHeader buf) 0 = 16 := nlmsgLen_mnlNlmsgPutHeader (by omega)
  obtain ⟨hnil, hnew⟩ := construido_nil (k := k) hhead
    (by rw [length_mnlNlmsgPutHeader]; omega) (by rw [length_mnlNlmsgPutHeader]; omega)
  have hsize : (mnlNlmsgPutExtraHeader (mnlNlmsgPutHeader buf) 0 k).length = buf.length := by simp
  have hroom' : nlmsgLen (mnlNlmsgPutExtraHeader (mnlNlmsgPutHeader buf) 0 k) 0 + ocupan as
      ≤ (mnlNlmsgPutExtraHeader (mnlNlmsgPutHeader buf) 0 k).length := by omega
  obtain ⟨hall, hend⟩ := hnil.ponerTodos (by omega) hroom'
  rw [List.nil_append] at hall
  have htail : mnlNlmsgGetPayloadTail (construir buf k as) 0 = 16 + mnlAlign k + ocupan as := by
    rw [construir, hall.tail (by rw [length_ponerTodos]; omega), hend, hnew]
  refine ⟨by rw [construir, hend, hnew], Puestos.mnlAttrParse ?_ (by omega) cb data⟩
  rw [htail]
  have hputs := hall.puestos
  rw [hend, hnew] at hputs
  exact hputs

/-- A payload of three bytes, which is padded, and an empty one, in a buffer of sevens. -/
theorem mnlAttrParse_put_dos :
    mnlAttrParse (construir (List.replicate 64 7) 1 [⟨1, [2, 3, 4], by decide⟩, ⟨0x8005, [], by decide⟩]) 0 1
        (fun attr l => (l ++ [leer (construir (List.replicate 64 7) 1
          [⟨1, [2, 3, 4], by decide⟩, ⟨0x8005, [], by decide⟩]) attr], mnlCbOk)) []
      = ([(1, [2, 3, 4]), (0x8005, [])], mnlCbOk) :=
  (mnlAttrParse_put (by decide) (by decide) (fun p l => (l ++ [p], mnlCbOk)) []).2

end Antop
