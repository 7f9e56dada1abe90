import Antop.HostFields
import Antop.Library.Chain
import Antop.Library.Loop

/-!
# Netlink messages

The kernel's tables are read and changed through netlink.  A message is a header of 16 bytes, a header of its
family and attributes, each with its length and type in front; what the kernel sends is a datagram of such
messages.  The functions that build and read them are those of `attr.c`, `nlmsg.c` and `callback.c`.

* `mnlNlmsgPutHeader`, `mnlNlmsgPutExtraHeader`, `mnlAttrPut` — a message is built in a buffer.
* `mnlAttrParse`, `mnlAttrValidate` — the attributes of a message are read.
* `mnlCbRun` — the messages of a datagram are read.
* `recorrer` — the loops that call a function and stop when it says so.
-/

namespace Antop

open Memory Chain Loop

/-- `MNL_ALIGN`. -/
def mnlAlign (len : ℕ) : ℕ := (len + 3) / 4 * 4

lemma le_mnlAlign (len : ℕ) : len ≤ mnlAlign len := by
  unfold mnlAlign
  omega

lemma mnlAlign_of_dvd {len : ℕ} (h : 4 ∣ len) : mnlAlign len = len := by
  unfold mnlAlign
  omega

lemma dvd_mnlAlign (len : ℕ) : 4 ∣ mnlAlign len := Nat.dvd_mul_left ..

/-! ## Loops with a callback -/

/-- What a callback may return; `MNL_CB_ERROR` is -1. -/
abbrev mnlCbStop : ℤ := 0

abbrev mnlCbOk : ℤ := 1

section Recorrer

variable {ι κ σ : Type*}

/-- A loop that leaves when what the last callback has returned says so. -/
def recorrer (cb : ι → σ × ℤ → σ × ℤ) (is : List ι) (r : σ × ℤ) : σ × ℤ :=
  (run (testAfter cb fun _ r => if r.2 ≤ mnlCbStop then some r else none) is r).elim id id

variable {cb : ι → σ × ℤ → σ × ℤ}

@[simp] lemma recorrer_nil (r : σ × ℤ) : recorrer cb [] r = r := rfl

lemma recorrer_cons (i : ι) (is : List ι) (r : σ × ℤ) :
    recorrer cb (i :: is) r = if (cb i r).2 ≤ mnlCbStop then cb i r else recorrer cb is (cb i r) := by
  rw [recorrer, run, testAfter]
  split_ifs <;> rfl

/-- Callbacks that do the same on what corresponds. -/
lemma recorrer_forall₂ {cb' : κ → σ × ℤ → σ × ℤ} {is : List ι} {ks : List κ}
    (h : List.Forall₂ (fun i k => ∀ r, cb i r = cb' k r) is ks) (r : σ × ℤ) :
    recorrer cb is r = recorrer cb' ks r := by
  induction h generalizing r with
  | nil => rfl
  | cons hik _ ih =>
      rw [recorrer_cons, recorrer_cons, hik, ih]

lemma recorrer_map (cb' : κ → σ × ℤ → σ × ℤ) (f : ι → κ) (is : List ι) (r : σ × ℤ) :
    recorrer (fun i => cb' (f i)) is r = recorrer cb' (is.map f) r := by
  refine recorrer_forall₂ ?_ r
  rw [List.forall₂_map_right_iff]
  exact List.forall₂_same.mpr fun _ _ _ => rfl

/-- Callbacks that go on are all called. -/
lemma recorrer_append {is js : List ι} {r : σ × ℤ} {s : σ} (h : recorrer cb is r = (s, mnlCbOk)) :
    recorrer cb (is ++ js) r = recorrer cb js (s, mnlCbOk) := by
  induction is generalizing r with
  | nil => rw [List.nil_append, show r = (s, mnlCbOk) from h]
  | cons i is ih =>
      rw [recorrer_cons] at h
      rw [List.cons_append, recorrer_cons]
      split_ifs at h ⊢ with hstop
      · rw [h] at hstop
        exact absurd hstop (by simp)
      · exact ih h

end Recorrer

/-! ## Attributes -/

def nlaLen (m : List UChar) (attr : ℕ) : ℕ := campoHost m attr 2

def nlaType (m : List UChar) (attr : ℕ) : ℕ := campoHost m (attr + 2) 2

/-- `mnl_attr_get_type`. -/
def mnlAttrGetType (m : List UChar) (attr : ℕ) : ℕ := nlaType m attr &&& 0x3fff

/-- `mnl_attr_get_payload_len`, a `uint16_t`. -/
def mnlAttrGetPayloadLen (m : List UChar) (attr : ℕ) : ℕ := (nlaLen m attr + 65536 - 4) % 65536

/-- `mnl_attr_get_payload`. -/
def mnlAttrGetPayload (attr : ℕ) : ℕ := attr + 4

/-- `mnl_attr_get_u32`. -/
def mnlAttrGetU32 (m : List UChar) (attr : ℕ) : BitVec 32 :=
  BitVec.ofNat 32 (campoHost m (mnlAttrGetPayload attr) 4)

/-- `mnl_attr_ok`, with the bytes that remain. -/
def mnlAttrOk (m : List UChar) (attr : ℕ) (len : ℤ) : Prop :=
  4 ≤ len ∧ 4 ≤ nlaLen m attr ∧ (nlaLen m attr : ℤ) ≤ len

instance (m : List UChar) (attr : ℕ) (len : ℤ) : Decidable (mnlAttrOk m attr len) :=
  inferInstanceAs (Decidable (4 ≤ len ∧ 4 ≤ nlaLen m attr ∧ (nlaLen m attr : ℤ) ≤ len))

/-- `mnl_attr_next`. -/
def mnlAttrNext (m : List UChar) (attr : ℕ) : ℕ := attr + mnlAlign (nlaLen m attr)

/-- `mnl_attr_type_valid`. -/
def mnlAttrTypeValid (m : List UChar) (attr max : ℕ) : ℤ := if max < mnlAttrGetType m attr then -1 else 1

/-- `enum mnl_attr_data_type`. -/
inductive MnlAttrDataType
  | unspec | u8 | u16 | u32 | u64 | string | flag | msecs | nested | nestedCompat | nulString | binary

/-- `mnl_attr_data_type_len`. -/
def mnlAttrDataTypeLen : MnlAttrDataType → ℕ
  | .u8 => 1
  | .u16 => 2
  | .u32 => 4
  | .u64 => 8
  | _ => 0

/-- What the type asks of a payload, beside its length. -/
def payloadMal (m : List UChar) (attr attrLen : ℕ) : MnlAttrDataType → Bool
  | .flag => 0 < attrLen
  | .nulString => attrLen = 0 || byte m (mnlAttrGetPayload attr + attrLen - 1) != 0
  | .string => attrLen = 0
  -- an empty nest is good, another one has a header
  | .nested => attrLen != 0 && attrLen < 4
  | _ => false

/-- `mnl_attr_validate`. -/
def mnlAttrValidate (m : List UChar) (attr : ℕ) (type : MnlAttrDataType) : ℤ :=
  let expLen := mnlAttrDataTypeLen type
  let attrLen := mnlAttrGetPayloadLen m attr
  if attrLen < expLen then -1
  else if payloadMal m attr attrLen type then -1
  else if expLen ≠ 0 ∧ expLen < attrLen then -1
  else 0

/-- The bytes from `attr` to `tail`, as the `int` that `mnl_attr_ok` gets. -/
def restan (tail attr : ℕ) : ℤ := ((tail : ℤ) - attr).bmod (2 ^ 32)

lemma restan_eq {tail attr : ℕ} (h : tail < attr + 2 ^ 31) (h' : attr ≤ tail + 2 ^ 31) :
    restan tail attr = tail - attr := Int.bmod_eq_of_le (by omega) (by omega)

/-- `mnl_attr_for_each`: the attributes from `attr` to `tail`.  Each takes four bytes at least. -/
def mnlAttrForEach (m : List UChar) (attr tail : ℕ) : List ℕ :=
  visited (fun attr => mnlAttrOk m attr (restan tail attr)) (mnlAttrNext m) (restan tail attr).toNat attr

/-! ## Messages -/

def nlmsgLen (m : List UChar) (nlh : ℕ) : ℕ := campoHost m nlh 4

def nlmsgType (m : List UChar) (nlh : ℕ) : ℕ := campoHost m (nlh + 4) 2

def nlmsgSeq (m : List UChar) (nlh : ℕ) : ℕ := campoHost m (nlh + 8) 4

def nlmsgPid (m : List UChar) (nlh : ℕ) : ℕ := campoHost m (nlh + 12) 4

/-- `mnl_nlmsg_get_payload_tail`; the length is rounded up as an `unsigned`. -/
def mnlNlmsgGetPayloadTail (m : List UChar) (nlh : ℕ) : ℕ := nlh + mnlAlign (nlmsgLen m nlh) % 2 ^ 32

/-- `mnl_nlmsg_get_payload_offset`. -/
def mnlNlmsgGetPayloadOffset (nlh offset : ℕ) : ℕ := nlh + 16 + mnlAlign offset

/-- `mnl_attr_parse`: what becomes of the data, and the return value. -/
def mnlAttrParse {σ : Type*} (m : List UChar) (nlh offset : ℕ) (cb : ℕ → σ → σ × ℤ) (data : σ) : σ × ℤ :=
  recorrer (fun attr r => cb attr r.1)
    (mnlAttrForEach m (mnlNlmsgGetPayloadOffset nlh offset) (mnlNlmsgGetPayloadTail m nlh)) (data, mnlCbOk)

/-- `mnl_nlmsg_ok`.  The length is compared as an `int`. -/
def mnlNlmsgOk (m : List UChar) (nlh : ℕ) (len : ℤ) : Prop :=
  16 ≤ len ∧ 16 ≤ nlmsgLen m nlh ∧ (BitVec.ofNat 32 (nlmsgLen m nlh)).toInt ≤ len

instance (m : List UChar) (nlh : ℕ) (len : ℤ) : Decidable (mnlNlmsgOk m nlh len) :=
  inferInstanceAs (Decidable (16 ≤ len ∧ 16 ≤ nlmsgLen m nlh ∧ (BitVec.ofNat 32 (nlmsgLen m nlh)).toInt ≤ len))

/-- `mnl_nlmsg_next`: the next message, and the bytes that remain. -/
def mnlNlmsgNext (m : List UChar) (p : ℕ × ℤ) : ℕ × ℤ :=
  (mnlNlmsgGetPayloadTail m p.1, (p.2 - (mnlAlign (nlmsgLen m p.1) % 2 ^ 32 : ℕ)).bmod (2 ^ 32))

/-- `mnl_nlmsg_seq_ok`. -/
def mnlNlmsgSeqOk (m : List UChar) (nlh seq : ℕ) : Prop :=
  nlmsgSeq m nlh ≠ 0 ∧ seq ≠ 0 → nlmsgSeq m nlh = seq

instance (m : List UChar) (nlh seq : ℕ) : Decidable (mnlNlmsgSeqOk m nlh seq) :=
  inferInstanceAs (Decidable (nlmsgSeq m nlh ≠ 0 ∧ seq ≠ 0 → nlmsgSeq m nlh = seq))

/-- `mnl_nlmsg_portid_ok`. -/
def mnlNlmsgPortidOk (m : List UChar) (nlh portid : ℕ) : Prop :=
  nlmsgPid m nlh ≠ 0 ∧ portid ≠ 0 → nlmsgPid m nlh = portid

instance (m : List UChar) (nlh portid : ℕ) : Decidable (mnlNlmsgPortidOk m nlh portid) :=
  inferInstanceAs (Decidable (nlmsgPid m nlh ≠ 0 ∧ portid ≠ 0 → nlmsgPid m nlh = portid))

/-- `mnl_cb_error`. -/
def mnlCbError (m : List UChar) (nlh : ℕ) : ℤ :=
  if nlmsgLen m nlh < 36 then -1 else if campoHost m (nlh + 16) 4 = 0 then mnlCbStop else -1

/-- `default_cb_array`: what the handler of a control message returns, if there is one. -/
def defaultCbArray (m : List UChar) (nlh : ℕ) : Option ℤ :=
  if nlmsgType m nlh = 1 ∨ nlmsgType m nlh = 4 then some mnlCbOk
  else if nlmsgType m nlh = 2 then some (mnlCbError m nlh)
  else if nlmsgType m nlh = 3 then some mnlCbStop
  else none

/-- What `__mnl_cb_run` does with a message; without a handler the return value stays. -/
def mnlCbMensaje {σ : Type*} (m : List UChar) (seq portid : ℕ) (cbData : ℕ → σ → σ × ℤ) (nlh : ℕ) (r : σ × ℤ) :
    σ × ℤ :=
  if ¬ mnlNlmsgPortidOk m nlh portid then (r.1, -1)
  else if ¬ mnlNlmsgSeqOk m nlh seq then (r.1, -1)
  else if 16 ≤ nlmsgType m nlh then cbData nlh r.1
  else (r.1, (defaultCbArray m nlh).getD r.2)

/-- The messages that `__mnl_cb_run` goes through, with the bytes that remain at each. -/
def mensajes (m : List UChar) (k numbytes : ℕ) : List (ℕ × ℤ) :=
  visited (fun p => mnlNlmsgOk m p.1 p.2) (mnlNlmsgNext m) k (0, (numbytes : ℤ))

/-- `mnl_cb_run`.  Each message in the bytes takes 16 of them at least. -/
def mnlCbRun {σ : Type*} (m : List UChar) (numbytes seq portid : ℕ) (cbData : ℕ → σ → σ × ℤ) (data : σ) : σ × ℤ :=
  recorrer (fun p => mnlCbMensaje m seq portid cbData p.1) (mensajes m numbytes numbytes) (data, mnlCbOk)

/-! ## Building a message -/

/-- `nlmsg_len` is set. -/
def conNlmsgLen (m : List UChar) (nlh len : ℕ) : List UChar := put m nlh (LittleEndian.bytes 4 len)

/-- `mnl_nlmsg_put_header`. -/
def mnlNlmsgPutHeader (buf : List UChar) : List UChar := conNlmsgLen (put buf 0 (List.replicate 16 0)) 0 16

/-- `mnl_nlmsg_put_extra_header`; what it returns is the length before. -/
def mnlNlmsgPutExtraHeader (m : List UChar) (nlh size : ℕ) : List UChar :=
  let ptr := nlh + nlmsgLen m nlh
  put (conNlmsgLen m nlh (nlmsgLen m nlh + mnlAlign size)) ptr (List.replicate size 0)

/-- `mnl_attr_put`. -/
def mnlAttrPut (nlh : ℕ) (m : List UChar) (type : ℕ) (data : List UChar) : List UChar :=
  let attr := mnlNlmsgGetPayloadTail m nlh
  let payloadLen := (4 + data.length) % 65536
  let m := put m (attr + 2) (LittleEndian.bytes 2 type)
  let m := put m attr (LittleEndian.bytes 2 payloadLen)
  let m := put m (mnlAttrGetPayload attr) data
  conNlmsgLen m nlh (nlmsgLen m nlh + mnlAlign payloadLen)

/-- `mnl_attr_put_u32`. -/
def mnlAttrPutU32 (nlh : ℕ) (m : List UChar) (type : ℕ) (data : BitVec 32) : List UChar :=
  mnlAttrPut nlh m type (LittleEndian.bytes 4 data.toNat)

end Antop
