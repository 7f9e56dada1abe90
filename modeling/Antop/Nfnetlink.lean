import Antop.AttributeTable

/-!
# Messages of the netfilter subsystems

The packets of the queue, and the verdicts on them, are netlink messages with a header of four bytes more.
`libnfnetlink.c` reads datagrams of them, and gives each to the callback of its subsystem and type, together with
the places of its attributes.

* `nfnlCheckAttributes` — the places of the attributes of a message.
* `nfnlHandleMsg`, `nfnlHandlePacket` — a message, and a datagram.
* `nfnlFillHdr`, `nfnlAddattrL` — a message is built.
* **`Llenan.tabla`** — each place is that of the last attribute of its type.
* **`nfnlHandlePacket_eq`** — a datagram of one message: the message is handled, and nothing else.
-/

namespace Antop

open Memory Chain

/-! ## Attributes -/

/-- `NFA_TYPE`. -/
def nfaType (m : List UChar) (attr : ℕ) : ℕ := nlaType m attr &&& 0x7fff

/-- `NFA_OK`, with the bytes that remain. -/
def nfaOk (m : List UChar) (attr : ℕ) (len : ℤ) : Prop :=
  0 < len ∧ 4 ≤ nlaLen m attr ∧ (nlaLen m attr : ℤ) ≤ len

instance (m : List UChar) (attr : ℕ) (len : ℤ) : Decidable (nfaOk m attr len) :=
  inferInstanceAs (Decidable (0 < len ∧ 4 ≤ nlaLen m attr ∧ (nlaLen m attr : ℤ) ≤ len))

/-- `NFA_NEXT`. -/
def nfaNext (m : List UChar) (attr : ℕ) : ℕ := attr + mnlAlign (nlaLen m attr)

/-- `nfa[flavor - 1] = attr`, for the types that the callback knows. -/
def ponerNfa (attrCount : ℕ) (m : List UChar) (nfa : ℕ → Option ℕ) (attr : ℕ) : ℕ → Option ℕ :=
  let flavor := nfaType m attr
  if flavor = 0 then nfa
  else if attrCount < flavor then nfa
  else Function.update nfa (flavor - 1) (some attr)

/-- The attributes that `nfnl_check_attributes` goes through; `attrlen` is an `int`. -/
def atributosNfa (m : List UChar) (nlh : ℕ) : List ℕ :=
  let tail := nlh + nlmsgLen m nlh
  visited (fun attr => nfaOk m attr (restan tail attr)) (nfaNext m) (restan tail (nlh + 20)).toNat (nlh + 20)

/-! ## Messages and datagrams -/

section Manejar

variable {σ : Type*}

/-- `struct nfnl_callback`.  The call gets the message and its attributes, and leaves the datagram as it has become; it
is `none` when the daemon ends in it. -/
structure NfnlCallback (σ : Type*) where
  attrCount : ℕ
  call : Option (List UChar → ℕ → (ℕ → Option ℕ) → σ → Option (σ × List UChar × ℤ))

/-- `struct nfnl_subsys_handle`. -/
structure NfnlSubsysHandle (σ : Type*) where
  cbCount : ℕ
  cb : ℕ → NfnlCallback σ

/-- `NFNL_MAX_SUBSYS`. -/
def nfnlMaxSubsys : ℕ := 16

/-- `NFNL_MSG_TYPE`. -/
def nfnlMsgType (m : List UChar) (nlh : ℕ) : ℕ := nlmsgType m nlh % 256

/-- `NFNL_SUBSYS_ID`. -/
def nfnlSubsysId (m : List UChar) (nlh : ℕ) : ℕ := nlmsgType m nlh / 256

/-- `nfnl_check_attributes`: the table `nfa`, or `-EINVAL`. -/
def nfnlCheckAttributes (h : ℕ → NfnlSubsysHandle σ) (m : List UChar) (nlh : ℕ) : Except ℤ (ℕ → Option ℕ) :=
  let type := nfnlMsgType m nlh
  let subsysId := nfnlSubsysId m nlh
  if nfnlMaxSubsys < subsysId then .error (-22)
  else if (h subsysId).cbCount ≤ type then .error (-22)
  else if nlmsgLen m nlh < 20 then .error (-22)
  else .ok ((atributosNfa m nlh).foldl (ponerNfa ((h subsysId).cb type).attrCount m) fun _ => none)

/-- `__nfnl_handle_msg`. -/
def nfnlHandleMsg (h : ℕ → NfnlSubsysHandle σ) (m : List UChar) (nlh : ℕ) (s : σ) : Option (σ × List UChar × ℤ) :=
  let type := nfnlMsgType m nlh
  let subsysId := nfnlSubsysId m nlh
  if nfnlMaxSubsys < subsysId then some (s, m, -1)
  else if nlmsgLen m nlh < 20 then some (s, m, -1)
  else if (h subsysId).cbCount ≤ type then some (s, m, -1)
  else if ((h subsysId).cb type).attrCount = 0 then some (s, m, 0)
  else
    match nfnlCheckAttributes h m nlh with
    | .error err => some (s, m, err)
    | .ok nfa =>
        match ((h subsysId).cb type).call with
        | some call => call m nlh nfa s
        | none => some (s, m, 0)

/-- The loop of `nfnl_handle_packet`, from `buf` on with `len` bytes.  A message takes 16 of them at least. -/
def nfnlHandleDesde (h : ℕ → NfnlSubsysHandle σ) : ℕ → List UChar → ℕ → ℕ → σ → Option (σ × ℤ)
  | 0, _, _, _, s => some (s, 0)
  | fuel + 1, m, buf, len, s =>
      if len < 16 then some (s, 0)
      else if nlmsgLen m buf < 16 ∨ len < nlmsgLen m buf then some (s, -1)
      else
        let rlen := min (mnlAlign (nlmsgLen m buf)) len
        (nfnlHandleMsg h m buf s).bind fun r =>
          if r.2.2 < 0 then some (r.1, -1) else nfnlHandleDesde h fuel r.2.1 (buf + rlen) (len - rlen) r.1

/-- `nfnl_handle_packet`. -/
def nfnlHandlePacket (h : ℕ → NfnlSubsysHandle σ) (m : List UChar) (len : ℕ) (s : σ) : Option (σ × ℤ) :=
  nfnlHandleDesde h len m 0 len s

end Manejar

/-! ## Building -/

/-- A number of four bytes in network order. -/
def bytes32 (v : BitVec 32) : List UChar := (LittleEndian.bytes 4 v.toNat).reverse

/-- A field of four bytes, in network order. -/
def campo32 (m : List UChar) (off : ℕ) : BitVec 32 :=
  BitVec.ofNat 32 (LittleEndian.value (slice m off 4).reverse)

/-- `nfnl_fill_hdr` for the subsystem of the queue, without sequence tracking and with the family `AF_UNSPEC`. -/
def nfnlFillHdr (buf : List UChar) (len resId msgType msgFlags : ℕ) : List UChar :=
  let m := put buf 0 (LittleEndian.bytes 4 (16 + (len + 4)))
  let m := put m 4 (LittleEndian.bytes 2 (3 * 256 + msgType))
  let m := put m 6 (LittleEndian.bytes 2 msgFlags)
  let m := put m 12 (LittleEndian.bytes 4 0)
  let m := put m 8 (LittleEndian.bytes 4 0)
  let m := put m 16 [0]
  let m := put m 17 [0]
  put m 18 (bytes16 resId)

/-- `nfnl_addattr_l`: an attribute that does not fit is left out. -/
def nfnlAddattrL (m : List UChar) (maxlen type : ℕ) (data : List UChar) : List UChar :=
  let len := 4 + data.length
  if maxlen < mnlAlign (nlmsgLen m 0) + len then m
  else
    let nfa := mnlAlign (nlmsgLen m 0)
    let m := put m (nfa + 2) (LittleEndian.bytes 2 type)
    let m := put m nfa (LittleEndian.bytes 2 len)
    let m := put m (nfa + 4) data
    put m 0 (LittleEndian.bytes 4 (nfa + mnlAlign len))

/-! ## The attributes of a message -/

/-- The type of an attribute as `NFA_TYPE` has it. -/
def Atributo.flavor (a : Atributo) : ℕ := a.tipo.toNat &&& 0x7fff

/-- The payload of the last attribute of a type. -/
def ultimoNfa (as : List Atributo) (k : ℕ) : Option (List UChar) :=
  as.foldl (fun d a => if a.flavor = k then some a.datos else d) none

/-- Attributes lie one behind another; the last one need not be padded. -/
def Llenan (m : List UChar) (off : ℕ) (as : List Atributo) (tail : ℕ) : Prop :=
  nlattr.Filled m off (as.map Atributo.bytes) tail

section Tabla

variable {m : List UChar}

lemma nfaOk_iff (m : List UChar) (attr : ℕ) (len : ℤ) : nfaOk m attr len ↔ mnlAttrOk m attr len := by
  rw [nfaOk, mnlAttrOk]
  omega

/-- **The walk over attributes** is that over their format, as in `mnl_attr_parse`. -/
lemma atributosNfa_eq {m : List UChar} {nlh : ℕ} (hlen : nlmsgLen m nlh < 2 ^ 31) :
    atributosNfa m nlh = nlattr.walk m (nlh + nlmsgLen m nlh) (nlh + 20) := by
  rw [← mnlAttrForEach_eq m (by omega) (by omega), mnlAttrForEach, atributosNfa]
  simp only [nfaOk_iff]
  rfl

/-- **One attribute** goes to its place, if its type is one that the callback knows. -/
lemma ponerNfa_en {attr : ℕ} {a : Atributo} (h : a.En m attr) (attrCount : ℕ) (nfa : ℕ → Option ℕ) {k : ℕ}
    (hk : 0 < k) (hcount : k ≤ attrCount) :
    ponerNfa attrCount m nfa attr (k - 1) = if a.flavor = k then some attr else nfa (k - 1) := by
  have hflavor : nfaType m attr = a.flavor := by rw [nfaType, h.nlaType, Atributo.flavor]
  rw [ponerNfa, hflavor]
  by_cases hzero : a.flavor = 0
  · rw [if_pos hzero, if_neg (by omega)]
  · by_cases hmax : attrCount < a.flavor
    · rw [if_neg hzero, if_pos hmax, if_neg (by omega)]
    · rw [if_neg hzero, if_neg hmax, Function.update_apply]
      by_cases heq : a.flavor = k
      · rw [if_pos (by omega), if_pos heq]
      · rw [if_neg (by omega), if_neg heq]

/-- **All attributes**: a place corresponds to what has been seen of its type. -/
lemma foldl_ponerNfa {attrs : List ℕ} {as : List Atributo} (h : List.Forall₂ (fun attr a => a.En m attr) attrs as)
    (attrCount : ℕ) {nfa : ℕ → Option ℕ} {vistos : Option (List UChar)} {k : ℕ} (hk : 0 < k)
    (hcount : k ≤ attrCount) (hnfa : Option.Rel (Apunta m) (nfa (k - 1)) vistos) :
    Option.Rel (Apunta m) (attrs.foldl (ponerNfa attrCount m) nfa (k - 1))
      (as.foldl (fun d a => if a.flavor = k then some a.datos else d) vistos) := by
  induction h generalizing nfa vistos with
  | nil => exact hnfa
  | @cons attr a attrs as ha _ ih =>
      rw [List.foldl_cons, List.foldl_cons]
      refine ih ?_
      rw [ponerNfa_en ha attrCount nfa hk hcount]
      split_ifs
      · exact .some ⟨a, ha, rfl⟩
      · exact hnfa

/-- What fills a message is what is visited. -/
lemma Llenan.forall₂ {nlh : ℕ} {as : List Atributo} (h : Llenan m (nlh + 20) as (nlh + nlmsgLen m nlh))
    (hlen : nlmsgLen m nlh < 2 ^ 31) :
    List.Forall₂ (fun attr a => a.En m attr) (atributosNfa m nlh) as := by
  rw [atributosNfa_eq hlen]
  refine (List.forall₂_map_right_iff (f := Atributo.bytes)).mp (Format.walk_of_filled (fun u hu => ?_) h)
  obtain ⟨a, -, rfl⟩ := List.mem_map.mp hu
  exact proper_bytes a

/-- **The table** of a message: each place is that of the last attribute of its type. -/
theorem Llenan.tabla {nlh : ℕ} {as : List Atributo} (h : Llenan m (nlh + 20) as (nlh + nlmsgLen m nlh))
    (hlen : nlmsgLen m nlh < 2 ^ 31) (attrCount : ℕ) {k : ℕ} (hk : 0 < k) (hcount : k ≤ attrCount) :
    Option.Rel (Apunta m) ((atributosNfa m nlh).foldl (ponerNfa attrCount m) (fun _ => none) (k - 1))
      (ultimoNfa as k) :=
  foldl_ponerNfa (h.forall₂ hlen) attrCount hk hcount .none

end Tabla

/-! ## A datagram of one message -/

section Datagrama

variable {σ : Type*} {h : ℕ → NfnlSubsysHandle σ} {m : List UChar}

/-- `nfnl_check_attributes` on a message of a known type. -/
lemma nfnlCheckAttributes_ok {nlh : ℕ} (hsubsys : nfnlSubsysId m nlh ≤ nfnlMaxSubsys)
    (htype : nfnlMsgType m nlh < (h (nfnlSubsysId m nlh)).cbCount) (hlen : 20 ≤ nlmsgLen m nlh) :
    nfnlCheckAttributes h m nlh = .ok ((atributosNfa m nlh).foldl
      (ponerNfa ((h (nfnlSubsysId m nlh)).cb (nfnlMsgType m nlh)).attrCount m) fun _ => none) := by
  rw [nfnlCheckAttributes, if_neg (Nat.not_lt.mpr hsubsys), if_neg (Nat.not_le.mpr htype),
    if_neg (Nat.not_lt.mpr hlen)]

/-- **A message** of a known type is given to its callback, with the places of its attributes. -/
lemma nfnlHandleMsg_eq {nlh : ℕ} {call : List UChar → ℕ → (ℕ → Option ℕ) → σ → Option (σ × List UChar × ℤ)}
    (hsubsys : nfnlSubsysId m nlh ≤ nfnlMaxSubsys)
    (htype : nfnlMsgType m nlh < (h (nfnlSubsysId m nlh)).cbCount) (hlen : 20 ≤ nlmsgLen m nlh)
    (hcount : ((h (nfnlSubsysId m nlh)).cb (nfnlMsgType m nlh)).attrCount ≠ 0)
    (hcall : ((h (nfnlSubsysId m nlh)).cb (nfnlMsgType m nlh)).call = some call) (s : σ) :
    nfnlHandleMsg h m nlh s = call m nlh ((atributosNfa m nlh).foldl
      (ponerNfa ((h (nfnlSubsysId m nlh)).cb (nfnlMsgType m nlh)).attrCount m) fun _ => none) s := by
  simp only [nfnlHandleMsg]
  rw [if_neg (Nat.not_lt.mpr hsubsys), if_neg (Nat.not_lt.mpr hlen), if_neg (Nat.not_le.mpr htype), if_neg hcount,
    nfnlCheckAttributes_ok hsubsys htype hlen, hcall]

/-- Nothing is read when less than a header is left. -/
lemma nfnlHandleDesde_corto (fuel : ℕ) (m : List UChar) (buf : ℕ) {len : ℕ} (hlen : len < 16) (s : σ) :
    nfnlHandleDesde h fuel m buf len s = some (s, 0) := by
  cases fuel with
  | zero => rfl
  | succ fuel => rw [nfnlHandleDesde, if_pos hlen]

/-- **A datagram of one message**: the message is handled, and nothing is left behind it. -/
theorem nfnlHandlePacket_eq {u : List UChar} (hu : Mensaje u) (hslice : slice m 0 u.length = u) (s : σ) :
    nfnlHandlePacket h m u.length s
      = (nfnlHandleMsg h m 0 s).map fun r => (r.1, if r.2.2 < 0 then -1 else 0) := by
  have hcabecera := hu.cabecera
  have hlen : nlmsgLen m 0 = u.length := nlmsgLen_lugar hu hslice
  have hle := le_mnlAlign u.length
  have hone (fuel : ℕ) : nfnlHandleDesde h (fuel + 1) m 0 u.length s
      = (nfnlHandleMsg h m 0 s).map fun r => (r.1, if r.2.2 < 0 then -1 else 0) := by
    rw [nfnlHandleDesde, if_neg (by omega), hlen, if_neg (by omega), Option.map_eq_bind]
    refine Option.bind_congr fun r _ => ?_
    by_cases hneg : r.2.2 < 0
    · rw [if_pos hneg, Function.comp_apply, if_pos hneg]
    · rw [if_neg hneg, Function.comp_apply, if_neg hneg]
      exact nfnlHandleDesde_corto _ _ _ (by omega) _
  obtain ⟨fuel, hfuel⟩ : ∃ k, u.length = k + 1 := ⟨u.length - 1, by omega⟩
  rw [nfnlHandlePacket, ← hone fuel, ← hfuel]

end Datagrama

end Antop
