import Antop.NetlinkMessages

/-!
# The table of attributes

A reader of a message first notes where its attributes are: `data_attr_cb` puts each into `tb[type]`, the later
ones over the earlier ones.  `rt_table.c` and `if_addr.c` each have such a function; they differ in the number of
types and in the types whose payload is validated before.

* `guardarAttr`, `tablaDe` — the function, and the table that `mnl_attr_parse` makes with it.
* `ultimo` — the last payload of a type.
* **`tablaDe_rel`** — in the table stands the last attribute of each type, wherever the message lies.
-/

namespace Antop

open Memory Chain

/-- The type of an attribute, without its flags. -/
def Atributo.clase (a : Atributo) : ℕ := a.tipo.toNat &&& 0x3fff

/-- `data_attr_cb`.  Of the types in `anidados` a payload is empty or has a header. -/
def guardarAttr (max : ℕ) (anidados : List ℕ) (m : List UChar) (attr : ℕ) (tb : ℕ → Option ℕ) :
    (ℕ → Option ℕ) × ℤ :=
  let type := mnlAttrGetType m attr
  if mnlAttrTypeValid m attr max < 0 then (tb, mnlCbOk)
  else if type ∈ anidados ∧ mnlAttrValidate m attr .nested < 0 then (tb, -1)
  else (Function.update tb type (some attr), mnlCbOk)

/-- `tb` after `mnl_attr_parse(nlh, offset, data_attr_cb, tb)`; what it returns is not looked at. -/
def tablaDe (max : ℕ) (anidados : List ℕ) (m : List UChar) (nlh offset : ℕ) : ℕ → Option ℕ :=
  (mnlAttrParse m nlh offset (guardarAttr max anidados m) fun _ => none).1

/-- The payload of the last attribute of a type. -/
def ultimo (as : List Atributo) (k : ℕ) : Option (List UChar) :=
  as.foldl (fun d a => if a.clase = k then some a.datos else d) none

/-- The attributes whose payload is validated pass. -/
def Validos (anidados : List ℕ) (as : List Atributo) : Prop :=
  ∀ a ∈ as, a.clase ∈ anidados → a.datos.length = 0 ∨ 4 ≤ a.datos.length

instance (anidados : List ℕ) (as : List Atributo) : Decidable (Validos anidados as) :=
  inferInstanceAs (Decidable (∀ a ∈ as, a.clase ∈ anidados → a.datos.length = 0 ∨ 4 ≤ a.datos.length))

/-- There is an attribute with this payload. -/
def Apunta (m : List UChar) (attr : ℕ) (datos : List UChar) : Prop :=
  ∃ a : Atributo, a.En m attr ∧ a.datos = datos

section Tabla

variable {max : ℕ} {anidados : List ℕ} {m : List UChar}

lemma mnlAttrValidate_nested {attr : ℕ}
    (h : mnlAttrGetPayloadLen m attr = 0 ∨ 4 ≤ mnlAttrGetPayloadLen m attr) :
    mnlAttrValidate m attr .nested = 0 := by
  have hexp : mnlAttrDataTypeLen .nested = 0 := rfl
  have hmal : payloadMal m attr (mnlAttrGetPayloadLen m attr) .nested = false := by
    change (mnlAttrGetPayloadLen m attr != 0 && decide (mnlAttrGetPayloadLen m attr < 4)) = false
    rcases h with h | h
    · simp [h]
    · simp [Nat.not_lt.mpr h]
  simp [mnlAttrValidate, hexp, hmal]

/-- **One attribute** goes to its place, if its type is one that the table has. -/
lemma guardarAttr_en (max : ℕ) {attr : ℕ} {a : Atributo} (h : a.En m attr)
    (hval : a.clase ∈ anidados → a.datos.length = 0 ∨ 4 ≤ a.datos.length) (tb : ℕ → Option ℕ) :
    guardarAttr max anidados m attr tb
      = (if a.clase ≤ max then Function.update tb a.clase (some attr) else tb, mnlCbOk) := by
  have htype : mnlAttrGetType m attr = a.clase := by rw [mnlAttrGetType, h.nlaType, Atributo.clase]
  rw [guardarAttr, mnlAttrTypeValid, htype]
  by_cases hmax : a.clase ≤ max
  · have hno : ¬ (a.clase ∈ anidados ∧ mnlAttrValidate m attr .nested < 0) := by
      rintro ⟨hmem, hlt⟩
      rw [← h.payloadLen] at hval
      rw [mnlAttrValidate_nested (hval hmem)] at hlt
      exact absurd hlt (by decide)
    simp only [if_neg (Nat.not_lt.mpr hmax), if_neg hno, if_pos hmax]
    rfl
  · simp only [if_pos (Nat.lt_of_not_le hmax), if_neg hmax]
    rfl

/-- **All attributes**: the table corresponds to what has been seen of them. -/
lemma recorrer_guardarAttr {attrs : List ℕ} {as : List Atributo}
    (h : List.Forall₂ (fun attr a => a.En m attr) attrs as) (hval : Validos anidados as)
    {tb : ℕ → Option ℕ} (vistos : ℕ → Option (List UChar))
    (htb : ∀ k ≤ max, Option.Rel (Apunta m) (tb k) (vistos k)) {k : ℕ} (hk : k ≤ max) :
    Option.Rel (Apunta m)
      ((recorrer (fun attr r => guardarAttr max anidados m attr r.1) attrs (tb, mnlCbOk)).1 k)
      (as.foldl (fun d a => if a.clase = k then some a.datos else d) (vistos k)) := by
  induction h generalizing tb vistos with
  | nil => exact htb k hk
  | @cons attr a attrs as ha _ ih =>
      have hone := guardarAttr_en max ha (hval a (List.mem_cons_self ..)) tb
      rw [recorrer_cons, hone, if_neg (by simp), List.foldl_cons]
      refine ih (fun b hb => hval b (List.mem_cons_of_mem a hb))
        (fun k => if a.clase = k then some a.datos else vistos k) fun j hj => ?_
      by_cases hmax : a.clase ≤ max
      · rw [if_pos hmax, Function.update_apply]
        by_cases hja : j = a.clase
        · rw [if_pos hja, if_pos hja.symm]
          exact .some ⟨a, ha, rfl⟩
        · rw [if_neg hja, if_neg fun hc => hja hc.symm]
          exact htb j hj
      · rw [if_neg hmax, if_neg fun hc => hmax (hc.trans_le hj)]
        exact htb j hj

/-- **The table** has the last attribute of each type. -/
theorem tablaDe_rel {nlh offset : ℕ} {as : List Atributo}
    (h : Puestos m (mnlNlmsgGetPayloadOffset nlh offset) as (mnlNlmsgGetPayloadTail m nlh))
    (hlen : mnlNlmsgGetPayloadTail m nlh < nlh + 2 ^ 31) (hval : Validos anidados as) {k : ℕ} (hk : k ≤ max) :
    Option.Rel (Apunta m) (tablaDe max anidados m nlh offset k) (ultimo as k) :=
  recorrer_guardarAttr (h.forall₂ (by rw [mnlNlmsgGetPayloadOffset]; omega)) hval (fun _ => none) (fun _ _ => .none) hk

end Tabla

/-! ## What is read of an attribute -/

/-- The address that a payload begins with. -/
def leerDir (m : List UChar) (attr : ℕ) : In6Addr := In6Addr.ofBytes (slice m (mnlAttrGetPayload attr) 16)

lemma cabe_bytes (a : In6Addr) : a.bytes.length + 4 < 65536 := by simp

lemma leerDir_of_apunta {m : List UChar} {attr : ℕ} {addr : In6Addr} (h : Apunta m attr addr.bytes) :
    leerDir m attr = addr := by
  obtain ⟨a, ha, hdatos⟩ := h
  have hlen : a.datos.length = 16 := by rw [hdatos, addr.length_bytes]
  rw [leerDir, ← hlen, ha.payload, hdatos, In6Addr.ofBytes_bytes]

lemma mnlAttrGetU32_of_apunta {m : List UChar} {attr : ℕ} {v : BitVec 32}
    (h : Apunta m attr (LittleEndian.bytes 4 v.toNat)) : mnlAttrGetU32 m attr = v := by
  obtain ⟨a, ha, hdatos⟩ := h
  have hlen : a.datos.length = 4 := by rw [hdatos, LittleEndian.length_bytes]
  rw [mnlAttrGetU32, campoHost, ← hlen, ha.payload, hdatos, LittleEndian.value_bytes v.isLt, BitVec.ofNat_toNat,
    BitVec.setWidth_eq]

/-- A reader of payloads reads what the table says. -/
lemma map_of_rel {α : Type*} {m : List UChar} {tb : Option ℕ} {v : Option α} {escribir : α → List UChar} {f : ℕ → α}
    (h : Option.Rel (Apunta m) tb (v.map escribir)) (hf : ∀ attr a, Apunta m attr (escribir a) → f attr = a) :
    tb.map f = v := by
  cases v with
  | none =>
      cases h with
      | none => rfl
  | some a =>
      cases h with
      | some h => rw [Option.map_some, hf _ a h]

end Antop
