import Mathlib.Data.List.TakeWhile
import Mathlib.Data.List.Basic
import Mathlib.Tactic

/-!
# Strings that end with a zero

A string in memory is what stands before the first zero.  Memory is a list of units, from the
address on at which it is looked at; a buffer is a piece of memory of a fixed size, and what stands
behind it is not its own.

* `cstr` — the string at the start of a piece of memory, when it ends there.
* `CStr` — the units of a string: none of them is zero.
* `Buffer`, `memcpy`, `strcpy` — a buffer, and copies into it that do not run over its end.
* `cstr_memcpy_iff` — a string that is copied without its zero is read back exactly when the memory
  behind it has one.
* `exists_cstr_memcpy_lt_iff` — what is read then is short exactly when a zero is not far behind it.
-/

namespace CString

variable {α : Type*} [Zero α]

/-- The units of a string. -/
def CStr (s : List α) : Prop := ∀ b ∈ s, b ≠ 0

lemma CStr.zero_notMem {s : List α} (h : CStr s) : (0 : α) ∉ s := fun hc => h 0 hc rfl

/-- A string is a prefix of memory that holds another one with its zero exactly when it is one of
that string. -/
lemma prefix_append_zero_iff {s r m : List α} (hs : CStr s) :
    s <+: r ++ 0 :: m ↔ s <+: r := by
  refine ⟨fun h => ?_, fun h => h.trans (List.prefix_append r _)⟩
  rcases List.prefix_or_prefix_of_prefix h (List.prefix_append r (0 :: m)) with hc | ⟨t, ht⟩
  · exact hc
  · cases t with
    | nil => exact ⟨[], by simpa using ht.symm⟩
    | cons b t =>
        rw [← ht, List.prefix_append_right_inj] at h
        have hb : b = 0 := (List.cons_prefix_cons.mp h).1
        exact absurd hb (hs b (by simp [← ht]))

variable [DecidableEq α]

/-- The string at the start of `m`.  There is none when `m` has no zero: whoever reads it goes on
behind `m`. -/
def cstr (m : List α) : Option (List α) :=
  if 0 ∈ m then some (m.takeWhile (· ≠ 0)) else none

@[simp] lemma cstr_nil : cstr ([] : List α) = none := by simp [cstr]

@[simp] lemma cstr_zero_cons (m : List α) : cstr (0 :: m) = some [] := by simp [cstr]

/-- What is read has no zero in it. -/
lemma CStr.of_cstr {m s : List α} (h : cstr m = some s) : CStr s := by
  rw [cstr] at h
  split_ifs at h
  rw [← Option.some.inj h]
  intro b hb
  simpa using List.mem_takeWhile_imp hb

/-- Behind a string stands its zero. -/
lemma exists_of_cstr {m s : List α} (h : cstr m = some s) : ∃ r, m = s ++ 0 :: r := by
  rw [cstr] at h
  split_ifs at h with hzero
  obtain rfl := Option.some.inj h
  have hsplit := List.takeWhile_append_dropWhile (p := fun b : α => decide (b ≠ 0)) (l := m)
  cases hd : m.dropWhile fun b => decide (b ≠ 0) with
  | nil =>
      rw [hd, List.append_nil] at hsplit
      rw [← hsplit] at hzero
      have hne := List.mem_takeWhile_imp (p := fun b : α => decide (b ≠ 0)) hzero
      exact absurd rfl (of_decide_eq_true hne)
  | cons x r =>
      have hx := List.head?_dropWhile_not (fun b : α => decide (b ≠ 0)) m
      rw [hd] at hx
      obtain rfl : x = 0 := by simpa using hx
      exact ⟨r, by rw [← hd, hsplit]⟩

/-- A string in front of a piece of memory is read on into it. -/
lemma cstr_append {s : List α} (h : CStr s) (m : List α) : cstr (s ++ m) = (cstr m).map (s ++ ·) := by
  have htake : (s ++ m).takeWhile (· ≠ 0) = s ++ m.takeWhile (· ≠ 0) :=
    List.takeWhile_append_of_pos fun b hb => by simpa using h b hb
  have hmem : (0 : α) ∈ s ++ m ↔ (0 : α) ∈ m := by simp [h.zero_notMem]
  simp only [cstr, hmem, htake]
  split_ifs <;> rfl

/-- A string is read back when its zero stands behind it. -/
@[simp] lemma cstr_append_zero {s : List α} (h : CStr s) (m : List α) :
    cstr (s ++ 0 :: m) = some s := by
  simp [cstr_append h]

/-- Only an empty string is read where the first unit is zero, and where one is read it is. -/
lemma cstr_eq_some_nil_iff {m : List α} : cstr m = some [] ↔ m.head? = some 0 := by
  cases m with
  | nil => simp
  | cons b m =>
      by_cases hb : b = 0
      · simp [hb]
      · simp only [List.head?_cons, Option.some.injEq, hb, iff_false]
        rw [cstr]
        split_ifs <;> simp [hb]

/-- **The terminator.**  A string in front of a piece of memory is read as it is exactly when the
memory starts with a zero. -/
lemma cstr_append_eq_some_iff {s : List α} (h : CStr s) (m : List α) :
    cstr (s ++ m) = some s ↔ m.head? = some 0 := by
  rw [cstr_append h, ← cstr_eq_some_nil_iff]
  cases cstr m <;> simp

/-- **Short strings.**  A string of fewer than `k` units is read exactly when one of the first `k` is zero. -/
lemma exists_cstr_lt_iff {m : List α} {k : ℕ} :
    (∃ s, cstr m = some s ∧ s.length < k) ↔ 0 ∈ m.take k := by
  constructor
  · rintro ⟨s, hs, hlt⟩
    obtain ⟨r, rfl⟩ := exists_of_cstr hs
    refine List.mem_take_iff_getElem.mpr ⟨s.length, by simp [hlt], ?_⟩
    simp
  · intro h
    obtain ⟨s, hs⟩ : ∃ s, cstr m = some s := ⟨_, if_pos (List.mem_of_mem_take h)⟩
    refine ⟨s, hs, ?_⟩
    by_contra hge
    obtain ⟨r, rfl⟩ := exists_of_cstr hs
    rw [List.take_append_of_le_length (not_lt.mp hge)] at h
    exact (CStr.of_cstr hs).zero_notMem (List.mem_of_mem_take h)

/-! ## Buffers -/

/-- A piece of memory of `n` units. -/
structure Buffer (α : Type*) (n : ℕ) where
  units : List α
  size : units.length = n

namespace Buffer

variable {n : ℕ}

/-- A buffer with the same unit everywhere. -/
def filled (n : ℕ) (a : α) : Buffer α n := ⟨List.replicate n a, List.length_replicate⟩

/-- The units of `src` are copied to the start of the buffer; `none` when they run over its end. -/
def memcpy (b : Buffer α n) (src : List α) : Option (Buffer α n) :=
  if h : src.length ≤ n then
    some ⟨src ++ b.units.drop src.length, by
      rw [List.length_append, List.length_drop, b.size, Nat.add_sub_cancel' h]⟩
  else none

/-- `memset` to zero of the first `k` units. -/
def memzero (b : Buffer α n) (k : ℕ) : Option (Buffer α n) := b.memcpy (List.replicate k 0)

/-- A string is copied with its zero. -/
def strcpy (b : Buffer α n) (s : List α) : Option (Buffer α n) := b.memcpy (s ++ [0])

omit [Zero α] [DecidableEq α] in
lemma memcpy_eq_some_iff {b b' : Buffer α n} {src : List α} :
    b.memcpy src = some b' ↔ src.length ≤ n ∧ b'.units = src ++ b.units.drop src.length := by
  unfold memcpy
  obtain ⟨units', size'⟩ := b'
  split_ifs with h
  · simp [h, eq_comm]
  · simp [h]

omit [Zero α] [DecidableEq α] in
lemma exists_memcpy (b : Buffer α n) (src : List α) (h : src.length ≤ n) :
    ∃ b', b.memcpy src = some b' ∧ b'.units = src ++ b.units.drop src.length :=
  ⟨_, dif_pos h, rfl⟩

omit [Zero α] [DecidableEq α] in
lemma isSome_memcpy_iff {b : Buffer α n} {src : List α} : (b.memcpy src).isSome ↔ src.length ≤ n := by
  unfold memcpy
  split_ifs with h <;> simp [h]

omit [DecidableEq α] in
/-- A string and its zero fit a buffer that is longer. -/
lemma isSome_strcpy_iff {b : Buffer α n} {s : List α} : (b.strcpy s).isSome ↔ s.length < n := by
  rw [strcpy, isSome_memcpy_iff, List.length_append, List.length_singleton, Nat.succ_le_iff]

/-- **A copied string**, without its zero, is read as one of fewer than `k` units exactly when the buffer had
a zero before the unit `k`, and not under the copy. -/
theorem exists_cstr_memcpy_lt_iff {b b' : Buffer α n} {s : List α} (hs : CStr s)
    (h : b.memcpy s = some b') {k : ℕ} (hk : k ≤ n) (rest : List α) :
    (∃ t, cstr (b'.units ++ rest) = some t ∧ t.length < k) ↔ 0 ∈ (b.units.take k).drop s.length := by
  obtain ⟨-, hunits⟩ := memcpy_eq_some_iff.mp h
  have hno : (0 : α) ∉ s.take k := fun hc => hs.zero_notMem (List.mem_of_mem_take hc)
  rw [exists_cstr_lt_iff, List.take_append_of_le_length (by rw [b'.size]; exact hk), hunits, List.take_append,
    List.mem_append, or_iff_right hno, List.drop_take]

/-- **A copied string** is read back, with whatever stands behind the buffer, exactly when the first
unit behind it in the buffer is zero. -/
theorem cstr_memcpy_iff {b b' : Buffer α n} {s : List α} (hs : CStr s) (hlt : s.length < n)
    (h : b.memcpy s = some b') (rest : List α) :
    cstr (b'.units ++ rest) = some s ↔ b.units[s.length]? = some 0 := by
  obtain ⟨-, hunits⟩ := memcpy_eq_some_iff.mp h
  have hhead : (b.units.drop s.length ++ rest).head? = b.units[s.length]? := by
    rw [List.head?_append_of_ne_nil _ (by simp [List.drop_eq_nil_iff, b.size, hlt]), List.head?_drop]
  rw [hunits, List.append_assoc, cstr_append_eq_some_iff hs, hhead]

/-- **A string copied with its zero** is read back. -/
lemma cstr_strcpy {b b' : Buffer α n} {s : List α} (hs : CStr s) (h : b.strcpy s = some b') :
    cstr b'.units = some s := by
  obtain ⟨-, hunits⟩ := memcpy_eq_some_iff.mp h
  rw [hunits, List.append_assoc]
  exact cstr_append_zero hs _

end Buffer

end CString
