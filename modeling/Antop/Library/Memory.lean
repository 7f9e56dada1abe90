import Mathlib.Data.List.Basic
import Mathlib.Tactic

/-!
# Writing into memory

Memory is a list of units; `put` writes some units from an offset on, as far as the memory goes, and
`slice` reads some.  What a slice is after a write follows from where it lies:

* `slice_put_self` — the slice that has just been written.
* `slice_put_of_disjoint` — a slice beside it; `put_comm` — two writes beside each other.
* `put_append`, `put_append_cons` — some units, and one, of a memory that is known in parts.
* `puts`, **`slice_puts`** — the fields of a structure are written, and each is read.
* `pull`, `pull_cons` — the loop that moves units one place to the front.
* `eq_of_slice_replicate` — a unit that is rare tells where it has been written several times.
-/

namespace Memory

variable {α : Type*}

/-- The units `bs` are written from `off` on. -/
def put (m : List α) (off : ℕ) (bs : List α) : List α :=
  m.mapIdx fun i b => if off ≤ i then bs.getD (i - off) b else b

/-- The `n` units from `off` on. -/
def slice (m : List α) (off n : ℕ) : List α := (m.drop off).take n

@[simp] lemma length_put (m : List α) (off : ℕ) (bs : List α) : (put m off bs).length = m.length := by
  simp [put]

lemma getElem?_put (m : List α) (off : ℕ) (bs : List α) (i : ℕ) :
    (put m off bs)[i]? = m[i]?.map fun b => if off ≤ i then bs.getD (i - off) b else b := by
  simp [put]

lemma getElem?_slice (m : List α) (off n i : ℕ) :
    (slice m off n)[i]? = if i < n then m[off + i]? else none := by
  rw [slice, List.getElem?_take]
  split_ifs
  · rw [List.getElem?_drop]
  · rfl

/-- A slice inside the memory has its length. -/
lemma length_slice {m : List α} {off n : ℕ} (h : off + n ≤ m.length) : (slice m off n).length = n := by
  rw [slice, List.length_take, List.length_drop]
  omega

/-- **What has been written** is read. -/
lemma slice_put_self {m : List α} {off : ℕ} {bs : List α} (h : off + bs.length ≤ m.length) :
    slice (put m off bs) off bs.length = bs := by
  apply List.ext_getElem?
  intro i
  rw [getElem?_slice, getElem?_put]
  by_cases hi : i < bs.length
  · rw [if_pos hi, List.getElem?_eq_getElem (by omega), Option.map_some,
      if_pos (Nat.le_add_right off i), Nat.add_sub_cancel_left, List.getD_eq_getElem?_getD,
      List.getElem?_eq_getElem hi, Option.getD_some]
  · rw [if_neg hi, List.getElem?_eq_none (Nat.le_of_not_lt hi)]

/-- **What lies beside it** stays. -/
lemma slice_put_of_disjoint {m : List α} {off i n : ℕ} {bs : List α}
    (h : i + n ≤ off ∨ off + bs.length ≤ i) : slice (put m off bs) i n = slice m i n := by
  apply List.ext_getElem?
  intro j
  rw [getElem?_slice, getElem?_slice, getElem?_put]
  by_cases hj : j < n
  · have hsame (b : α) : (if off ≤ i + j then bs.getD (i + j - off) b else b) = b := by
      split_ifs
      · simp [List.getD, List.getElem?_eq_none (show bs.length ≤ i + j - off by omega)]
      · rfl
    simp only [hsame, Option.map_id']
  · rw [if_neg hj, if_neg hj]

/-- A slice of what comes first. -/
lemma slice_append_of_le {m r : List α} {off n : ℕ} (h : off + n ≤ m.length) :
    slice (m ++ r) off n = slice m off n := by
  rw [slice, slice, List.drop_append_of_le_length (by omega), List.take_append_of_le_length]
  rw [List.length_drop]
  omega

/-- A slice in two parts. -/
lemma slice_add (m : List α) (off n k : ℕ) : slice m off (n + k) = slice m off n ++ slice m (off + n) k := by
  rw [slice, slice, slice, List.take_add, List.drop_drop]

/-- A slice of a slice. -/
lemma slice_slice {m : List α} {off n i k : ℕ} (h : i + k ≤ n) :
    slice (slice m off n) i k = slice m (off + i) k := by
  rw [slice, slice, slice, List.drop_take, List.drop_drop, List.take_take, min_eq_left (by omega)]

/-- A slice of the start. -/
lemma slice_take_of_le {m : List α} {k i n : ℕ} (h : i + n ≤ k) : slice (m.take k) i n = slice m i n := by
  rw [slice, slice, List.drop_take, List.take_take, min_eq_left (by omega)]

/-- One unit is written over. -/
lemma put_append_cons (a r : List α) (x y : α) : put (a ++ x :: r) a.length [y] = a ++ y :: r := by
  apply List.ext_getElem?
  intro i
  rw [getElem?_put, List.getElem?_append, List.getElem?_append]
  by_cases hi : i < a.length
  · rw [if_pos hi, if_pos hi, List.getElem?_eq_getElem hi, Option.map_some, if_neg (by omega)]
  · rw [if_neg hi, if_neg hi]
    obtain ⟨k, rfl⟩ := Nat.exists_eq_add_of_le (Nat.le_of_not_lt hi)
    rw [Nat.add_sub_cancel_left]
    cases k with
    | zero => simp
    | succ k =>
        rw [List.getElem?_cons_succ, List.getElem?_cons_succ]
        cases r[k]? <;> simp

/-- Units are written over, in the middle of what is known. -/
lemma put_append (a r : List α) {bs : List α} (h : bs.length ≤ r.length) :
    put (a ++ r) a.length bs = a ++ bs ++ r.drop bs.length := by
  apply List.ext_getElem?
  intro i
  rw [getElem?_put, List.append_assoc, List.getElem?_append, List.getElem?_append]
  by_cases hi : i < a.length
  · rw [if_pos hi, if_pos hi, List.getElem?_eq_getElem hi, Option.map_some, if_neg (by omega)]
  · rw [if_neg hi, if_neg hi, List.getElem?_append]
    obtain ⟨k, rfl⟩ := Nat.exists_eq_add_of_le (Nat.le_of_not_lt hi)
    rw [Nat.add_sub_cancel_left]
    by_cases hk : k < bs.length
    · rw [if_pos hk, List.getElem?_eq_getElem (by omega), Option.map_some,
        if_pos (Nat.le_add_right _ _), List.getD_eq_getElem?_getD, List.getElem?_eq_getElem hk,
        Option.getD_some]
    · rw [if_neg hk, List.getElem?_drop, Nat.add_sub_cancel' (Nat.le_of_not_lt hk)]
      have hsame (b : α) : (if a.length ≤ a.length + k then bs.getD k b else b) = b := by
        rw [if_pos (Nat.le_add_right _ _), List.getD_eq_getElem?_getD,
          List.getElem?_eq_none (Nat.le_of_not_lt hk), Option.getD_none]
      simp only [hsame, Option.map_id']

/-- One unit is read. -/
lemma slice_append_cons (a r : List α) (x y : α) :
    slice (a ++ x :: y :: r) (a.length + 1) 1 = [y] := by
  rw [slice, List.append_cons, List.drop_left' (by simp), List.take_one]
  rfl

/-- The loop `for(i=0; i<k; i++) m[i] = m[i+1]`. -/
def pull (m : List α) (k : ℕ) : List α :=
  (List.range k).foldl (fun m i => put m i (slice m (i + 1) 1)) m

/-- **The loop** drops the first unit; the place behind the last unit it moves keeps what it has. -/
theorem pull_cons (x : α) (a r : List α) : ∃ y, pull (x :: (a ++ r)) a.length = a ++ y :: r := by
  induction a using List.reverseRecOn generalizing r with
  | nil => exact ⟨x, rfl⟩
  | append_singleton a b ih =>
      obtain ⟨y, hy⟩ := ih (b :: r)
      refine ⟨b, ?_⟩
      rw [List.length_append, List.length_singleton, pull, List.range_succ, List.foldl_append,
        List.append_assoc, List.singleton_append]
      rw [pull] at hy
      rw [hy, List.foldl_cons, List.foldl_nil, slice_append_cons, put_append_cons, List.append_assoc,
        List.singleton_append]

/-! ## Structures -/

section Structure

/-- Some fields are written, each at its offset. -/
def puts (m : List α) (ws : List (ℕ × List α)) : List α := ws.foldl (fun m w => put m w.1 w.2) m

@[simp] lemma length_puts (m : List α) (ws : List (ℕ × List α)) : (puts m ws).length = m.length := by
  induction ws generalizing m with
  | nil => rfl
  | cons w ws ih =>
      rw [puts, List.foldl_cons, ← puts, ih, length_put]

/-- What lies beside all fields stays. -/
lemma slice_puts_of_disjoint {m : List α} {ws : List (ℕ × List α)} {i n : ℕ}
    (h : ∀ w ∈ ws, i + n ≤ w.1 ∨ w.1 + w.2.length ≤ i) : slice (puts m ws) i n = slice m i n := by
  induction ws generalizing m with
  | nil => rfl
  | cons w ws ih =>
      rw [puts, List.foldl_cons, ← puts, ih fun v hv => h v (List.mem_cons_of_mem w hv),
        slice_put_of_disjoint (h w (List.mem_cons_self ..))]

/-- **The fields of a structure**, none of which lies over another, are read. -/
theorem slice_puts {m : List α} {ws : List (ℕ × List α)}
    (hws : ws.Pairwise fun w v => w.1 + w.2.length ≤ v.1 ∨ v.1 + v.2.length ≤ w.1)
    (hin : ∀ w ∈ ws, w.1 + w.2.length ≤ m.length) {w : ℕ × List α} (hw : w ∈ ws) :
    slice (puts m ws) w.1 w.2.length = w.2 := by
  induction ws generalizing m with
  | nil => exact absurd hw List.not_mem_nil
  | cons v ws ih =>
      obtain ⟨hv, hrest⟩ := List.pairwise_cons.mp hws
      rw [puts, List.foldl_cons, ← puts]
      rcases List.mem_cons.mp hw with rfl | hw
      · rw [slice_puts_of_disjoint hv]
        exact slice_put_self (hin w (List.mem_cons_self ..))
      · refine ih hrest (fun u hu => ?_) hw
        rw [length_put]
        exact hin u (List.mem_cons_of_mem v hu)

/-- They are read wherever the structure has been copied to. -/
lemma slice_of_puts {m m₀ : List α} {off : ℕ} {ws : List (ℕ × List α)} (hm : slice m off m₀.length = puts m₀ ws)
    (hws : ws.Pairwise fun w v => w.1 + w.2.length ≤ v.1 ∨ v.1 + v.2.length ≤ w.1)
    (hin : ∀ w ∈ ws, w.1 + w.2.length ≤ m₀.length) {w : ℕ × List α} (hw : w ∈ ws) :
    slice m (off + w.1) w.2.length = w.2 := by
  rw [← slice_slice (hin w hw), hm, slice_puts hws hin hw]

end Structure

/-! ## Units that are rare -/

/-- What is read of a part of the memory is read of the whole. -/
lemma slice_take {m : List α} {k off n : ℕ} (h : (slice (m.take k) off n).length = n) :
    slice (m.take k) off n = slice m off n := by
  rw [slice, slice, List.drop_take, List.take_take] at *
  rw [List.length_take] at h
  rcases Nat.le_total n (k - off) with hle | hle
  · rw [min_eq_left hle]
  · rw [min_eq_right hle] at h ⊢
    rcases Nat.eq_or_lt_of_le hle with heq | hlt
    · rw [heq]
    · omega

section Count

variable [DecidableEq α]

/-- Among more units than fit, one is rare. -/
lemma exists_count_lt {s : Finset α} {m : List α} {n : ℕ} (h : m.length < s.card * n) :
    ∃ a ∈ s, m.count a < n := by
  by_contra! hall
  have hsum : ∑ a ∈ s ∪ m.toFinset, m.count a = m.length := by
    simp only [← Multiset.coe_count, ← Multiset.coe_card]
    exact Multiset.sum_count_eq_card fun a ha => Finset.mem_union_right s (List.mem_toFinset.mpr ha)
  have hle : s.card * n ≤ m.length := calc
    s.card * n = ∑ _a ∈ s, n := by rw [Finset.sum_const, smul_eq_mul]
    _ ≤ ∑ a ∈ s, m.count a := Finset.sum_le_sum hall
    _ ≤ ∑ a ∈ s ∪ m.toFinset, m.count a :=
        Finset.sum_le_sum_of_subset Finset.subset_union_left
    _ = m.length := hsum
  omega

lemma le_count_of_slice {m : List α} {a : α} {off n : ℕ} (h : slice m off n = List.replicate n a) :
    n ≤ m.count a := calc
  n = (slice m off n).count a := by rw [h, List.count_replicate_self]
  _ ≤ m.count a := ((List.take_sublist _ _).trans (List.drop_sublist _ _)).count_le a

/-- **A unit that is rare** elsewhere is read `n` times only where it has been written `n` times. -/
lemma eq_of_slice_replicate {p s : List α} {a : α} {off n : ℕ} (hp : p.getLast? ≠ some a)
    (hs : s.head? ≠ some a) (hrare : (p ++ s).count a < n)
    (h : slice (p ++ (List.replicate n a ++ s)) off n = List.replicate n a) : off = p.length := by
  rw [List.count_append] at hrare
  have hget (i : ℕ) (hi : i < n) : (p ++ (List.replicate n a ++ s))[off + i]? = some a := by
    have hread := getElem?_slice (p ++ (List.replicate n a ++ s)) off n i
    rwa [h, if_pos hi, List.getElem?_replicate, if_pos hi, eq_comm] at hread
  rcases Nat.lt_trichotomy off p.length with hlt | heq | hgt
  · exfalso
    rcases Nat.lt_or_ge (p.length - 1) (off + n) with hin | hout
    · -- the unit before them
      have hlast := hget (p.length - 1 - off) (by omega)
      rw [Nat.add_sub_cancel' (by omega), List.getElem?_append_left (by omega),
        ← List.getLast?_eq_getElem?] at hlast
      exact hp hlast
    · rw [slice_append_of_le (by omega)] at h
      have hmany := le_count_of_slice h
      omega
  · exact heq
  · exfalso
    rcases Nat.lt_or_ge (p.length + n) off with hfar | hnear
    · have hdrop : (p ++ (List.replicate n a ++ s)).drop off = s.drop (off - p.length - n) := by
        rw [List.drop_append, List.drop_eq_nil_of_le (by omega), List.nil_append, List.drop_append,
          List.drop_eq_nil_of_le (by simp; omega), List.nil_append, List.length_replicate]
      rw [slice, hdrop] at h
      have hmany := le_count_of_slice h
      omega
    · -- the unit behind them
      have hfirst := hget (p.length + n - off) (by omega)
      rw [Nat.add_sub_cancel' hnear, List.getElem?_append_right (by omega), Nat.add_sub_cancel_left,
        List.getElem?_append_right (by simp), List.length_replicate, Nat.sub_self,
        ← List.head?_eq_getElem?] at hfirst
      exact hs hfirst

end Count
end Memory
