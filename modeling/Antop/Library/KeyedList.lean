import Mathlib.Data.List.Nodup
import Mathlib.Tactic

/-!
# Tables as lists with a key

A table is a list of entries, with a key that should be in it once.  The operations work on the first
entry they find.

* `replaceF_eq_map` — changing the first entry under a key changes all of them, as there is one.
* `upsert` — the entry under a key is replaced, or a new one goes to the end; `nodup_upsert`,
  `mem_upsert_iff`.
* `find?_filterMap`, `find?_map_entry` — the entry under a key, after each entry has been changed or dropped
  by itself and after one has been changed.
* `eraseP_eq_filter_iff` — erasing the first entry with a value erases all of them exactly when there
  is at most one.
-/

namespace KeyedList

variable {α κ : Type*} [DecidableEq κ] {key : α → κ} {l : List α}

/-! ## Changing an entry -/

/-- The first entry under a key is the only one. -/
lemma replaceF_eq_map (h : (l.map key).Nodup) (k : κ) (g : α → α) :
    (l.replaceF fun a => if key a = k then some (g a) else none)
      = l.map fun a => if key a = k then g a else a := by
  induction l with
  | nil => rfl
  | cons a l ih =>
      rw [List.map_cons, List.nodup_cons] at h
      rw [List.replaceF, List.map_cons]
      by_cases ha : key a = k
      · have hrest : (l.map fun b => if key b = k then g b else b) = l := by
          refine (List.map_congr_left fun b hb => if_neg fun hbk => h.1 ?_).trans (List.map_id l)
          exact List.mem_map.mpr ⟨b, hb, hbk.trans ha.symm⟩
        rw [if_pos ha, if_pos ha, hrest]
      · rw [if_neg ha, if_neg ha, ih h.2]

/-- The keys stay the same when the key of the entry does. -/
lemma map_key_map {k : κ} {g : α → α} (hg : ∀ a, key a = k → key (g a) = k) (l : List α) :
    (l.map fun a => if key a = k then g a else a).map key = l.map key := by
  rw [List.map_map]
  refine List.map_congr_left fun a _ => ?_
  rw [Function.comp_apply]
  split_ifs with ha
  · rw [hg a ha, ha]
  · rfl

/-! ## Putting an entry -/

/-- The first entry under the key of `x` is replaced by `x`, or `x` goes to the end. -/
def upsert (key : α → κ) (x : α) (l : List α) : List α :=
  if l.any fun a => key a = key x then l.replaceF fun a => if key a = key x then some x else none
  else l ++ [x]

lemma upsert_of_mem {x : α} (h : (l.map key).Nodup) (hx : key x ∈ l.map key) :
    upsert key x l = l.map fun a => if key a = key x then x else a := by
  have hany : (l.any fun a => key a = key x) = true := by simpa using hx
  rw [upsert, if_pos hany]
  exact replaceF_eq_map h (key x) fun _ => x

lemma upsert_of_notMem {x : α} (hx : key x ∉ l.map key) : upsert key x l = l ++ [x] := by
  have hany : ¬ (l.any fun a => key a = key x) = true := by simpa using hx
  rw [upsert, if_neg hany]

/-- What is in a table was in it before, or is the entry that was put. -/
lemma mem_of_mem_upsert {x a : α} (ha : a ∈ upsert key x l) : a = x ∨ a ∈ l := by
  rw [upsert] at ha
  split_ifs at ha with hany
  · clear hany
    induction l with
    | nil => exact absurd ha List.not_mem_nil
    | cons b l ih =>
        rw [List.replaceF] at ha
        by_cases hb : key b = key x
        · rw [if_pos hb, List.mem_cons] at ha
          exact ha.imp_right (List.mem_cons_of_mem b)
        · rw [if_neg hb, List.mem_cons] at ha
          rcases ha with rfl | ha
          · exact Or.inr List.mem_cons_self
          · exact (ih ha).imp_right (List.mem_cons_of_mem b)
  · rcases List.mem_append.mp ha with ha | ha
    · exact Or.inr ha
    · exact Or.inl (List.mem_singleton.mp ha)

/-- **Keys stay apart.** -/
lemma nodup_upsert (h : (l.map key).Nodup) (x : α) : ((upsert key x l).map key).Nodup := by
  by_cases hx : key x ∈ l.map key
  · rw [upsert_of_mem h hx, map_key_map (fun _ _ => rfl) l]
    exact h
  · rw [upsert_of_notMem hx, List.map_append, List.map_singleton]
    exact List.nodup_append.mpr ⟨h, List.nodup_singleton _, fun a ha b hb hab =>
      hx (List.mem_singleton.mp hb ▸ hab ▸ ha)⟩

/-- **What is in the table**: the new entry, and the ones under other keys. -/
lemma mem_upsert_iff (h : (l.map key).Nodup) {x a : α} :
    a ∈ upsert key x l ↔ a = x ∨ a ∈ l ∧ key a ≠ key x := by
  by_cases hx : key x ∈ l.map key
  · rw [upsert_of_mem h hx, List.mem_map]
    constructor
    · rintro ⟨b, hb, rfl⟩
      split_ifs with hbx
      · exact Or.inl rfl
      · exact Or.inr ⟨hb, hbx⟩
    · rintro (rfl | ⟨ha, hne⟩)
      · obtain ⟨b, hb, hbx⟩ := List.mem_map.mp hx
        exact ⟨b, hb, if_pos hbx⟩
      · exact ⟨a, ha, if_neg hne⟩
  · rw [upsert_of_notMem hx, List.mem_append, List.mem_singleton]
    constructor
    · rintro (ha | rfl)
      · exact Or.inr ⟨ha, fun hax => hx (List.mem_map.mpr ⟨a, ha, hax⟩)⟩
      · exact Or.inl rfl
    · rintro (rfl | ⟨ha, -⟩)
      · exact Or.inr rfl
      · exact Or.inl ha

/-! ## The entry under a key -/

/-- There is an entry under a key exactly when the key is in the table. -/
lemma isSome_find?_iff (k : κ) : (l.find? fun a => key a = k).isSome ↔ k ∈ l.map key := by
  rw [List.find?_isSome, List.mem_map]
  simp

omit [DecidableEq κ] in
/-- Changing or dropping entries leaves some of the keys. -/
lemma map_key_filterMap_sublist {f : α → Option α} (hf : ∀ a b, f a = some b → key b = key a) (l : List α) :
    ((l.filterMap f).map key).Sublist (l.map key) := by
  induction l with
  | nil => exact List.Sublist.refl _
  | cons a l ih =>
      cases hfa : f a with
      | none =>
          rw [List.filterMap_cons_none hfa]
          exact ih.cons _
      | some b =>
          rw [List.filterMap_cons_some hfa, List.map_cons, List.map_cons, hf a b hfa]
          exact ih.cons_cons _

/-- **Each entry for itself**: when every entry is changed or dropped, so is the one under a key, whatever
the others are. -/
lemma find?_filterMap {f : α → Option α} (hf : ∀ a b, f a = some b → key b = key a)
    (h : (l.map key).Nodup) (k : κ) :
    (l.filterMap f).find? (fun a => key a = k) = (l.find? fun a => key a = k).bind f := by
  induction l with
  | nil => rfl
  | cons a l ih =>
      rw [List.map_cons, List.nodup_cons] at h
      have ih := ih h.2
      by_cases ha : key a = k
      · -- no other entry has the key
        have hrest : (l.find? fun b => key b = k) = none := by
          rw [← Option.not_isSome_iff_eq_none, isSome_find?_iff, ← ha]
          exact h.1
        rw [List.find?_cons_of_pos (by simpa using ha), Option.bind_some]
        cases hfa : f a with
        | none => rw [List.filterMap_cons_none hfa, ih, hrest, Option.bind_none]
        | some b =>
            rw [List.filterMap_cons_some hfa, List.find?_cons_of_pos (by simpa [hf a b hfa] using ha)]
      · rw [List.find?_cons_of_neg (by simpa using ha)]
        cases hfa : f a with
        | none => rw [List.filterMap_cons_none hfa, ih]
        | some b =>
            rw [List.filterMap_cons_some hfa, List.find?_cons_of_neg (by simpa [hf a b hfa] using ha), ih]

/-- Changing the entries under one key. -/
lemma find?_map_entry {g : α → α} (hg : ∀ a, key (g a) = key a) (k k' : κ) (l : List α) :
    (l.map fun a => if key a = k then g a else a).find? (fun a => key a = k')
      = (l.find? fun a => key a = k').map fun a => if k' = k then g a else a := by
  induction l with
  | nil => rfl
  | cons a l ih =>
      have hkey : key (if key a = k then g a else a) = key a := by
        split_ifs
        · exact hg a
        · rfl
      rw [List.map_cons]
      by_cases ha : key a = k'
      · rw [List.find?_cons_of_pos (by simpa [hkey] using ha), List.find?_cons_of_pos (by simpa using ha),
          Option.map_some, ha]
      · rw [List.find?_cons_of_neg (by simpa [hkey] using ha), List.find?_cons_of_neg (by simpa using ha), ih]

/-! ## Erasing entries -/

/-- **The first one or all.** -/
lemma eraseP_eq_filter_iff (k : κ) :
    (l.eraseP fun a => key a = k) = (l.filter fun a => ¬ key a = k) ↔ (l.countP fun a => key a = k) ≤ 1 := by
  induction l with
  | nil => simp
  | cons a l ih =>
      by_cases ha : key a = k
      · rw [List.eraseP_cons_of_pos (by simpa using ha), List.filter_cons_of_neg (by simpa using ha),
          List.countP_cons_of_pos (by simpa using ha), eq_comm, List.filter_eq_self]
        simp [List.countP_eq_zero]
      · rw [List.eraseP_cons_of_neg (by simpa using ha), List.filter_cons_of_pos (by simpa using ha),
          List.countP_cons_of_neg (by simpa using ha), List.cons_inj_right, ih]

end KeyedList
