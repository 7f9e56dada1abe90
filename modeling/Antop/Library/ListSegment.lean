import Mathlib.Data.List.Nodup
import Mathlib.Data.List.Pairwise
import Mathlib.Logic.Function.Basic
import Mathlib.Tactic

/-!
# Intrusive singly linked lists

The cells of a list are linked by a field of their own, `next`, where `none` is the null pointer.

* `Seg next p xs q` — from `p` the cells `xs` are passed one after the other, and `q` comes next.
* `Seg.nodup` — no cell of a list that ends is passed twice.
* `scan` — a loop that runs a pair of pointers along the list until a cell meets a condition;
  `takeWhile_eq_filter`, `dropWhile_eq_filter` — where it stops in an ordered list.
* `Links` — a pointer to the first cell with the links, and the two edits behind a pair of pointers,
  `Links.unlink` and `Links.link`, with what they do to the list.
-/

namespace ListSegment

variable {κ : Type*}

/-! ## Segments -/

/-- From `p` the cells `xs` are passed, and `q` comes next. -/
def Seg (next : κ → Option κ) : Option κ → List κ → Option κ → Prop
  | p, [], q => p = q
  | p, x :: xs, q => p = some x ∧ Seg next (next x) xs q

variable {next next' : κ → Option κ} {p q r : Option κ} {xs ys : List κ}

@[simp] lemma seg_nil : Seg next p [] q ↔ p = q := Iff.rfl

@[simp] lemma seg_cons {x : κ} : Seg next p (x :: xs) q ↔ p = some x ∧ Seg next (next x) xs q := Iff.rfl

/-- Segments are joined where one ends and the other begins. -/
lemma seg_append : Seg next p (xs ++ ys) q ↔ ∃ r, Seg next p xs r ∧ Seg next r ys q := by
  induction xs generalizing p with
  | nil => simp
  | cons x xs ih => simp [ih, and_assoc]

/-- A memory that agrees on the cells of a segment has it too. -/
lemma Seg.transport (h : Seg next p xs q) (heq : ∀ x ∈ xs, next' x = next x) : Seg next' p xs q := by
  induction xs generalizing p with
  | nil => exact h
  | cons x xs ih =>
      rw [List.forall_mem_cons] at heq
      refine ⟨h.1, ?_⟩
      rw [heq.1]
      exact ih h.2 heq.2

/-- The links decide a list that ends. -/
lemma Seg.unique (h : Seg next p xs none) (h' : Seg next p ys none) : xs = ys := by
  induction xs generalizing p ys with
  | nil =>
      cases ys with
      | nil => rfl
      | cons y ys => exact absurd (h.symm.trans h'.1) (by simp)
  | cons x xs ih =>
      cases ys with
      | nil => exact absurd (h'.symm.trans h.1) (by simp)
      | cons y ys =>
          obtain rfl : x = y := Option.some.inj (h.1.symm.trans h'.1)
          rw [ih h.2 h'.2]

/-- **A list that ends has no cycle**: the cells behind a cell are decided by it, so it does not come
again. -/
lemma Seg.nodup (h : Seg next p xs none) : xs.Nodup := by
  induction xs generalizing p with
  | nil => exact List.nodup_nil
  | cons x xs ih =>
      refine List.nodup_cons.mpr ⟨fun hx => ?_, ih h.2⟩
      obtain ⟨as, bs, rfl⟩ := List.append_of_mem hx
      obtain ⟨r, -, hr⟩ := seg_append.mp h.2
      -- the rest of the list behind the second `x` is the one behind the first
      have hsame := hr.2.unique h.2
      have hlen := congrArg List.length hsame
      simp at hlen
      omega

/-- Where a segment ends that is part of a list that ends. -/
lemma Seg.head_eq (h : Seg next p xs none) : p = xs.head? := by
  cases xs with
  | nil => exact h
  | cons x xs => exact h.1

lemma seg_append_head : Seg next p (xs ++ ys) none ↔ Seg next p xs ys.head? ∧ Seg next ys.head? ys none := by
  rw [seg_append]
  constructor
  · rintro ⟨r, hx, hy⟩
    exact ⟨hy.head_eq ▸ hx, hy.head_eq ▸ hy⟩
  · rintro ⟨hx, hy⟩
    exact ⟨_, hx, hy⟩

/-- The last cell of one part of a list is not in the other. -/
lemma getLast_notMem (h : (xs ++ ys).Nodup) : ∀ b ∈ xs.getLast?, b ∉ ys := by
  intro b hb hy
  exact (List.nodup_append.mp h).2.2 b (List.mem_of_getLast? hb) b hy rfl

/-! ## Walking along a list -/

/-- `for (prev = NULL, curr = p; curr != NULL; prev = curr, curr = curr->next) if (stop) break;`, with
the values of `prev` and `curr` at the end.  It is `none` when the loop has not ended after as many
rounds as the fuel allows. -/
def scan (stop : κ → Bool) (next : κ → Option κ) : ℕ → Option κ → Option κ → Option (Option κ × Option κ)
  | _, prev, none => some (prev, none)
  | 0, _, some _ => none
  | fuel + 1, prev, some c =>
      if stop c then some (prev, some c) else scan stop next fuel (some c) (next c)

/-- **The walk** ends at the first cell that meets the condition, or at the end of the list. -/
lemma scan_eq (stop : κ → Bool) (h : Seg next p xs none) {fuel : ℕ} (hfuel : xs.length ≤ fuel)
    (prev : Option κ) :
    scan stop next fuel prev p =
      some ((xs.takeWhile fun x => !stop x).getLast?.or prev, (xs.dropWhile fun x => !stop x).head?) := by
  induction xs generalizing p prev fuel with
  | nil =>
      obtain rfl : p = none := h
      simp [scan]
  | cons x xs ih =>
      obtain ⟨rfl, htail⟩ := h
      cases fuel with
      | zero => simp at hfuel
      | succ fuel =>
          rw [scan]
          by_cases hs : stop x
          · simp [hs]
          · rw [if_neg hs, ih htail (by simpa using hfuel)]
            simp only [List.takeWhile_cons, List.dropWhile_cons, hs, Bool.not_false, if_true]
            cases htw : (xs.takeWhile fun x => !stop x) with
            | nil => simp
            | cons y ys => simp [List.getLast?_cons]

/-- A cell that comes after itself is passed for ever. -/
lemma scan_loop {stop : κ → Bool} {t : κ} (hstop : stop t = false) (hnext : next t = some t) (fuel : ℕ)
    (prev : Option κ) : scan stop next fuel prev (some t) = none := by
  induction fuel generalizing prev with
  | zero => rfl
  | succ fuel ih => rw [scan, hstop, if_neg Bool.false_ne_true, hnext, ih]

/-! ## Where the walk stops in an ordered list -/

/-- When the cells behind one that meets the condition meet it too, the walk passes those that do not. -/
lemma takeWhile_eq_filter {stop : κ → Bool} (h : xs.Pairwise fun x y => stop x = true → stop y = true) :
    (xs.takeWhile fun x => !stop x) = xs.filter fun x => !stop x := by
  induction xs with
  | nil => rfl
  | cons x xs ih =>
      obtain ⟨hx, htail⟩ := List.pairwise_cons.mp h
      by_cases hs : stop x
      · have hnone : (xs.filter fun y => !stop y) = [] := by
          rw [List.filter_eq_nil_iff]
          intro y hy
          simp [hx y hy hs]
        simp [hs, hnone]
      · simp [hs, ih htail]

/-- And the rest of the list are those that meet it. -/
lemma dropWhile_eq_filter {stop : κ → Bool} (h : xs.Pairwise fun x y => stop x = true → stop y = true) :
    (xs.dropWhile fun x => !stop x) = xs.filter stop := by
  induction xs with
  | nil => rfl
  | cons x xs ih =>
      obtain ⟨hx, htail⟩ := List.pairwise_cons.mp h
      by_cases hs : stop x
      · have hall : xs.filter stop = xs := by
          rw [List.filter_eq_self]
          exact fun y hy => hx y hy hs
        simp [hs, hall]
      · simp [hs, ih htail]

/-! ## The two edits -/

/-- A list in memory: the pointer to its first cell, and the links. -/
structure Links (κ : Type*) where
  head : Option κ
  next : κ → Option κ

namespace Links

/-- The list has the cells `xs`. -/
def Has (l : Links κ) (xs : List κ) : Prop := Seg l.next l.head xs none

variable [DecidableEq κ] {l : Links κ}

/-- The pointer that leads to the cell behind `prev`: the one to the first cell when there is no such
`prev`. -/
def setAfter (l : Links κ) (prev : Option κ) (q : Option κ) : Links κ :=
  match prev with
  | none => { l with head := q }
  | some b => { l with next := Function.update l.next b q }

/-- The cell `t` behind `prev` is taken out of the list. -/
def unlink (l : Links κ) (prev : Option κ) (t : κ) : Links κ :=
  let l := l.setAfter prev (l.next t)
  { l with next := Function.update l.next t none }

/-- The cell `t` is put into the list between `prev` and `curr`. -/
def link (l : Links κ) (prev curr : Option κ) (t : κ) : Links κ :=
  { l with next := Function.update l.next t curr }.setAfter prev (some t)

/-- Redirecting the pointer behind a segment. -/
lemma seg_setAfter {l : Links κ} (h : Seg l.next l.head xs q) (hnodup : xs.Nodup) (r : Option κ) :
    Seg (l.setAfter xs.getLast? r).next (l.setAfter xs.getLast? r).head xs r := by
  rcases List.eq_nil_or_concat xs with rfl | ⟨as, b, rfl⟩
  · rfl
  · rw [List.concat_eq_append] at h hnodup ⊢
    obtain ⟨s, has, hb, -⟩ := seg_append.mp h
    have hnot : b ∉ as := fun hmem => (List.nodup_append.mp hnodup).2.2 b hmem b (by simp) rfl
    rw [List.getLast?_append, List.getLast?_singleton, Option.some_or]
    refine seg_append.mpr ⟨s, has.transport fun x hx => ?_, hb, ?_⟩
    · have hne : x ≠ b := fun heq => hnot (heq ▸ hx)
      exact Function.update_of_ne hne _ _
    · exact Function.update_self ..

/-- Redirecting it leaves the segments that do not have its cell as they are. -/
lemma seg_setAfter_of_disjoint {prev r : Option κ} (h : Seg l.next p ys q) (hdis : ∀ b ∈ prev, b ∉ ys) :
    Seg (l.setAfter prev r).next p ys q := by
  cases prev with
  | none => exact h
  | some b =>
      refine h.transport fun x hx => ?_
      have hne : x ≠ b := fun heq => hdis b rfl (heq ▸ hx)
      exact Function.update_of_ne hne _ _

/-- A link of a cell that a segment does not have. -/
lemma seg_update_of_notMem {t : κ} (h : Seg next p ys q) (ht : t ∉ ys) (r : Option κ) :
    Seg (Function.update next t r) p ys q := by
  refine h.transport fun x hx => ?_
  have hne : x ≠ t := fun heq => ht (heq ▸ hx)
  exact Function.update_of_ne hne _ _

/-- **Taking a cell out.** -/
theorem Has.unlink {t : κ} (h : l.Has (xs ++ t :: ys)) : (l.unlink xs.getLast? t).Has (xs ++ ys) := by
  have hnodup := Seg.nodup h
  obtain ⟨hxs, -, hys⟩ := seg_append_head.mp h
  have ht := List.nodup_middle.mp hnodup
  obtain ⟨htnot, hrest⟩ := List.nodup_cons.mp ht
  rw [List.mem_append, not_or] at htnot
  refine seg_append.mpr ⟨l.next t, ?_, ?_⟩
  · exact seg_update_of_notMem (seg_setAfter hxs (List.nodup_append.mp hrest).1 _) htnot.1 _
  · exact seg_update_of_notMem (seg_setAfter_of_disjoint hys (getLast_notMem hrest)) htnot.2 _

/-- **Putting a cell in.** -/
theorem Has.link {t : κ} (h : l.Has (xs ++ ys)) (ht : t ∉ xs ++ ys) :
    (l.link xs.getLast? ys.head? t).Has (xs ++ t :: ys) := by
  have hnodup := Seg.nodup h
  obtain ⟨hxs, hys⟩ := seg_append_head.mp h
  have ht' := ht
  rw [List.mem_append, not_or] at ht'
  let m : Links κ := { l with next := Function.update l.next t ys.head? }
  have hxs' : Seg m.next m.head xs ys.head? := seg_update_of_notMem hxs ht'.1 _
  have hys' : Seg m.next ys.head? ys none := seg_update_of_notMem hys ht'.2 _
  have htys : Seg m.next (some t) (t :: ys) none := by
    refine ⟨rfl, ?_⟩
    rw [show m.next t = ys.head? from Function.update_self ..]
    exact hys'
  have hdis : ∀ b ∈ xs.getLast?, b ∉ t :: ys := by
    intro b hb
    rw [List.mem_cons, not_or]
    exact ⟨fun heq => ht'.1 (heq ▸ List.mem_of_getLast? hb), getLast_notMem hnodup b hb⟩
  exact seg_append.mpr ⟨some t, seg_setAfter hxs' (List.nodup_append.mp hnodup).1 _,
    seg_setAfter_of_disjoint htys hdis⟩

/-- Taking a cell out leaves the segments apart from the list as they are. -/
lemma seg_unlink_of_disjoint {t : κ} {prev : Option κ} {zs : List κ} (h : Seg l.next p zs q)
    (hprev : ∀ b ∈ prev, b ∉ zs) (ht : t ∉ zs) : Seg (l.unlink prev t).next p zs q :=
  seg_update_of_notMem (seg_setAfter_of_disjoint h hprev) ht _

/-- So does putting one in. -/
lemma seg_link_of_disjoint {t : κ} {prev curr : Option κ} {zs : List κ} (h : Seg l.next p zs q)
    (hprev : ∀ b ∈ prev, b ∉ zs) (ht : t ∉ zs) : Seg (l.link prev curr t).next p zs q :=
  seg_setAfter_of_disjoint (l := { l with next := Function.update l.next t curr })
    (seg_update_of_notMem h ht _) hprev

end Links

end ListSegment
