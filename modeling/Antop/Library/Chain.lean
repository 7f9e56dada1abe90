import Antop.Library.Memory

/-!
# Units of memory that follow one another

A loop goes from one place to the next as long as a test says so.  The case of interest is memory in which
units follow one another: each begins with a header that has its size, and the next one begins behind it, where
the size rounded up ends.

* `visited` — the places a loop goes through; `visited_eq` says that enough fuel is as good as any.
* `Format`, `Format.walk` — such units, and the places where those in a piece of memory begin.
* `Format.walk_inside`, `Format.walk_apart` — whatever the memory holds, the units that are visited lie in it
  and do not overlap.
* **`Format.walk_of_laid`** — where units have been laid one behind another, exactly these are visited, whatever
  fills the gaps between them; `Format.walk_of_filled` — also where the last one is not padded.
-/

namespace Chain

open Memory

/-! ## Loops that go from place to place -/

section Visited

variable {α β : Type*} (ok : α → Prop) [DecidablePred ok] (next : α → α)

/-- The places that a loop goes through, at most `k` of them. -/
def visited : ℕ → α → List α
  | 0, _ => []
  | k + 1, a => if ok a then a :: visited k (next a) else []

variable {ok next}

lemma ok_of_mem_visited {k : ℕ} {a b : α} (h : b ∈ visited ok next k a) : ok b := by
  induction k generalizing a with
  | zero => exact absurd h List.not_mem_nil
  | succ k ih =>
      rw [visited] at h
      split_ifs at h with ha
      · rcases List.mem_cons.mp h with rfl | h
        · exact ha
        · exact ih h
      · exact absurd h List.not_mem_nil

/-- **Fuel.**  A loop that decreases a measure needs no more steps than the measure says. -/
lemma visited_eq {μ : α → ℕ} (hμ : ∀ a, ok a → μ (next a) < μ a) {k : ℕ} {a : α} (hk : μ a ≤ k) :
    visited ok next k a = visited ok next (μ a) a := by
  induction k using Nat.strong_induction_on generalizing a with
  | _ k ih =>
      by_cases ha : ok a
      · have hlt := hμ a ha
        obtain ⟨k, rfl⟩ : ∃ j, k = j + 1 := ⟨k - 1, by omega⟩
        obtain ⟨n, hn⟩ : ∃ j, μ a = j + 1 := ⟨μ a - 1, by omega⟩
        rw [hn, visited, visited, if_pos ha, if_pos ha, ih k (by omega) (by omega : μ (next a) ≤ k)]
        rcases Nat.lt_or_ge n (k + 1) with hnk | hnk
        · rw [ih n hnk (by omega : μ (next a) ≤ n)]
        · omega
      · cases k <;> cases hn : μ a <;> simp [visited, ha]

/-- What holds of the first place and goes on with each step holds of all places. -/
lemma visited_rule {P : α → Prop} (hP : ∀ a, P a → ok a → P (next a)) {k : ℕ} {a b : α} (ha : P a)
    (h : b ∈ visited ok next k a) : P b := by
  induction k generalizing a with
  | zero => exact absurd h List.not_mem_nil
  | succ k ih =>
      rw [visited] at h
      split_ifs at h with hok
      · rcases List.mem_cons.mp h with rfl | h
        · exact ha
        · exact ih (hP a ha hok) h
      · exact absurd h List.not_mem_nil

/-- A test that passes at all places may be asked for. -/
lemma visited_and {Q : α → Prop} [DecidablePred Q] {k : ℕ} {a : α} (hQ : ∀ b ∈ visited ok next k a, Q b) :
    visited (fun a => ok a ∧ Q a) next k a = visited ok next k a := by
  induction k generalizing a with
  | zero => rfl
  | succ k ih =>
      rw [visited] at hQ
      rw [visited, visited]
      by_cases ha : ok a
      · rw [if_pos ha] at hQ
        rw [if_pos ha, if_pos ⟨ha, hQ a (List.mem_cons_self ..)⟩, ih fun b hb => hQ b (List.mem_cons_of_mem a hb)]
      · rw [if_neg ha, if_neg fun h => ha h.1]

/-- **Two loops** that agree on corresponding places go through corresponding places. -/
lemma visited_map {ok' : β → Prop} [DecidablePred ok'] {next' : β → β} (f : α → β) {P : α → Prop}
    (hP : ∀ a, P a → ok a → P (next a)) (hok : ∀ a, P a → (ok' (f a) ↔ ok a))
    (hnext : ∀ a, P a → ok a → next' (f a) = f (next a)) (k : ℕ) {a : α} (ha : P a) :
    visited ok' next' k (f a) = (visited ok next k a).map f := by
  induction k generalizing a with
  | zero => rfl
  | succ k ih =>
      rw [visited, visited]
      by_cases hoka : ok a
      · rw [if_pos ((hok a ha).mpr hoka), if_pos hoka, hnext a ha hoka, ih (hP a ha hoka), List.map_cons]
      · rw [if_neg fun h => hoka ((hok a ha).mp h), if_neg hoka, List.map_nil]

end Visited

/-! ## Units with a header -/

/-- How units lie in memory: the length of a header, the size that is written in it, and where the next unit
begins after a unit of some size. -/
structure Format (α : Type*) where
  hdr : ℕ
  size : List α → ℕ
  round : ℕ → ℕ
  hdr_pos : 0 < hdr
  le_round : ∀ n, n ≤ round n

namespace Format

variable {α : Type*} (F : Format α) (m : List α) (fin : ℕ)

/-- The size that is written at `off`. -/
def sizeAt (off : ℕ) : ℕ := F.size (slice m off F.hdr)

/-- There is a unit at `off`, which ends before `fin`. -/
def Fits (off : ℕ) : Prop := off + F.hdr ≤ fin ∧ F.hdr ≤ F.sizeAt m off ∧ off + F.sizeAt m off ≤ fin

instance : DecidablePred (F.Fits m fin) := fun off =>
  inferInstanceAs (Decidable (off + F.hdr ≤ fin ∧ F.hdr ≤ F.sizeAt m off ∧ off + F.sizeAt m off ≤ fin))

/-- Where the next unit begins. -/
def next (off : ℕ) : ℕ := off + F.round (F.sizeAt m off)

/-- The places where units begin, from `off` to `fin`. -/
def walk (off : ℕ) : List ℕ := visited (F.Fits m fin) (F.next m) (fin - off) off

variable {F m fin}

lemma Fits.next_lt {off : ℕ} (h : F.Fits m fin off) : fin - F.next m off < fin - off := by
  have hpos := F.hdr_pos
  have hle := F.le_round (F.sizeAt m off)
  obtain ⟨hhdr, hsize, hend⟩ := h
  rw [next]
  omega

/-- More fuel does not change the walk. -/
lemma visited_eq_walk {k off : ℕ} (hk : fin - off ≤ k) :
    visited (F.Fits m fin) (F.next m) k off = F.walk m fin off :=
  visited_eq (μ := fun off => fin - off) (fun _ h => h.next_lt) hk

lemma walk_of_fits {off : ℕ} (h : F.Fits m fin off) :
    F.walk m fin off = off :: F.walk m fin (F.next m off) := by
  have hlt := h.next_lt
  obtain ⟨k, hk⟩ : ∃ k, fin - off = k + 1 := ⟨fin - off - 1, by omega⟩
  rw [walk, hk, visited, if_pos h, visited_eq_walk (by omega)]

lemma walk_of_not_fits {off : ℕ} (h : ¬ F.Fits m fin off) : F.walk m fin off = [] := by
  rw [walk]
  cases fin - off with
  | zero => rfl
  | succ k => rw [visited, if_neg h]

/-- **In range.**  Every unit that is visited lies between the start and the end. -/
theorem walk_inside {off o : ℕ} (h : o ∈ F.walk m fin off) :
    off ≤ o ∧ F.hdr ≤ F.sizeAt m o ∧ o + F.sizeAt m o ≤ fin := by
  have hok : F.Fits m fin o := ok_of_mem_visited h
  refine ⟨visited_rule (P := fun o => off ≤ o) (fun a ha _ => ?_) (le_refl off) h, hok.2⟩
  rw [next]
  exact ha.trans (Nat.le_add_right _ _)

/-- **Apart.**  A unit that is visited later begins behind the earlier ones. -/
theorem walk_apart (off : ℕ) : (F.walk m fin off).Pairwise fun o o' => o + F.sizeAt m o ≤ o' := by
  induction hn : fin - off using Nat.strong_induction_on generalizing off with
  | _ n ih =>
      by_cases hfits : F.Fits m fin off
      · rw [walk_of_fits hfits]
        refine List.Pairwise.cons (fun o ho => ?_) (ih _ (hn ▸ hfits.next_lt) _ rfl)
        have hround := F.le_round (F.sizeAt m off)
        have hfrom := (walk_inside ho).1
        rw [next] at hfrom
        omega
      · rw [walk_of_not_fits hfits]
        exact List.Pairwise.nil

/-! ## Units that have been laid -/

variable (F m)

/-- A unit has its own size in its header. -/
def Proper (u : List α) : Prop := F.hdr ≤ u.length ∧ F.size (u.take F.hdr) = u.length

/-- The units lie one behind another, from `off` to `fin`. -/
def Laid : ℕ → List (List α) → ℕ → Prop
  | off, [], fin => off = fin
  | off, u :: us, fin => slice m off u.length = u ∧ Laid (off + F.round u.length) us fin

variable {F m}

lemma Laid.le {off fin : ℕ} {us : List (List α)} (h : F.Laid m off us fin) : off ≤ fin := by
  induction us generalizing off with
  | nil => exact Nat.le_of_eq h
  | cons u us ih => exact (Nat.le_add_right _ _).trans (ih h.2)

/-- What ends where others begin. -/
lemma Laid.append {off mid fin : ℕ} {us vs : List (List α)} (hus : F.Laid m off us mid)
    (hvs : F.Laid m mid vs fin) : F.Laid m off (us ++ vs) fin := by
  induction us generalizing off with
  | nil =>
      obtain rfl : off = mid := hus
      exact hvs
  | cons u us ih => exact ⟨hus.1, ih hus.2⟩

/-- **The frame.**  Memory that has the same bytes in between has the same units. -/
lemma Laid.of_slice {m' : List α} {off fin : ℕ} {us : List (List α)} (h : F.Laid m off us fin)
    (hsame : ∀ i n, off ≤ i → i + n ≤ fin → slice m' i n = slice m i n) : F.Laid m' off us fin := by
  induction us generalizing off with
  | nil => exact h
  | cons u us ih =>
      have hround := F.le_round u.length
      have hend : off + F.round u.length ≤ fin := Laid.le h.2
      refine ⟨?_, ih h.2 fun i n hi hn => hsame i n (by omega) hn⟩
      rw [hsame off u.length (le_refl off) (by omega)]
      exact h.1

/-- **A piece of memory** has its units where it lies. -/
lemma Laid.shift {p : List α} {k off fin : ℕ} {us : List (List α)} (h : F.Laid p off us fin)
    (hp : slice m k p.length = p) (hfin : fin ≤ p.length) : F.Laid m (k + off) us (k + fin) := by
  induction us generalizing off with
  | nil =>
      obtain rfl : off = fin := h
      rfl
  | cons u us ih =>
      have hround := F.le_round u.length
      have hend : off + F.round u.length ≤ fin := Laid.le h.2
      refine ⟨?_, ?_⟩
      · rw [← slice_slice (n := p.length) (by omega), hp]
        exact h.1
      · rw [Nat.add_assoc]
        exact ih h.2

/-- A proper unit is read as it is. -/
lemma sizeAt_of_proper {u : List α} (hu : F.Proper u) {off : ℕ} (h : slice m off u.length = u) :
    F.sizeAt m off = u.length := by
  have hhead : slice m off F.hdr = u.take F.hdr := by
    rw [← h, slice, slice, List.take_take, min_eq_left hu.1]
  rw [sizeAt, hhead, hu.2]

/-- **What has been laid** is what is visited. -/
theorem walk_of_laid {off fin : ℕ} {us : List (List α)} (hus : ∀ u ∈ us, F.Proper u)
    (h : F.Laid m off us fin) : List.Forall₂ (fun o u => slice m o u.length = u) (F.walk m fin off) us := by
  induction us generalizing off with
  | nil =>
      obtain rfl : off = fin := h
      have hpos := F.hdr_pos
      rw [walk_of_not_fits fun hfits => by have := hfits.1; omega]
      exact List.Forall₂.nil
  | cons u us ih =>
      have hu := hus u (List.mem_cons_self ..)
      have hsize := sizeAt_of_proper hu h.1
      have hround := F.le_round u.length
      have hend : off + F.round u.length ≤ fin := Laid.le h.2
      have hfits : F.Fits m fin off := by
        have hhdr := hu.1
        refine ⟨?_, ?_, ?_⟩ <;> omega
      rw [walk_of_fits hfits, next, hsize]
      exact List.Forall₂.cons h.1 (ih (fun v hv => hus v (List.mem_cons_of_mem u hv)) h.2)

/-! ## Without padding at the end -/

variable (F m)

/-- The units lie one behind another, from `off` to `fin`; the last one need not be padded. -/
def Filled : ℕ → List (List α) → ℕ → Prop
  | off, [], fin => off = fin
  | off, [u], fin => slice m off u.length = u ∧ off + u.length ≤ fin ∧ fin ≤ off + F.round u.length
  | off, u :: v :: us, fin => slice m off u.length = u ∧ Filled (off + F.round u.length) (v :: us) fin

variable {F m}

lemma Filled.le {off fin : ℕ} {us : List (List α)} (h : F.Filled m off us fin) : off ≤ fin := by
  induction us generalizing off with
  | nil => exact Nat.le_of_eq h
  | cons u us ih =>
      cases us with
      | nil => exact (Nat.le_add_right _ _).trans h.2.1
      | cons v us => exact (Nat.le_add_right _ _).trans (ih h.2)

/-- The first unit, and the others behind it. -/
lemma Filled.cons {off fin : ℕ} {u : List α} {us : List (List α)} (h : F.Filled m off (u :: us) fin) :
    slice m off u.length = u ∧ off + u.length ≤ fin
      ∧ (us = [] ∧ fin ≤ off + F.round u.length ∨ us ≠ [] ∧ F.Filled m (off + F.round u.length) us fin) := by
  cases us with
  | nil => exact ⟨h.1, h.2.1, Or.inl ⟨rfl, h.2.2⟩⟩
  | cons v us =>
      have hround := F.le_round u.length
      have hrest := Filled.le h.2
      exact ⟨h.1, by omega, Or.inr ⟨List.cons_ne_nil v us, h.2⟩⟩

/-- **A piece of memory** has its units where it lies. -/
lemma Filled.shift {p : List α} {k off fin : ℕ} {us : List (List α)} (h : F.Filled p off us fin)
    (hp : slice m k p.length = p) (hfin : fin ≤ p.length) : F.Filled m (k + off) us (k + fin) := by
  induction us generalizing off with
  | nil =>
      obtain rfl : off = fin := h
      rfl
  | cons u us ih =>
      obtain ⟨hu, hend, hrest⟩ := h.cons
      have hslice : slice m (k + off) u.length = u := by
        rw [← slice_slice (n := p.length) (by omega), hp]
        exact hu
      cases us with
      | nil =>
          have hlast : fin ≤ off + F.round u.length := h.2.2
          exact ⟨hslice, by omega, by omega⟩
      | cons v us =>
          refine ⟨hslice, ?_⟩
          rw [Nat.add_assoc]
          exact ih h.2

/-- **What fills the memory** is what is visited, with or without padding at the end. -/
theorem walk_of_filled {off fin : ℕ} {us : List (List α)} (hus : ∀ u ∈ us, F.Proper u)
    (h : F.Filled m off us fin) : List.Forall₂ (fun o u => slice m o u.length = u) (F.walk m fin off) us := by
  induction us generalizing off with
  | nil =>
      obtain rfl : off = fin := h
      have hpos := F.hdr_pos
      rw [walk_of_not_fits fun hfits => by have := hfits.1; omega]
      exact List.Forall₂.nil
  | cons u us ih =>
      have hu := hus u (List.mem_cons_self ..)
      have hhdr := hu.1
      have hpos := F.hdr_pos
      obtain ⟨hslice, hend, hrest⟩ := h.cons
      have hsize := sizeAt_of_proper hu hslice
      have hfits : F.Fits m fin off := by
        refine ⟨?_, ?_, ?_⟩ <;> omega
      rw [walk_of_fits hfits, next, hsize]
      rcases hrest with ⟨rfl, hlast⟩ | ⟨-, hrest⟩
      · rw [walk_of_not_fits fun hno => by have := hno.1; omega]
        exact List.Forall₂.cons hslice List.Forall₂.nil
      · exact List.Forall₂.cons hslice (ih (fun v hv => hus v (List.mem_cons_of_mem u hv)) hrest)

end Format

end Chain
