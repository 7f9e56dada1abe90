import Antop.Library.TieMin
import Antop.VisitedMarks

/-!
# The choice of the next hop

The loops with which `send_to_next_neighbor` chooses a neighbour, as they run over the table and the
bitmap.  The one that takes the next neighbour asks whether there is a table at all, not whether it has
come to its end; it stops in time because `all_visited` has been computed over the same neighbours.

* `allVisited`, `closestNeighbor`, `nextAvailable`, `nextHop` — the loops.  `none` is a null pointer that
  is read.
* `libres` — the neighbours all of them look at; `libres_eq`, `nextHop_eq` — the choice is
  `elegirVecino`.
* `next_hop` — what is chosen.
-/

namespace Antop

namespace Ruteo

variable {env : EntornoRuta} {pkt : Paquete} {e : RtAuxInfo}

/-! ## The loops -/

/-- The neighbour at a position is available and has not been visited. -/
def libre (e : RtAuxInfo) (i : Fin maxNeighbors) (it : Neighbor) : Prop :=
  it.available = true ∧ e.visitedBitmap i = false

instance (e : RtAuxInfo) (i : Fin maxNeighbors) (it : Neighbor) : Decidable (libre e i it) :=
  inferInstanceAs (Decidable (_ ∧ _))

/-- The loop for `all_visited`. -/
def allVisited (e : RtAuxInfo) : List Neighbor → ℕ → Bool → Bool
  | [], _, allVis => allVis
  | it :: its, i, allVis =>
      if h : i < maxNeighbors then
        allVisited e its (i + 1) (if libre e ⟨i, h⟩ it then false else allVis)
      else allVis

/-- `Find the neighbor closest to the destination`: `nh_idx` and `best_dist`.  `best_mask` is not read. -/
def closestNeighbor (env : EntornoRuta) (pkt : Paquete) (e : RtAuxInfo) :
    List Neighbor → ℕ → Option (Fin maxNeighbors) × ℕ → Option (Fin maxNeighbors) × ℕ
  | [], _, p => p
  | it :: its, i, p =>
      if h : i < maxNeighbors then
        closestNeighbor env pkt e its (i + 1) <|
          if libre e ⟨i, h⟩ it then
            let d := distancia env pkt it
            if d < p.2 ∨ d = p.2 ∧ checkAddrSpace pkt.dst it.primAddr it.primMask = 0 then (some ⟨i, h⟩, d)
            else p
          else p
      else p

/-- `find the next available`.  Behind the table the loop goes on with a null pointer. -/
def nextAvailable (e : RtAuxInfo) : List Neighbor → ℕ → Option (Option (Fin maxNeighbors))
  | [], i => if i < maxNeighbors then none else some none
  | it :: its, i =>
      if h : i < maxNeighbors then
        if libre e ⟨i, h⟩ it then some (some ⟨i, h⟩) else nextAvailable e its (i + 1)
      else some none

/-- `nh_idx`, which stays negative when nothing is chosen. -/
def nextHop (env : EntornoRuta) (pkt : Paquete) (e : RtAuxInfo) (neighTable : List Neighbor) :
    Option (Option (Fin maxNeighbors)) :=
  if e.count < neighborsBeforeParent then some (closestNeighbor env pkt e neighTable 0 (none, 10000)).1
  else
    match neighTable with
    | [] => none
    | it :: _ =>
        if libre e ⟨0, by decide⟩ it then some (some ⟨0, by decide⟩) else nextAvailable e neighTable 0

/-! ## The neighbours they look at -/

/-- The neighbours from the position `i` on that are available and not visited. -/
def libres (e : RtAuxInfo) : List Neighbor → ℕ → List (Fin maxNeighbors × Neighbor)
  | [], _ => []
  | it :: its, i =>
      if h : i < maxNeighbors then
        if libre e ⟨i, h⟩ it then (⟨i, h⟩, it) :: libres e its (i + 1) else libres e its (i + 1)
      else []

lemma mem_libres {its : List Neighbor} {i : ℕ} {c : Fin maxNeighbors × Neighbor} :
    c ∈ libres e its i ↔ i ≤ c.1 ∧ its[c.1.val - i]? = some c.2 ∧ libre e c.1 c.2 := by
  induction its generalizing i with
  | nil => simp [libres]
  | cons it its ih =>
      obtain ⟨k, x⟩ := c
      unfold libres
      by_cases h : i < maxNeighbors
      · rw [dif_pos h]
        rcases Nat.lt_trichotomy k.val i with hlt | heq | hlt
        · have hno : ¬ i + 1 ≤ k.val := by omega
          have hne : k ≠ ⟨i, h⟩ := fun heq => by simp [heq] at hlt
          split_ifs <;> simp [ih, hno, hne, show ¬ i ≤ k.val by omega]
        · obtain rfl : k = ⟨i, h⟩ := Fin.ext heq
          have hno : ¬ i + 1 ≤ i := by omega
          split_ifs with hlib
          · simp only [List.mem_cons, Prod.mk.injEq, true_and, ih, hno, false_and, or_false, le_refl,
              Nat.sub_self, List.getElem?_cons_zero, Option.some.injEq]
            constructor
            · rintro rfl
              exact ⟨rfl, hlib⟩
            · rintro ⟨rfl, -⟩
              rfl
          · simp only [ih, hno, false_and, le_refl, true_and, Nat.sub_self, List.getElem?_cons_zero,
              Option.some.injEq, false_iff, not_and]
            rintro rfl
            exact hlib
        · have hne : k ≠ ⟨i, h⟩ := fun heq => by simp [heq] at hlt
          have hget : (it :: its)[k.val - i]? = its[k.val - (i + 1)]? := by
            rw [show k.val - i = k.val - (i + 1) + 1 by omega, List.getElem?_cons_succ]
          split_ifs <;> simp [ih, hne, hget, show i + 1 ≤ k.val by omega, hlt.le]
      · rw [dif_neg h]
        have hno : ¬ i ≤ k.val := by omega
        simp [hno]

/-- The list `send_to_next_neighbor` chooses from. -/
lemma libres_eq (e : RtAuxInfo) (s : Ruteo) : libres e s.neighTable 0 = s.porVisitar e := by
  -- both lists from a position on
  have hdesde (its : List Neighbor) (i : ℕ) : libres e its i
      = (List.range' i (maxNeighbors - i)).filterMap fun k =>
          if h : k < maxNeighbors then
            its[k - i]?.bind fun it => if libre e ⟨k, h⟩ it then some (⟨k, h⟩, it) else none
          else none := by
    induction its generalizing i with
    | nil => simp [libres]
    | cons it its ih =>
        unfold libres
        by_cases h : i < maxNeighbors
        · rw [dif_pos h, show maxNeighbors - i = maxNeighbors - (i + 1) + 1 by omega, List.range'_succ,
            List.filterMap_cons]
          have hresto : libres e its (i + 1)
              = (List.range' (i + 1) (maxNeighbors - (i + 1))).filterMap fun k =>
                if h : k < maxNeighbors then
                  (it :: its)[k - i]?.bind fun it => if libre e ⟨k, h⟩ it then some (⟨k, h⟩, it) else none
                else none := by
            rw [ih]
            refine List.filterMap_congr fun k hk => ?_
            have hk := (List.mem_range'_1.mp hk).1
            rw [show k - i = k - (i + 1) + 1 by omega, List.getElem?_cons_succ]
          rw [← hresto]
          simp only [dif_pos h, Nat.sub_self, List.getElem?_cons_zero, Option.bind_some]
          split_ifs <;> rfl
        · rw [dif_neg h, Nat.sub_eq_zero_of_le (by omega)]
          rfl
  rw [hdesde, porVisitar, Nat.sub_zero, ← List.range_eq_range', ← List.map_coe_finRange_eq_range,
    List.filterMap_map]
  refine List.filterMap_congr fun k _ => ?_
  simp only [Function.comp_apply, dif_pos k.isLt, Nat.sub_zero]
  cases s.neighTable[k.val]? <;> rfl

/-! ## The loops and the list -/

lemma allVisited_eq (its : List Neighbor) (i : ℕ) (allVis : Bool) :
    allVisited e its i allVis = (allVis && (libres e its i).isEmpty) := by
  induction its generalizing i allVis with
  | nil => simp [allVisited, libres]
  | cons it its ih =>
      unfold allVisited libres
      split_ifs
      · simp [ih]
      · exact ih _ _
      · simp

lemma closestNeighbor_eq (its : List Neighbor) (i : ℕ) (p : Option (Fin maxNeighbors) × ℕ) :
    closestNeighbor env pkt e its i p = (libres e its i).foldl (fun p c =>
      let d := distancia env pkt c.2
      if d < p.2 ∨ d = p.2 ∧ checkAddrSpace pkt.dst c.2.primAddr c.2.primMask = 0 then (some c.1, d)
      else p) p := by
  induction its generalizing i p with
  | nil => rfl
  | cons it its ih =>
      unfold closestNeighbor libres
      split_ifs
      · rw [ih, List.foldl_cons]
      · exact ih _ _
      · rfl

lemma nextAvailable_eq {its : List Neighbor} {i : ℕ} (h : libres e its i ≠ []) :
    nextAvailable e its i = some ((libres e its i).head?.map Prod.fst) := by
  induction its generalizing i with
  | nil => exact absurd rfl h
  | cons it its ih =>
      unfold libres at h
      unfold nextAvailable libres
      split_ifs at h ⊢
      · rfl
      · exact ih h
      · exact absurd rfl h

/-- The closest one of the list. -/
lemma nextHop_of_lt {its : List Neighbor} (h : e.count < neighborsBeforeParent) :
    nextHop env pkt e its = some (masCercano env pkt (libres e its 0)).1 := by
  unfold nextHop masCercano
  rw [if_pos h, closestNeighbor_eq]

/-- The parent, or the next one, is the first of the list. -/
lemma nextHop_of_le {its : List Neighbor} (hne : libres e its 0 ≠ []) (h : ¬ e.count < neighborsBeforeParent) :
    nextHop env pkt e its = some ((libres e its 0).head?.map Prod.fst) := by
  unfold nextHop
  rw [← nextAvailable_eq hne, if_neg h]
  cases its with
  | nil => exact absurd rfl hne
  | cons it its =>
      unfold nextAvailable
      rw [dif_pos (show 0 < maxNeighbors by decide)]
      dsimp only
      split_ifs
      · rfl
      · rfl

/-- What `all_visited` says of the list. -/
lemma libres_ne_nil {its : List Neighbor} (h : allVisited e its 0 true = false) : libres e its 0 ≠ [] := by
  rw [allVisited_eq, Bool.true_and] at h
  exact List.isEmpty_eq_false_iff.mp h

/-- **The choice of the model** is the one that the loops make. -/
lemma nextHop_eq (s : Ruteo) (h : allVisited e s.neighTable 0 true = false) :
    nextHop env pkt e s.neighTable = some (s.elegirVecino env pkt e) := by
  unfold elegirVecino
  by_cases hcount : e.count < neighborsBeforeParent
  · rw [nextHop_of_lt hcount, if_pos hcount, libres_eq]
  · rw [nextHop_of_le (libres_ne_nil h) hcount, if_neg hcount, libres_eq]

/-! ## What is chosen -/

/-- The round of the loop, and the first component of what it ends with. -/
lemma foldl_masCercano (env : EntornoRuta) (pkt : Paquete) (its : List (Fin maxNeighbors × Neighbor))
    (p : Option (Fin maxNeighbors × Neighbor) × ℕ) :
    its.foldl (fun p c =>
      let d := distancia env pkt c.2
      if d < p.2 ∨ d = p.2 ∧ checkAddrSpace pkt.dst c.2.primAddr c.2.primMask = 0 then (some c.1, d)
      else p) (p.1.map Prod.fst, p.2)
      = ((its.foldl (TieMin.paso (fun c => distancia env pkt c.2)
          fun c => checkAddrSpace pkt.dst c.2.primAddr c.2.primMask = 0) p).1.map Prod.fst,
        (its.foldl (TieMin.paso (fun c => distancia env pkt c.2)
          fun c => checkAddrSpace pkt.dst c.2.primAddr c.2.primMask = 0) p).2) := by
  induction its generalizing p with
  | nil => rfl
  | cons c its ih =>
      rw [List.foldl_cons, List.foldl_cons, ← ih, TieMin.paso]
      congr 1
      dsimp only
      by_cases h : distancia env pkt c.2 < p.2 ∨ distancia env pkt c.2 = p.2
          ∧ checkAddrSpace pkt.dst c.2.primAddr c.2.primMask = 0
      · rw [if_pos h, if_pos h]
        rfl
      · rw [if_neg h, if_neg h]

/-- `masCercano` keeps the last of the best. -/
lemma masCercano_eq {its : List (Fin maxNeighbors × Neighbor)} {c : Fin maxNeighbors × Neighbor} {d : ℕ}
    (h : its.foldl (TieMin.paso (fun c => distancia env pkt c.2)
      fun c => checkAddrSpace pkt.dst c.2.primAddr c.2.primMask = 0) (none, 10000) = (some c, d)) :
    (masCercano env pkt its).1 = some c.1 := by
  have hmap := foldl_masCercano env pkt its (none, 10000)
  rw [h] at hmap
  exact congrArg Prod.fst hmap

lemma distancia_le (env : EntornoRuta) (pkt : Paquete) {it : Neighbor} (h : it.primMask.toNat ≤ 64) :
    distancia env pkt it ≤ 64 := by
  unfold distancia
  split_ifs
  · exact (distWMask_le _ _ _).trans h
  · rw [dist_eq_countP]
    exact List.countP_le_length.trans_eq List.length_range

/-- The neighbour `nh`, at the position `nhIdx`, is a right choice: available, not visited, and for the
first ones at the smallest distance; then it has the destination in its address space if one of those at
that distance has. -/
structure Elegido (env : EntornoRuta) (pkt : Paquete) (e : RtAuxInfo) (neighTable : List Neighbor)
    (nhIdx : Fin maxNeighbors) (nh : Neighbor) : Prop where
  enTabla : neighTable[nhIdx.val]? = some nh
  disponible : nh.available = true
  sinVisitar : e.visitedBitmap nhIdx = false
  cercano : e.count < neighborsBeforeParent → ∀ (i : Fin maxNeighbors) (it : Neighbor),
    neighTable[i.val]? = some it → it.available = true → e.visitedBitmap i = false →
    distancia env pkt nh ≤ distancia env pkt it
  empate : e.count < neighborsBeforeParent →
    (∃ (i : Fin maxNeighbors) (it : Neighbor), neighTable[i.val]? = some it ∧ it.available = true
      ∧ e.visitedBitmap i = false ∧ distancia env pkt it = distancia env pkt nh
      ∧ checkAddrSpace pkt.dst it.primAddr it.primMask = 0) →
    checkAddrSpace pkt.dst nh.primAddr nh.primMask = 0

/-- **The next hop.**  When not all neighbours have been visited, the loops end with a right choice: a
neighbour has been found, and no null pointer read.  In a table that is longer than the bitmap they look
at the first neighbours only. -/
theorem next_hop (env : EntornoRuta) (pkt : Paquete) (e : RtAuxInfo) (neighTable : List Neighbor)
    (hmask : ∀ it ∈ neighTable, it.primMask.toNat ≤ 64)
    (hleft : allVisited e neighTable 0 true = false) :
    ∃ nhIdx nh, nextHop env pkt e neighTable = some (some nhIdx)
      ∧ Elegido env pkt e neighTable nhIdx nh := by
  have hne := libres_ne_nil hleft
  have hmem {c : Fin maxNeighbors × Neighbor} : c ∈ libres e neighTable 0
      ↔ neighTable[c.1.val]? = some c.2 ∧ libre e c.1 c.2 := by
    rw [mem_libres, Nat.sub_zero, and_iff_right (Nat.zero_le _)]
  by_cases hcount : e.count < neighborsBeforeParent
  · -- the distances are below the bound that the loop starts with
    have hcota : ∀ c ∈ libres e neighTable 0, distancia env pkt c.2 < 10000 := by
      intro c hc
      have := distancia_le env pkt (hmask c.2 (List.mem_of_getElem? (hmem.mp hc).1))
      omega
    obtain ⟨⟨nhIdx, nh⟩, hfold, hmejor⟩ := TieMin.foldl_paso
      (fun c : Fin maxNeighbors × Neighbor => distancia env pkt c.2)
      (fun c => checkAddrSpace pkt.dst c.2.primAddr c.2.primMask = 0) hne hcota
    obtain ⟨hget, hav, hvis⟩ := hmem.mp hmejor.mem
    refine ⟨nhIdx, nh, ?_, hget, hav, hvis, fun _ => ?_, fun _ => ?_⟩
    · rw [nextHop_of_lt hcount, masCercano_eq hfold]
    · intro i it hi hitav hitvis
      exact hmejor.le (i, it) (hmem.mpr ⟨hi, hitav, hitvis⟩)
    · rintro ⟨i, it, hi, hitav, hitvis, hd, hspace⟩
      exact hmejor.empate ⟨(i, it), hmem.mpr ⟨hi, hitav, hitvis⟩, hd, hspace⟩
  · obtain ⟨⟨nhIdx, nh⟩, resto, hlibres⟩ := List.exists_cons_of_ne_nil hne
    obtain ⟨hget, hav, hvis⟩ := hmem.mp (hlibres ▸ List.mem_cons_self)
    refine ⟨nhIdx, nh, ?_, hget, hav, hvis, fun h => absurd h hcount, fun h => absurd h hcount⟩
    rw [nextHop_of_le hne hcount, hlibres]
    rfl

/-- A new entry, and a packet for the first of three neighbours. -/
theorem next_hop_tres :
    ∃ nhIdx nh, nextHop entorno paquete (nuevaInfo memoriaGtw destino none 0 0) tresVecinos.neighTable
        = some (some nhIdx)
      ∧ Elegido entorno paquete (nuevaInfo memoriaGtw destino none 0 0) tresVecinos.neighTable nhIdx nh :=
  next_hop entorno paquete _ _ (by decide) (by decide)

end Ruteo

end Antop
