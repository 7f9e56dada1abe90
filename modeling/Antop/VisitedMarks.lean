import Antop.RtTimers

/-!
# The marks of the visited neighbours

`visited_bitmap` names the neighbours by their positions in `neigh_table`.  A neighbour that is deleted
moves those behind it, and no function moves their marks.

* `RtAuxInfo.Fiel` — the neighbours at the marked positions have been tried.
* `Ruteo.Marcas` — so it is in all entries.
* `marcas_addNeighbor_iff`, `marcas_deleteNeighbor_iff` — what a change of the table needs.
* `Ruteo.guardaMarcas` — for each event, what it needs.
* **`marcas_de_guarda`** — the marks follow the neighbours in each run whose steps meet that.
-/

namespace Antop

open Transition

/-! ## One entry -/

/-- Each neighbour at a marked position has been tried, or has delivered a packet. -/
def RtAuxInfo.Fiel (t : List Neighbor) (e : RtAuxInfo) : Prop :=
  ∀ i, e.visitedBitmap i = true → ∀ nb ∈ t[i.val]?, nb.primAddr ∈ e.probados

instance (t : List Neighbor) (e : RtAuxInfo) : Decidable (e.Fiel t) :=
  inferInstanceAs (Decidable (∀ i, e.visitedBitmap i = true → ∀ nb ∈ t[i.val]?, nb.primAddr ∈ e.probados))

namespace Ruteo

lemma fiel_limpiar (t : List Neighbor) (e : RtAuxInfo) : (RtAuxInfo.limpiar e).Fiel t := by
  intro i hi
  exact absurd hi (by simp [RtAuxInfo.limpiar])

/-- A new mark, in the entry of the packet's destination. -/
lemma fiel_marcar {t : List Neighbor} {e : RtAuxInfo} (h : e.Fiel t) {i : Fin maxNeighbors}
    {nb : Neighbor} (hnb : t[i.val]? = some nb) :
    (RtAuxInfo.marcar i e.dst nb.primAddr e).Fiel t := by
  intro j hj nb' hnb'
  rw [RtAuxInfo.marcar, if_pos rfl]
  by_cases hji : j = i
  · subst hji
    obtain rfl := Option.some.inj (hnb.symm.trans hnb')
    exact List.mem_cons_self
  · have hold : e.visitedBitmap j = true := by
      simpa [RtAuxInfo.marcar, Function.update_of_ne hji] using hj
    exact List.mem_cons_of_mem _ (h j hold nb' hnb')

/-! ## All entries -/

/-- **The marks follow the neighbours.** -/
def Marcas (s : Ruteo) : Prop := ∀ e ∈ s.rtInfo, e.Fiel s.neighTable

instance (s : Ruteo) : Decidable s.Marcas :=
  inferInstanceAs (Decidable (∀ e ∈ s.rtInfo, e.Fiel s.neighTable))

lemma Inicial.marcas {s : Ruteo} (h : s.Inicial) : s.Marcas := by
  intro e he i hi
  exact absurd hi (by simp [h.limpias e he i])

/-- An entry that is replaced stands for one of those before. -/
lemma mem_replaceF {f : RtAuxInfo → Option RtAuxInfo} {l : List RtAuxInfo} {e : RtAuxInfo}
    (he : e ∈ l.replaceF f) : e ∈ l ∨ ∃ x ∈ l, f x = some e := by
  rcases List.exists_or_eq_self_of_replaceF f l with heq | ⟨x, x', as, bs, -, hx, rfl, heq⟩
  · exact Or.inl (heq ▸ he)
  · rw [heq, List.mem_append, List.mem_cons] at he
    rcases he with he | rfl | he
    · exact Or.inl (List.mem_append_left _ he)
    · exact Or.inr ⟨x, List.mem_append_right _ List.mem_cons_self, hx⟩
    · exact Or.inl (List.mem_append_right _ (List.mem_cons_of_mem _ he))

lemma replaceF_append {f : RtAuxInfo → Option RtAuxInfo} {as bs : List RtAuxInfo} {e e' : RtAuxInfo}
    (has : ∀ a ∈ as, f a = none) (he : f e = some e') :
    (as ++ e :: bs).replaceF f = as ++ e' :: bs := by
  induction as with
  | nil => rw [List.nil_append, List.replaceF_cons_of_some _ he, List.nil_append]
  | cons a as ih =>
      rw [List.cons_append, List.replaceF_cons_of_none _ (has a List.mem_cons_self),
        ih fun b hb => has b (List.mem_cons_of_mem _ hb), List.cons_append]

/-! ## The neighbour table -/

/-- The position at which `add_neighbor` puts a new neighbour. -/
def posNueva : List Neighbor → ℕ
  | [] => 0
  | head :: rest => if head.primAddr = .zero then 0 else rest.length + 1

/-- A table with its last entry, as far as the marks see it. -/
lemma fiel_append_iff {t : List Neighbor} {e : RtAuxInfo} (h : e.Fiel t) (nb : Neighbor) :
    e.Fiel (t ++ [nb]) ↔
      ∀ i : Fin maxNeighbors, i.val = t.length → e.visitedBitmap i = true → nb.primAddr ∈ e.probados := by
  constructor
  · intro hf i hi hmark
    exact hf i hmark nb (by simp [hi])
  · intro hnew i hmark nb' hnb'
    rcases Nat.lt_trichotomy i.val t.length with hlt | heq | hgt
    · rw [List.getElem?_append_left hlt] at hnb'
      exact h i hmark nb' hnb'
    · rw [heq, List.getElem?_concat_length] at hnb'
      obtain rfl := Option.some.inj hnb'
      exact hnew i heq hmark
    · rw [List.getElem?_eq_none (by simp; omega)] at hnb'
      exact absurd hnb' (by simp)

/-- **`add_neighbor`** keeps the marks exactly when the new neighbour has been tried for each
destination with a mark at its position. -/
lemma Marcas.addNeighbor_iff {s s' : Ruteo} (h : s.Marcas) {msg : CtrlPkt} {secFlag : Bool}
    (hstep : s.addNeighbor msg secFlag = some s') :
    s'.Marcas ↔ ∀ e ∈ s.rtInfo, ∀ i : Fin maxNeighbors, i.val = posNueva s.neighTable →
      e.visitedBitmap i = true → msg.primAddr ∈ e.probados := by
  -- a table of its own, or one entry more
  have hone (e : RtAuxInfo) : e.Fiel [newNeighbor msg secFlag] ↔ ∀ i : Fin maxNeighbors, i.val = 0 →
      e.visitedBitmap i = true → msg.primAddr ∈ e.probados :=
    fiel_append_iff (t := []) (fun i _ nb hnb => absurd hnb (by simp)) _
  unfold Ruteo.addNeighbor at hstep
  split_ifs at hstep with hnil
  · obtain rfl := Option.some.inj hstep
    rw [hnil]
    exact forall₂_congr fun e _ => hone e
  · obtain ⟨t, ht, rfl⟩ := Option.map_eq_some_iff.mp hstep
    cases htab : s.neighTable with
    | nil => exact absurd htab hnil
    | cons head rest =>
        rw [htab, addNeighborTable] at ht
        split_ifs at ht with hzero
        · obtain rfl := Option.some.inj ht
          rw [posNueva, if_pos hzero]
          exact forall₂_congr fun e _ => hone e
        · obtain rfl := Option.some.inj ht
          rw [posNueva, if_neg hzero]
          refine forall₂_congr fun e he => ?_
          have hfiel := h e he
          rw [htab] at hfiel
          exact fiel_append_iff hfiel _

lemma neighTable_deleteNeighbor (s : Ruteo) (addr : In6Addr) :
    (s.deleteNeighbor addr).neighTable = s.neighTable.eraseP fun curr => curr.primAddr = addr := by
  unfold deleteNeighbor deleteEntry
  split_ifs with hany
  · rfl
  · refine (List.eraseP_of_forall_not fun a ha hc => hany ?_).symm
    exact List.any_eq_true.mpr ⟨a, ha, hc⟩

/-- **`delete_neighbor`** keeps the marks exactly when each neighbour it moves to a marked position has
been tried. -/
lemma Marcas.deleteNeighbor_iff {s : Ruteo} (h : s.Marcas) (addr : In6Addr) :
    (s.deleteNeighbor addr).Marcas ↔ ∀ k ∈ s.neighTable.findIdx? fun curr => curr.primAddr = addr,
      ∀ e ∈ s.rtInfo, ∀ i : Fin maxNeighbors, k ≤ i.val → e.visitedBitmap i = true →
        ∀ nb ∈ s.neighTable[i.val + 1]?, nb.primAddr ∈ e.probados := by
  unfold Marcas
  rw [neighTable_deleteNeighbor, List.eraseP_eq_eraseIdx]
  cases hk : s.neighTable.findIdx? fun curr => curr.primAddr = addr with
  | none => exact iff_of_true h (by simp)
  | some k =>
      constructor
      · rintro hm j ⟨⟩ e he i hki hmark nb hnb
        refine hm e he i hmark nb ?_
        rw [List.getElem?_eraseIdx, if_neg (by omega)]
        exact hnb
      · intro hm e he i hmark nb hnb
        rw [List.getElem?_eraseIdx] at hnb
        split_ifs at hnb with hlt
        · exact h e he i hmark nb hnb
        · exact hm k rfl e he i (by omega) hmark nb hnb

/-! ## The entries -/

lemma Marcas.of_eq {s s' : Ruteo} (h : s.Marcas) (hinfo : s'.rtInfo = s.rtInfo)
    (htab : s'.neighTable = s.neighTable) : s'.Marcas := by
  unfold Marcas
  rw [hinfo, htab]
  exact h

/-- `clear_vb`. -/
lemma Marcas.clearVb {s : Ruteo} (h : s.Marcas) (dst : In6Addr) : (s.clearVb dst).Marcas := by
  intro e he
  rcases mem_replaceF he with he | ⟨x, -, hx⟩
  · exact h e he
  · split_ifs at hx
    obtain rfl := Option.some.inj hx
    exact fiel_limpiar _ _

/-- `add_rt_info` takes an entry over for another destination when an earlier one has that already:
the bitmap of the earlier one is cleared, and its own has to be without marks. -/
def guardaInfo (m : MemInfo) (dst : In6Addr) (s : Ruteo) : Prop :=
  (∃ x ∈ s.rtInfo.takeWhile fun e => e.dst ≠ m.trasDst, x.dst = dst) →
    ∀ e ∈ s.rtInfo.dropLast.find? fun e => e.dst = m.trasDst,
      ∀ i, e.visitedBitmap i = true → s.neighTable[i.val]? = none

instance (m : MemInfo) (dst : In6Addr) (s : Ruteo) : Decidable (s.guardaInfo m dst) :=
  inferInstanceAs (Decidable ((∃ x ∈ s.rtInfo.takeWhile fun e => e.dst ≠ m.trasDst, x.dst = dst) →
    ∀ e ∈ s.rtInfo.dropLast.find? fun e => e.dst = m.trasDst,
      ∀ i, e.visitedBitmap i = true → s.neighTable[i.val]? = none))

/-- The entries under one address are for one destination. -/
def DeDestino (info : ℕ) (dst : In6Addr) (s : Ruteo) : Prop := ∀ e ∈ s.rtInfo, e.id = info → e.dst = dst

/-- One entry is enough, where they are distinct. -/
lemma Distintas.deDestino {s : Ruteo} (h : s.Distintas) {e : RtAuxInfo} (he : e ∈ s.rtInfo) :
    s.DeDestino e.id e.dst := by
  intro x hx hid
  rw [List.inj_on_of_nodup_map h.nodup hx he hid]

lemma mem_clearVb {s : Ruteo} {e : RtAuxInfo} (dst : In6Addr) (he : e ∈ s.rtInfo) :
    ∃ x ∈ (s.clearVb dst).rtInfo, x.id = e.id ∧ x.dst = e.dst := by
  rcases List.exists_or_eq_self_of_replaceF
    (fun e => if e.dst = dst then some (RtAuxInfo.limpiar e) else none) s.rtInfo with
    heq | ⟨a, a', as, bs, -, ha, hl, heq⟩
  · have hsame : (s.clearVb dst).rtInfo = s.rtInfo := heq
    exact ⟨e, hsame.symm ▸ he, rfl, rfl⟩
  · have hlist : (s.clearVb dst).rtInfo = as ++ a' :: bs := heq
    rw [hlist]
    rw [hl, List.mem_append, List.mem_cons] at he
    rcases he with he | rfl | he
    · exact ⟨e, List.mem_append_left _ he, rfl, rfl⟩
    · split_ifs at ha
      obtain rfl := Option.some.inj ha
      exact ⟨_, List.mem_append_right _ List.mem_cons_self, rfl, rfl⟩
    · exact ⟨e, List.mem_append_right _ (List.mem_cons_of_mem _ he), rfl, rfl⟩

/-- **`add_rt_info`**: the entry it returns is for the destination, and the marks follow the
neighbours. -/
lemma Marcas.addRtInfo {s s' : Ruteo} {n : ℕ} (h : s.Marcas) {m : MemInfo} {dst : In6Addr}
    {src : Option In6Addr} {id : UChar} (hg : s.guardaInfo m dst)
    (hstep : s.addRtInfo m dst src id = some (s', n)) :
    s'.Marcas ∧ s'.neighTable = s.neighTable ∧ ∃ e ∈ s'.rtInfo, e.id = n ∧ e.dst = dst := by
  unfold Ruteo.addRtInfo at hstep
  split_ifs at hstep
  split at hstep
  · rename_i e hfind
    obtain ⟨rfl, rfl⟩ := Prod.mk.inj (Option.some.inj hstep)
    have hfirst := List.IsPrefix.find?_eq_some (List.dropLast_prefix s.rtInfo) hfind
    obtain ⟨hp, as, bs, hl, has⟩ := List.find?_eq_some_iff_append.mp hfirst
    have hdst : e.dst = m.trasDst := of_decide_eq_true hp
    have hbefore : ∀ a ∈ as, a.dst ≠ m.trasDst := by
      intro a ha
      simpa using has a ha
    have hrepl : (s.rtInfo.replaceF fun e =>
          if e.dst = m.trasDst then some (RtAuxInfo.actualizar dst src e) else none)
        = as ++ RtAuxInfo.actualizar dst src e :: bs := by
      rw [hl]
      exact replaceF_append (fun a ha => if_neg (hbefore a ha)) (if_pos hdst)
    have hothers : ∀ x ∈ as ++ bs, x.Fiel s.neighTable := by
      intro x hx
      refine h x ?_
      rw [hl]
      exact List.mem_append.mpr ((List.mem_append.mp hx).imp_right (List.mem_cons_of_mem _))
    rw [hrepl]
    refine ⟨?_, rfl, mem_clearVb (e := RtAuxInfo.actualizar dst src e) dst
      (List.mem_append_right _ List.mem_cons_self)⟩
    by_cases hdup : ∃ x ∈ as, x.dst = dst
    · -- the entry keeps its bitmap, which has no marks
      refine Marcas.clearVb (fun x hx => ?_) dst
      rcases List.mem_append.mp hx with hx | hx
      · exact hothers x (List.mem_append_left _ hx)
      · rcases List.mem_cons.mp hx with rfl | hx
        · have htake : s.rtInfo.takeWhile (fun e => e.dst ≠ m.trasDst) = as := by
            rw [hl, List.takeWhile_append_of_pos (by simpa using hbefore),
              List.takeWhile_cons_of_neg (by simpa using hdst), List.append_nil]
          intro i hi nb hnb
          have hfree := hg (htake.symm ▸ hdup) e hfind i hi
          exact absurd (hfree.symm.trans hnb) (by simp)
        · exact hothers x (List.mem_append_right _ hx)
    · -- the entry is the first one for its destination, and is cleared
      have hclear : (as ++ RtAuxInfo.actualizar dst src e :: bs).replaceF
            (fun e => if e.dst = dst then some (RtAuxInfo.limpiar e) else none)
          = as ++ RtAuxInfo.limpiar (RtAuxInfo.actualizar dst src e) :: bs :=
        replaceF_append (fun a ha => if_neg fun hc => hdup ⟨a, ha, hc⟩) (if_pos rfl)
      intro x hx
      change x ∈ (as ++ RtAuxInfo.actualizar dst src e :: bs).replaceF _ at hx
      rw [hclear] at hx
      rcases List.mem_append.mp hx with hx | hx
      · exact hothers x (List.mem_append_left _ hx)
      · rcases List.mem_cons.mp hx with rfl | hx
        · exact fiel_limpiar _ _
        · exact hothers x (List.mem_append_right _ hx)
  · obtain ⟨rfl, rfl⟩ := Prod.mk.inj (Option.some.inj hstep)
    refine ⟨fun x hx => ?_, rfl, _, List.mem_append_right _ (List.mem_singleton_self _), rfl, rfl⟩
    rcases List.mem_append.mp hx with hx | hx
    · exact h x hx
    · obtain rfl := List.mem_singleton.mp hx
      intro i hi
      exact absurd hi (by simp [nuevaInfo])

/-! ## `send_to_next_neighbor` -/

/-- A mark for the neighbour at the position, in an entry of the destination. -/
lemma Marcas.marcar {s s' : Ruteo} (h : s.Marcas) {info i : ℕ} {dst : In6Addr}
    (hdst : s.DeDestino info dst) {nb : Neighbor} (hnb : s.neighTable[i]? = some nb)
    (hstep : s.marcar info i dst nb.primAddr = some s') :
    s'.Marcas ∧ s'.neighTable = s.neighTable ∧ s'.DeDestino info dst := by
  unfold Ruteo.marcar at hstep
  split_ifs at hstep with hi
  obtain rfl := Option.some.inj hstep
  refine ⟨fun x hx => ?_, rfl, fun x hx hid => ?_⟩
  · obtain ⟨e, he, rfl⟩ := List.mem_map.mp hx
    split_ifs with hid
    · have hmark := fiel_marcar (i := ⟨i, hi⟩) (h e he) hnb
      rw [hdst e he hid] at hmark
      exact hmark
    · exact h e he
  · obtain ⟨e, he, rfl⟩ := List.mem_map.mp hx
    split_ifs at hid ⊢ with heq
    · exact hdst e he heq
    · exact hdst e he hid

/-- The neighbour the packet came from. -/
lemma Marcas.marcarOrigen {s s' : Ruteo} (h : s.Marcas) {pkt : Paquete} {info : ℕ}
    (hdst : s.DeDestino info pkt.dst) (hstep : s.marcarOrigen pkt info = some s') :
    s'.Marcas ∧ s'.DeDestino info pkt.dst := by
  unfold Ruteo.marcarOrigen at hstep
  split at hstep
  · obtain rfl := Option.some.inj hstep
    exact ⟨h, hdst⟩
  · rename_i i hi
    obtain ⟨u, hu, rfl⟩ := Option.map_eq_some_iff.mp hstep
    obtain ⟨hlt, haddr, -⟩ := List.findIdx?_eq_some_iff_getElem.mp hi
    have hnb : s.neighTable[i]? = some s.neighTable[i] := List.getElem?_eq_getElem hlt
    have hfrom : s.neighTable[i].primAddr = pkt.fromAddr := of_decide_eq_true haddr
    rw [← hfrom] at hu
    obtain ⟨hmu, htab, hdu⟩ := h.marcar hdst hnb hu
    refine ⟨fun x hx => ?_, fun x hx hid => ?_⟩
    · obtain ⟨e, he, rfl⟩ := List.mem_map.mp hx
      split_ifs
      · exact hmu e he
      · exact hmu e he
    · obtain ⟨e, he, rfl⟩ := List.mem_map.mp hx
      split_ifs at hid ⊢ with heq
      · exact hdu e he heq
      · exact hdu e he hid

/-- The route is installed. -/
lemma Marcas.instalar {s s' : Ruteo} (h : s.Marcas) {env : EntornoRuta} {pkt : Paquete} {info : ℕ}
    {rtId : Option ℕ} {nhIdx : Fin maxNeighbors} (hdst : s.DeDestino info pkt.dst)
    (hstep : s.instalar env pkt info rtId nhIdx = some s') : s'.Marcas := by
  rcases instalar_cases hstep with rfl | ⟨rt, r, it, hit, hmar⟩
  · exact h
  · have hroutes : ((s.delRtRoute rt).addRtRoute r env.clock).Marcas := h.of_eq rfl rfl
    exact (hroutes.marcar hdst hit hmar).1

lemma rutaPara_frame (s : Ruteo) (env : EntornoRuta) (pkt : Paquete) :
    (s.rutaPara env pkt).1.rtInfo = s.rtInfo ∧ (s.rutaPara env pkt).1.neighTable = s.neighTable := by
  unfold rutaPara
  split_ifs
  · exact ⟨rfl, rfl⟩
  · exact ⟨rfl, rfl⟩

lemma devolver_frame (s : Ruteo) (env : EntornoRuta) (pkt : Paquete) :
    (s.devolver env pkt).rtInfo = s.rtInfo ∧ (s.devolver env pkt).neighTable = s.neighTable := by
  unfold devolver
  induction env.volcado 3 generalizing s with
  | nil => exact ⟨rfl, rfl⟩
  | cons rt rts ih =>
      rw [List.foldl_cons]
      obtain ⟨hinfo, htab⟩ := ih (if rt.dst = pkt.dst then
        (s.addRtRoute { rt with gtw := pkt.fromAddr, mask := 128 } env.clock).delRtRoute rt else s)
      rw [hinfo, htab]
      split_ifs
      · exact ⟨rfl, rfl⟩
      · exact ⟨rfl, rfl⟩

/-- The entry with the number of a route. -/
def entradaDe (best : Option ℕ) (s : Ruteo) : Option RtAuxInfo :=
  best.bind fun best => s.rtInfo.find? fun e => e.routeId.toNat = best

/-- `send_to_next_neighbor` finds the entry by the number of the route: it has to be one for the
destination of the packet.  Where it finds none, it adds one. -/
def guardaEnvio (env : EntornoRuta) (pkt : Paquete) (s : Ruteo) : Prop :=
  s.neighTable ≠ [] → ∀ p ∈ (s.rutaPara env pkt).2,
    (∀ e ∈ s.entradaDe p.2, e.dst = pkt.dst)
      ∧ (s.entradaDe p.2 = none → s.guardaInfo env.info pkt.dst)

instance (env : EntornoRuta) (pkt : Paquete) (s : Ruteo) : Decidable (s.guardaEnvio env pkt) :=
  inferInstanceAs (Decidable (s.neighTable ≠ [] → ∀ p ∈ (s.rutaPara env pkt).2,
    (∀ e ∈ s.entradaDe p.2, e.dst = pkt.dst)
      ∧ (s.entradaDe p.2 = none → s.guardaInfo env.info pkt.dst)))

/-- `send_to_next_neighbor`. -/
lemma Marcas.sendToNextNeighbor {s s' : Ruteo} (h : s.Marcas) (hs : s.Distintas) {env : EntornoRuta}
    {pkt : Paquete} (hg : s.guardaEnvio env pkt) (hstep : s.sendToNextNeighbor env pkt = some s') :
    s'.Marcas := by
  obtain ⟨hri, hrt⟩ := s.rutaPara_frame env pkt
  have hruta : (s.rutaPara env pkt).1.Marcas := h.of_eq hri hrt
  have hdist : (s.rutaPara env pkt).1.Distintas := (s.crece_rutaPara env pkt).distintas hs
  rcases sendToNextNeighbor_cases hstep with
    ⟨-, rfl⟩ | ⟨-, heq⟩ | ⟨hne, u, rtId, best, v, info, w, heq, hv, hw, hend⟩
  · exact h
  · rw [heq] at hruta
    exact hruta
  · obtain ⟨hfound, hnone⟩ := hg hne (rtId, best) (by rw [heq]; rfl)
    rw [heq] at hruta hdist hri hrt
    dsimp only at hruta hdist hri hrt
    have hvd := crece_infoPara hv |>.distintas hdist
    have hmv : v.Marcas ∧ v.DeDestino info pkt.dst := by
      have hsame : u.entradaDe best = s.entradaDe best := by
        unfold entradaDe
        rw [hri]
      have hin : (u.entradaDe best).elim (u.addRtInfo env.info pkt.dst none
          (rtId.elim (BitVec.ofInt 8 (-1)) (BitVec.ofNat 8))) (fun e => some (u, e.id))
          = some (v, info) := by
        rw [← hv, infoPara, entradaDe]
        cases best.bind fun best => u.rtInfo.find? fun e => e.routeId.toNat = best with
        | none => rfl
        | some e => rfl
      cases hfind : u.entradaDe best with
      | some e =>
          rw [hfind] at hin
          obtain ⟨rfl, rfl⟩ := Prod.mk.inj (Option.some.inj hin)
          obtain ⟨n, -, hn⟩ := Option.bind_eq_some_iff.mp hfind
          have hdest := hvd.deDestino (List.mem_of_find?_eq_some hn)
          rw [hfound e (hsame ▸ hfind)] at hdest
          exact ⟨hruta, hdest⟩
      | none =>
          rw [hfind] at hin
          have hgu : u.guardaInfo env.info pkt.dst := by
            unfold guardaInfo
            rw [hri, hrt]
            exact hnone (hsame ▸ hfind)
          obtain ⟨hm, -, e, he, rfl, hed⟩ := hruta.addRtInfo hgu hin
          have hdest := hvd.deDestino he
          rw [hed] at hdest
          exact ⟨hm, hdest⟩
    obtain ⟨hmw, hdw⟩ := hmv.1.marcarOrigen hmv.2 hw
    rcases hend with rfl | rfl | ⟨nhIdx, e, -, hins⟩
    · exact hmw
    · obtain ⟨hdi, hdt⟩ := w.devolver_frame env pkt
      exact hmw.of_eq hdi hdt
    · exact hmw.instalar hdw hins

/-! ## Runs -/

/-- What a call needs: a neighbour comes to a marked position only if it has been tried, and a packet
marks the entry of its own destination. -/
def guardaLlamada (s : Ruteo) : Evento → Prop
  | .addNeighbor msg _ => ∀ e ∈ s.rtInfo, ∀ i : Fin maxNeighbors, i.val = posNueva s.neighTable →
      e.visitedBitmap i = true → msg.primAddr ∈ e.probados
  | .deleteNeighbor addr => ∀ k ∈ s.neighTable.findIdx? fun curr => curr.primAddr = addr,
      ∀ e ∈ s.rtInfo, ∀ i : Fin maxNeighbors, k ≤ i.val → e.visitedBitmap i = true →
        ∀ nb ∈ s.neighTable[i.val + 1]?, nb.primAddr ∈ e.probados
  | .addRtInfo m dst _ _ => s.guardaInfo m dst
  | .sendToNextNeighbor env pkt => s.guardaEnvio env pkt
  | _ => True

instance (s : Ruteo) : ∀ ev : Evento, Decidable (s.guardaLlamada ev)
  | .addNeighbor msg _ => inferInstanceAs (Decidable (∀ e ∈ s.rtInfo, ∀ i : Fin maxNeighbors,
      i.val = posNueva s.neighTable → e.visitedBitmap i = true → msg.primAddr ∈ e.probados))
  | .deleteNeighbor addr => inferInstanceAs (Decidable (
      ∀ k ∈ s.neighTable.findIdx? fun curr => curr.primAddr = addr, ∀ e ∈ s.rtInfo,
        ∀ i : Fin maxNeighbors, k ≤ i.val → e.visitedBitmap i = true →
          ∀ nb ∈ s.neighTable[i.val + 1]?, nb.primAddr ∈ e.probados))
  | .addRtInfo m dst _ _ => inferInstanceAs (Decidable (s.guardaInfo m dst))
  | .sendToNextNeighbor env pkt => inferInstanceAs (Decidable (s.guardaEnvio env pkt))
  | .addRtRoute _ _ => inferInstanceAs (Decidable True)
  | .delRtRoute _ => inferInstanceAs (Decidable True)
  | .clearVb _ => inferInstanceAs (Decidable True)
  | .delRtRoute2 _ => inferInstanceAs (Decidable True)
  | .timeout _ => inferInstanceAs (Decidable True)
  | .fire => inferInstanceAs (Decidable True)

/-- **The condition**, for the events that do not wait. -/
def guardaMarcas (s : Ruteo) (ev : Evento) : Prop := s.expiredTQ = [] → s.guardaLlamada ev

instance (s : Ruteo) (ev : Evento) : Decidable (s.guardaMarcas ev) :=
  inferInstanceAs (Decidable (s.expiredTQ = [] → s.guardaLlamada ev))

/-- `del_rt_route2`. -/
lemma Marcas.delRtRoute2 {s : Ruteo} (h : s.Marcas) (r : RtRouteParam) : (s.delRtRoute2 r).Marcas :=
  fun e he => h e ((List.eraseP_sublist).subset he)

/-- The handlers clear a bitmap or free an entry. -/
lemma Marcas.atender {s : Ruteo} (h : s.Marcas) (tmp : RtTimer) : (Ruteo.atender tmp s).Marcas := by
  unfold Ruteo.atender
  cases tmp.id with
  | vbT i => exact h.clearVb _
  | routeT i => exact h.delRtRoute2 _
  | rtRouteT n => exact h.delRtRoute2 _

lemma Marcas.cortar {s : Ruteo} (h : s.Marcas) (now : Timeval) : (s.cortar now).Marcas := by
  unfold Ruteo.cortar
  split_ifs
  · exact h.of_eq rfl rfl
  · exact h

lemma Marcas.step {s s' : Ruteo} (h : s.Marcas) (hs : s.Distintas) {ev : Evento}
    (hg : s.guardaMarcas ev) (hstep : s.step ev = some s') : s'.Marcas := by
  rcases step_cases hstep with ⟨hexp, -, hcall⟩ | ⟨tmp, rest, -, rfl, rfl⟩ | ⟨-, rfl⟩
  · have hge := hg hexp
    cases ev with
    | addRtRoute r clock =>
        obtain rfl := Option.some.inj hcall
        exact h.of_eq rfl rfl
    | delRtRoute r =>
        obtain rfl := Option.some.inj hcall
        exact h.of_eq rfl rfl
    | addRtInfo m dst src id =>
        obtain ⟨⟨u, n⟩, hu, rfl⟩ := Option.map_eq_some_iff.mp hcall
        exact (h.addRtInfo hge hu).1
    | clearVb dst =>
        obtain rfl := Option.some.inj hcall
        exact h.clearVb dst
    | delRtRoute2 r =>
        obtain rfl := Option.some.inj hcall
        exact h.delRtRoute2 r
    | sendToNextNeighbor env pkt => exact h.sendToNextNeighbor hs hge hcall
    | addNeighbor msg secFlag => exact (h.addNeighbor_iff hcall).mpr hge
    | deleteNeighbor addr =>
        obtain rfl := Option.some.inj hcall
        exact (h.deleteNeighbor_iff addr).mpr hge
    | timeout now =>
        obtain rfl := Option.some.inj hcall
        exact h.cortar now
    | fire =>
        obtain rfl := Option.some.inj hcall
        exact h
  · exact Marcas.atender (s := { s with expiredTQ := rest }) (h.of_eq rfl rfl) tmp
  · exact h

/-- The entries stay distinct. -/
lemma Distintas.step {s s' : Ruteo} (h : s.Distintas) {ev : Evento} (hstep : s.step ev = some s') :
    s'.Distintas := by
  rcases step_crece hstep with ⟨r, -, rfl⟩ | ⟨-, hcrece⟩
  · exact (s.crece_enHandler.distintas h).delRtRoute2 r
  · exact hcrece.distintas h

/-- **The marks follow the neighbours** in every state of a run whose steps meet the condition. -/
theorem marcas_de_guarda {s : Ruteo} (h : s.Inicial) (evs : List Evento)
    (hg : ∀ t ∈ steps step s evs, t.1.guardaMarcas t.2.1) : ∀ u ∈ states step s evs, u.Marcas := by
  have hboth : ∀ u ∈ states step s evs, u.Marcas ∧ u.Distintas := by
    refine invariant_of_guard (fun u ev u' hu hgu hstep => ?_) ⟨h.marcas, h.distintas⟩ hg
    exact ⟨hu.1.step hu.2 hgu hstep, hu.2.step hstep⟩
  exact fun u hu => (hboth u hu).1

/-! ## A neighbour that nobody has tried -/

/-- A neighbour. -/
def vecino (a : In6Addr) : Neighbor :=
  { primAddr := a, secAddrConn := false, count := 0, primMask := 1, primMaskInicial := 0, available := true }

/-- The neighbours by their last words. -/
def vecinoNum (w : ℕ) : In6Addr := .ofWords 0x0120 0xb80d 0 0 0 0 0 (BitVec.ofNat 16 w)

/-- The routing with three neighbours. -/
def tresVecinos : Ruteo :=
  { arranque with neighTable := [vecino (vecinoNum 16), vecino (vecinoNum 3), vecino (vecinoNum 240)] }

lemma inicial_tresVecinos : tresVecinos.Inicial :=
  ⟨inicial_arranque.ids, inicial_arranque.mallocs, inicial_arranque.limpias, rfl, rfl, rfl⟩

/-- A packet from the first neighbour. -/
def paquete : Paquete :=
  { src := vecinoNum 17, dst := destino, fromAddr := vecinoNum 16, udp := 0, udpSinOpcion := 0 }

/-- The kernel has no route to its destination until one is added. -/
def entorno : EntornoRuta :=
  { primAddr := .zero, volcado := fun i => if i = 0 then [] else [⟨destino, sinGtw, 128, 10⟩]
    clock := ⟨0, 0⟩, info := memoriaGtw, mem := .zero }

/-- The packet goes to the second neighbour, and the first one is deleted. -/
def vecinoBorrado : List Evento := [.sendToNextNeighbor entorno paquete, .deleteNeighbor (vecinoNum 16)]

/-- The third neighbour counts as visited, at the position that the second one had. -/
theorem marca_ajena :
    ¬ ∀ (s : Ruteo) (_ : s.Inicial) (evs : List Evento), ∀ u ∈ states step s evs, u.Marcas := by
  intro h
  have hrun := h tresVecinos inicial_tresVecinos vecinoBorrado
  revert hrun
  decide +kernel

/-- The last neighbour is deleted, which moves none. -/
theorem marcas_de_guarda_ultimo :
    (states step tresVecinos [.sendToNextNeighbor entorno paquete, .deleteNeighbor (vecinoNum 240)]).length = 3
      ∧ ∀ u ∈ states step tresVecinos
          [.sendToNextNeighbor entorno paquete, .deleteNeighbor (vecinoNum 240)], u.Marcas :=
  ⟨by decide +kernel, marcas_de_guarda inicial_tresVecinos _ (by decide +kernel)⟩

end Ruteo

end Antop
