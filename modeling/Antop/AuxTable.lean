import Antop.Library.KeyedList
import Antop.RoutingAux

/-!
# One entry for each destination

`add_rt_info` looks for an entry with the destination before it appends one.  It compares the entries, but
for the last one, with the bytes at `&dst`, which are those of the pointer and what stands behind it.

* `Ruteo.alta` — a call of `add_rt_info`; `alta_of_mem`, `alta_of_notMem` — what it does.
* `Alta.Buena` — what a call should do.
* **`alta_unica_iff`** — when all calls of a run do so.
-/

namespace Antop

open KeyedList Transition

/-- A call of `add_rt_info`, with what stands in the memory it reads. -/
structure Alta where
  m : Ruteo.MemInfo
  dst : In6Addr
  src : Option In6Addr
  id : UChar

namespace Ruteo

/-- The call. -/
def alta (s : Ruteo) (e : Alta) : Option Ruteo := (s.addRtInfo e.m e.dst e.src e.id).map Prod.fst

/-- The destinations of the entries. -/
def destinos (s : Ruteo) : List In6Addr := s.rtInfo.map RtAuxInfo.dst

/-- The entry that a call should leave for its destination: with the source, if there is one, and a new
bitmap. -/
def RtAuxInfo.renovar (src : Option In6Addr) (b : RtAuxInfo) : RtAuxInfo :=
  RtAuxInfo.limpiar { b with src := src.getD b.src }

/-- What a call should do: no destination has two entries, and when there was one, it has been updated and
nothing else has happened to the table. -/
structure Buena (s : Ruteo) (e : Alta) (s' : Ruteo) : Prop where
  una : s'.destinos.Nodup
  actualiza : e.dst ∈ s.destinos →
    s'.rtInfo = s.rtInfo.map fun b => if b.dst = e.dst then RtAuxInfo.renovar e.src b else b

/-- What the call compares with is in one of the entries that it looks at. -/
def Encuentra (s : Ruteo) (e : Alta) : Prop := e.m.trasDst ∈ s.rtInfo.dropLast.map RtAuxInfo.dst

variable {s s' : Ruteo} {e : Alta}

/-! ## What a call does -/

/-- Without entries the null pointer is read. -/
lemma alta_eq_none_iff : s.alta e = none ↔ s.rtInfo = [] := by
  unfold alta addRtInfo
  split_ifs with hnil
  · simp [hnil]
  · split <;> simp [hnil]

/-- Nothing is found: an entry is appended. -/
lemma alta_of_notMem (h : ¬ s.Encuentra e) (hstep : s.alta e = some s') :
    s'.rtInfo = s.rtInfo ++ [nuevaInfo e.m e.dst e.src e.id s.mallocs] := by
  have hfind : (s.rtInfo.dropLast.find? fun b => b.dst = e.m.trasDst) = none := by
    rw [List.find?_eq_none]
    intro b hb hbt
    exact h (List.mem_map.mpr ⟨b, hb, by simpa using hbt⟩)
  unfold alta addRtInfo at hstep
  rw [hfind] at hstep
  split_ifs at hstep
  · simp at hstep
  · rw [← Option.some.inj hstep]
    rfl

/-- Something is found: it becomes the entry of the destination. -/
lemma alta_of_mem (hs : s.destinos.Nodup) (h : s.Encuentra e) (hstep : s.alta e = some s') :
    s'.rtInfo = (s.rtInfo.map fun b => if b.dst = e.m.trasDst then RtAuxInfo.actualizar e.dst e.src b else b).replaceF
      fun b => if b.dst = e.dst then some (RtAuxInfo.limpiar b) else none := by
  obtain ⟨b, hfind⟩ : ∃ b, (s.rtInfo.dropLast.find? fun b => b.dst = e.m.trasDst) = some b := by
    rw [← Option.isSome_iff_exists, List.find?_isSome]
    obtain ⟨b, hb, hbt⟩ := List.mem_map.mp h
    exact ⟨b, hb, by simpa using hbt⟩
  unfold alta addRtInfo at hstep
  rw [hfind] at hstep
  split_ifs at hstep
  · simp at hstep
  · rw [← Option.some.inj hstep, ← replaceF_eq_map hs]
    rfl

/-! ## When it is right -/

/-- The call is for a new destination, or what stands at `&dst` is the destination itself, and its entry
is not the last one. -/
def Acierta (s : Ruteo) (e : Alta) : Prop := e.dst ∉ s.destinos ∨ e.m.trasDst = e.dst ∧ s.Encuentra e

/-- What is found gets the destination of the call. -/
lemma destinos_of_mem (hs : s.destinos.Nodup) (h : s.Encuentra e) (hstep : s.alta e = some s') :
    s'.destinos = s.destinos.map fun d => if d = e.m.trasDst then e.dst else d := by
  have hlimpiar (l : List RtAuxInfo) : (l.replaceF fun b =>
      if b.dst = e.dst then some (RtAuxInfo.limpiar b) else none).map RtAuxInfo.dst = l.map RtAuxInfo.dst := by
    induction l with
    | nil => rfl
    | cons b l ih =>
        rw [List.replaceF]
        split_ifs
        · rfl
        · rw [List.map_cons, ih, List.map_cons]
  rw [destinos, alta_of_mem hs h hstep, hlimpiar, destinos, List.map_map, List.map_map]
  refine List.map_congr_left fun b _ => ?_
  simp only [Function.comp_apply]
  split_ifs <;> rfl

lemma destinos_of_notMem (h : ¬ s.Encuentra e) (hstep : s.alta e = some s') :
    s'.destinos = s.destinos ++ [e.dst] := by
  rw [destinos, alta_of_notMem h hstep, List.map_append]
  rfl

lemma Encuentra.mem (h : s.Encuentra e) : e.m.trasDst ∈ s.destinos := by
  obtain ⟨b, hb, hbt⟩ := List.mem_map.mp h
  exact List.mem_map.mpr ⟨b, List.mem_of_mem_dropLast hb, hbt⟩

/-- No destination is there twice exactly when the call is right. -/
lemma nodup_destinos_iff (hs : s.destinos.Nodup) (hstep : s.alta e = some s') :
    s'.destinos.Nodup ↔ s.Acierta e := by
  by_cases hfind : s.Encuentra e
  · rw [destinos_of_mem hs hfind hstep]
    by_cases hin : e.dst ∈ s.destinos
    · by_cases heq : e.m.trasDst = e.dst
      · refine iff_of_true ?_ (Or.inr ⟨heq, hfind⟩)
        have hsame : (s.destinos.map fun d => if d = e.m.trasDst then e.dst else d) = s.destinos := by
          refine (List.map_congr_left fun d _ => ?_).trans (List.map_id _)
          split_ifs with hd
          · rw [hd, heq]
            rfl
          · rfl
        rw [hsame]
        exact hs
      · -- two entries get the destination of the call
        refine iff_of_false (fun hnodup => heq ?_) ?_
        · refine List.inj_on_of_nodup_map hnodup hfind.mem hin ?_
          rw [if_pos rfl, if_neg (Ne.symm heq)]
        · rintro (hno | ⟨h, -⟩)
          · exact hno hin
          · exact heq h
    · refine iff_of_true ?_ (Or.inl hin)
      refine List.Nodup.map_on (fun x hx y hy hxy => ?_) hs
      split_ifs at hxy with hxt hyt hyt
      · exact hxt.trans hyt.symm
      · exact absurd (hxy ▸ hy) hin
      · exact absurd (hxy ▸ hx) hin
      · exact hxy
  · rw [destinos_of_notMem hfind hstep, List.nodup_append]
    constructor
    · rintro ⟨-, -, hne⟩
      exact Or.inl fun hin => hne _ hin _ (List.mem_singleton_self _) rfl
    · rintro (hno | ⟨-, h⟩)
      · refine ⟨hs, List.nodup_singleton _, fun a ha b hb hab => hno ?_⟩
        rw [← List.mem_singleton.mp hb, ← hab]
        exact ha
      · exact absurd h hfind

/-- The entry of the destination is updated, when it is the one that is found. -/
lemma rtInfo_of_acierta (hs : s.destinos.Nodup) (hstep : s.alta e = some s') (heq : e.m.trasDst = e.dst)
    (h : s.Encuentra e) :
    s'.rtInfo = s.rtInfo.map fun b => if b.dst = e.dst then RtAuxInfo.renovar e.src b else b := by
  have hmap : ((s.rtInfo.map fun b =>
      if b.dst = e.dst then RtAuxInfo.actualizar e.dst e.src b else b).map RtAuxInfo.dst).Nodup := by
    have hkey := map_key_map (fun (b : RtAuxInfo) (_ : b.dst = e.dst) =>
      (rfl : (RtAuxInfo.actualizar e.dst e.src b).dst = e.dst)) s.rtInfo
    rw [hkey]
    exact hs
  rw [alta_of_mem hs h hstep, heq, replaceF_eq_map hmap, List.map_map]
  refine List.map_congr_left fun b _ => ?_
  rw [Function.comp_apply]
  by_cases hb : b.dst = e.dst
  · rw [if_pos hb, if_pos hb, ← hb]
    exact if_pos rfl
  · rw [if_neg hb, if_neg hb, if_neg hb]

/-- **One call.** -/
lemma buena_iff (hs : s.destinos.Nodup) (hstep : s.alta e = some s') : s.Buena e s' ↔ s.Acierta e := by
  rw [← nodup_destinos_iff hs hstep]
  refine ⟨Buena.una, fun h => ⟨h, fun hin => ?_⟩⟩
  rcases (nodup_destinos_iff hs hstep).mp h with hno | ⟨heq, hfind⟩
  · exact absurd hin hno
  · exact rtInfo_of_acierta hs hstep heq hfind

/-- **All calls of a run**, from any table with one entry for each destination. -/
theorem alta_unica_iff {es : List Alta} (hs : s.destinos.Nodup) :
    (∀ a ∈ attempts alta s es, ∃ s', a.1.alta a.2 = some s' ∧ a.1.Buena a.2 s')
      ↔ ∀ a ∈ attempts alta s es, a.1.rtInfo ≠ [] ∧ a.1.Acierta a.2 := by
  refine attempts_iff_guard (Q := Buena) (G := fun s e => s.rtInfo ≠ [] ∧ s.Acierta e)
    (fun (s : Ruteo) e (hs : s.destinos.Nodup) => ?_) (fun s e s' hs hg hstep => ?_) hs
  · rw [ne_eq, ← not_congr alta_eq_none_iff, ← ne_eq, Option.ne_none_iff_exists']
    constructor
    · rintro ⟨s', hstep, hb⟩
      exact ⟨⟨s', hstep⟩, (buena_iff hs hstep).mp hb⟩
    · rintro ⟨⟨s', hstep⟩, hg⟩
      exact ⟨s', hstep, (buena_iff hs hstep).mpr hg⟩
  · exact (nodup_destinos_iff hs hstep).mpr hg.2

/-- What is not set before it is used. -/
private def memDe (trasDst : In6Addr) : MemInfo := ⟨trasDst, .zero, .zero, 0, ⟨0, 0⟩, ⟨0, 0⟩⟩

/-- Two destinations. -/
private def dstUno : In6Addr := .ofWords 0x0120 0xb80d 0 0 0 0 0 0x0100

private def dstDos : In6Addr := .ofWords 0x0120 0xb80d 0 0 0 0 0 0x0200

/-- A table with an entry for each of them. -/
private def dosDestinos : Ruteo where
  neighTable := []
  rtInfo := [nuevaInfo (memDe .zero) dstUno none 0 0, nuevaInfo (memDe .zero) dstDos none 1 1]
  kernel := ∅
  tq := []
  expiredTQ := []
  mallocs := 2
  altas := []
  now := ⟨0, 0⟩

/-- The first destination again, with a source. -/
private def repetida (trasDst : In6Addr) : Alta := ⟨memDe trasDst, dstUno, some dstDos, 2⟩

/-- The bytes at `&dst` are those of a pointer: the destination gets a second entry. -/
theorem second_entry_for_destination : ¬ ∀ (s : Ruteo) (es : List Alta), s.destinos.Nodup →
    ∀ a ∈ attempts alta s es, ∃ s', a.1.alta a.2 = some s' ∧ a.1.Buena a.2 s' := by
  intro h
  obtain ⟨s', hstep, hb⟩ := h dosDestinos [repetida .zero] (by decide) (dosDestinos, repetida .zero)
    (by simp [attempts_singleton])
  have hdest : (dosDestinos.alta (repetida .zero)).map destinos = some [dstUno, dstDos, dstUno] := rfl
  rw [hstep, Option.map_some, Option.some.injEq] at hdest
  have hnodup := hb.una
  rw [hdest] at hnodup
  exact absurd hnodup (by decide)

/-- If they are those of the destination, it is found. -/
theorem alta_unica_repetida : dosDestinos.destinos.Nodup
    ∧ ∀ a ∈ attempts alta dosDestinos [repetida dstUno], ∃ s', a.1.alta a.2 = some s' ∧ a.1.Buena a.2 s' := by
  refine ⟨by decide, (alta_unica_iff (by decide)).mpr fun a ha => ?_⟩
  rw [attempts_singleton, List.mem_singleton] at ha
  rw [ha]
  refine ⟨?_, Or.inr ⟨rfl, ?_⟩⟩
  · rw [dosDestinos]
    exact List.cons_ne_nil _ _
  · exact List.mem_singleton_self _

end Ruteo

end Antop
