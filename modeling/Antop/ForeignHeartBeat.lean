import Antop.GetPrimAddr
import Antop.NeighborTable

/-!
# Heartbeats of other networks

`process_hb` leaves the decision what to do with a heartbeat of another network to
`detector_de_mezcla`, which returns 1 when it has started a merge, 0 for the own network and -1 for a
network with a smaller number.  For a greater number it returns nothing when no merge may start,
because the node is joining or has not been initialised.  What the caller then reads decides.

* `Node.FueraDeLaRed` — a heartbeat of another network leaves the neighbour table and sends no `SAP`.
* `Node.seCuela` — the heartbeats that get through.
* `Node.foreign_heartbeat_iff` — a heartbeat stays out, and one of the own network starts no merge,
  exactly when it does not get through.
-/

namespace Antop

namespace Node

/-! ## Entries that a heartbeat leaves as they are -/

/-- Entering or refreshing the sender of a heartbeat changes nothing: its entry has just been
refreshed, with the same mask. -/
def alDia (hb : CtrlPkt) (secFlag : Bool) : List Neighbor → Prop
  | [] => False
  | head :: rest =>
      if head.primAddr = .zero then head :: rest = [newNeighbor hb secFlag]
      else ∃ it, (head :: rest).find? (fun it => it.primAddr = hb.primAddr) = some it
        ∧ it.count = 0 ∧ it.primMask = hb.adAddr.mask

/-- A refresh changes nothing when the first entry with the address is up to date. -/
lemma replaceF_eq_self_iff {hb : CtrlPkt} {it : Neighbor} {t : List Neighbor}
    (h : t.find? (fun it => it.primAddr = hb.primAddr) = some it) :
    (t.replaceF fun it =>
        if it.primAddr = hb.primAddr then some { it with count := 0, primMask := hb.adAddr.mask }
        else none) = t
      ↔ it.count = 0 ∧ it.primMask = hb.adAddr.mask := by
  induction t with
  | nil => simp at h
  | cons head rest ih =>
      rw [List.find?_cons] at h
      rw [List.replaceF]
      by_cases heq : head.primAddr = hb.primAddr
      · simp only [heq, decide_true, Option.some.injEq] at h
        subst h
        simp only [heq, if_true, List.cons.injEq, and_true]
        constructor
        · intro hsame
          exact ⟨(congrArg Neighbor.count hsame).symm, (congrArg Neighbor.primMask hsame).symm⟩
        · rintro ⟨hc, hm⟩
          rw [← hc, ← hm, ← heq]
      · simp only [heq, decide_false] at h
        simp only [heq, if_false, List.cons.injEq, true_and]
        exact ih h

/-- **When `process_hb` leaves the table.** -/
lemma oirVecino_neighTable_iff {hb : CtrlPkt} {secFlag : Bool} {n m : Node}
    (h : n.oirVecino hb secFlag = some m) :
    m.neighTable = n.neighTable ↔ alDia hb secFlag n.neighTable := by
  have hcases := oirVecino_cases h
  cases htab : n.neighTable with
  | nil =>
      rw [htab] at hcases
      rcases hcases with ⟨-, hm⟩ | ⟨⟨head, hhead, -⟩, -⟩
      · simp [hm, alDia]
      · exact absurd hhead (by simp)
  | cons head rest =>
      rw [htab] at hcases
      rcases hcases with ⟨hzero, hm⟩ | ⟨⟨head', hhead, hne⟩, hm⟩
      · rw [alDia, if_pos (hzero head rfl), hm]
        exact eq_comm
      obtain rfl : head = head' := by simpa using hhead
      rw [alDia, if_neg hne]
      rcases hm with ⟨hfind, hm⟩ | ⟨it, hfind, hm⟩
      · rw [hfind, hm]
        simp
      · rw [hfind, hm, replaceF_eq_self_iff hfind]
        simp

/-- A sender that is up to date is not entered. -/
lemma oirVecino_of_alDia {hb : CtrlPkt} {secFlag : Bool} {n : Node}
    (h : alDia hb secFlag n.neighTable) : n.oirVecino hb secFlag = some n := by
  obtain ⟨m, hm⟩ := Option.ne_none_iff_exists'.mp (oirVecino_ne_none hb secFlag n)
  have htab := (oirVecino_neighTable_iff hm).mpr h
  have heq := oirVecino_eq hm
  rw [htab] at heq
  rw [hm, heq]
  rfl

/-! ## Heartbeats that get through -/

/-- `detector_de_mezcla` returns no value: the other network has the greater number, and no merge may
start. -/
def sinValor (hb : CtrlPkt) (n : Node) : Prop :=
  n.redNumero < hb.adAddr.redNumero ∧ (n.flagConexion ∨ ¬ n.flagInit)

/-- The sender of a heartbeat is a neighbour, or the node has no address to tell. -/
def enlazado (hb : CtrlPkt) (n : Node) : Prop :=
  dist n.primAddr hb.primAddr = 1 ∨ ¬ n.primAddrFlag
    ∨ n.secAddrFlag ∧ dist n.secAddr hb.primAddr = 1

instance (hb : CtrlPkt) (n : Node) : Decidable (n.enlazado hb) := by
  unfold enlazado
  infer_instance

/-- A heartbeat of the own network leaves a trace: its sender is entered or refreshed, or makes a
fragmentation start, or is proposed a secondary address. -/
def dejaHuella (hb : CtrlPkt) (n : Node) : Prop :=
  (¬ n.flagFragmentacion ∧ ¬ n.flagMezcla) ∧ (hb.primAddr ≠ n.primAddr ∧ hb.primAddr ≠ n.secAddr)
    ∧ if n.enlazado hb then ¬ alDia hb (n.porSecundaria hb) n.neighTable ∨ n.seFragmenta .zero
      else ofrecerSecundaria n.addrDeEnlace hb ∧ (n.sapPropuesta hb.primAddr).isSome

/-- The heartbeats of another network that are taken for one of the own. -/
def seCuela (hb : CtrlPkt) (n : Node) : Prop := n.sinValor hb ∧ n.dejaHuella hb

/-- Whatever the outside world does, a heartbeat leaves the neighbour table and sends no `SAP`. -/
def FueraDeLaRed (hb : CtrlPkt) (n : Node) : Prop :=
  ∀ env, ∃ n' o, n.processHb env hb = some n' ∧ n'.neighTable = n.neighTable ∧ n'.out = n.out ++ o
    ∧ ∀ m ∈ o, m.2.pktTypeF ≠ .sap

/-- Whatever the outside world does, a heartbeat starts no merge. -/
def SinMezcla (hb : CtrlPkt) (n : Node) : Prop :=
  ∀ env, ∃ n' o, n.processHb env hb = some n' ∧ n'.flagMezcla = n.flagMezcla ∧ n'.out = n.out ++ o
    ∧ ∀ m ∈ o, m.2.pktTypeF ≠ .mar1

/-- `process_hb` on a heartbeat that passes its first tests. -/
lemma processHbVecino_eq (env : Env) (hb : CtrlPkt) (n : Node) :
    n.processHbVecino env hb =
      if n.enlazado hb then
        (n.oirVecino hb (n.porSecundaria hb)).map fun n => n.detectorDeFragmentacion env
      else if ofrecerSecundaria n.addrDeEnlace hb then some (n.chkSecAddr1 env hb.primAddr)
      else some n := by
  have henl : n.enlazado hb ↔ dist n.primAddr hb.primAddr = 1 ∨ ¬ n.primAddrFlag
      ∨ n.secAddrFlag ∧ dist n.secAddr hb.primAddr = 1 := Iff.rfl
  unfold processHbVecino
  by_cases hfar : dist n.primAddr hb.primAddr ≠ 1 ∧ n.primAddrFlag
  · have hsi : n.porSecundaria hb = true := by simpa [porSecundaria] using hfar
    rw [if_pos hfar, hsi]
    by_cases hsec : n.secAddrFlag ∧ dist n.secAddr hb.primAddr = 1
    · rw [if_pos hsec, if_pos (henl.mpr (Or.inr (Or.inr hsec)))]
    · rw [if_neg hsec, if_neg fun hc => (henl.mp hc).elim hfar.1
        fun hc => hc.elim (fun hc => hc hfar.2) hsec]
  · have hno : n.porSecundaria hb = false := by simpa [porSecundaria] using hfar
    rw [if_neg hfar, hno, if_pos (henl.mpr (by tauto))]

/-- Without a value of `detector_de_mezcla`, what its caller reads decides. -/
lemma processHb_of_sinValor {env : Env} {hb : CtrlPkt} {n : Node} (h : n.sinValor hb) :
    n.processHb env hb =
      if (n.flagFragmentacion ∨ n.flagMezcla) ∨ (env.undef = -1 ∨ env.undef = 1)
          ∨ hb.primAddr = n.primAddr ∨ hb.primAddr = n.secAddr then some n
      else n.processHbVecino env hb := by
  have hdet : n.detectorDeMezcla env hb = (n, env.undef) := by
    have hno : ¬ (n.redNumero < hb.adAddr.redNumero ∧ !n.flagConexion ∧ n.flagInit) := by
      intro hc
      rcases h.2 with hf | hf
      · simp [hf] at hc
      · exact hf hc.2.2
    have hred := h.1
    rw [detectorDeMezcla, if_neg hno, if_neg (by bv_omega), if_neg (by bv_omega)]
  unfold processHb
  rw [hdet]
  dsimp only
  by_cases hf : n.flagFragmentacion
  · rw [if_pos hf, if_pos (Or.inl (Or.inl hf))]
  by_cases hm : n.flagMezcla
  · rw [if_neg hf, if_pos hm, if_pos (Or.inl (Or.inr hm))]
  rw [if_neg hf, if_neg hm]
  by_cases hu : env.undef = -1 ∨ env.undef = 1
  · rw [if_pos hu, if_pos (Or.inr (Or.inl hu))]
  by_cases hp : hb.primAddr = n.primAddr
  · rw [if_neg hu, if_pos hp, if_pos (Or.inr (Or.inr (Or.inl hp)))]
  by_cases hs : hb.primAddr = n.secAddr
  · rw [if_neg hu, if_neg hp, if_pos hs, if_pos (Or.inr (Or.inr (Or.inr hs)))]
  rw [if_neg hu, if_neg hp, if_neg hs, if_neg (by tauto)]

/-- A heartbeat that gets through does not stay out, for some behaviour of the outside world. -/
lemma not_fueraDeLaRed {hb : CtrlPkt} {n : Node} (h : n.seCuela hb) : ¬ n.FueraDeLaRed hb := by
  obtain ⟨hval, ⟨hf, hm⟩, ⟨hp, hs⟩, hhuella⟩ := h
  intro hfuera
  have hpasa (env : Env) (hu : env.undef = 0) : n.processHb env hb = n.processHbVecino env hb := by
    rw [processHb_of_sinValor hval, if_neg]
    simp [hf, hm, hp, hs, hu]
  by_cases henl : n.enlazado hb
  · rw [if_pos henl] at hhuella
    have hoye (env : Env) (hu : env.undef = 0) : n.processHb env hb
        = (n.oirVecino hb (n.porSecundaria hb)).map fun n => n.detectorDeFragmentacion env := by
      rw [hpasa env hu, processHbVecino_eq, if_pos henl]
    by_cases hdia : alDia hb (n.porSecundaria hb) n.neighTable
    · -- the sender is up to date, and all neighbours are lost
      have hfrag := hhuella.resolve_left (not_not.mpr hdia)
      obtain ⟨n', o, hn', htab, -⟩ := hfuera .zero
      rw [hoye .zero rfl, oirVecino_of_alDia hdia, Option.map_some, Option.some.injEq,
        detectorDeFragmentacion_of_seFragmenta hfrag, fragmentacion_eq] at hn'
      rw [← hn'] at htab
      rw [← htab] at hdia
      exact hdia
    · obtain ⟨n', o, hn', htab, -⟩ := hfuera { Env.zero with ping6 := true }
      rw [hoye _ rfl] at hn'
      obtain ⟨m, hoir, rfl⟩ := Option.map_eq_some_iff.mp hn'
      refine hdia ((oirVecino_neighTable_iff hoir).mp ?_)
      rcases detectorDeFragmentacion_cases { Env.zero with ping6 := true } m with heq | heq | ⟨hc, -⟩
      · rwa [heq] at htab
      · rwa [heq] at htab
      · simp [seFragmenta] at hc
  · rw [if_neg henl] at hhuella
    obtain ⟨n', o, hn', -, hout, hsap⟩ := hfuera .zero
    rw [hpasa .zero rfl, processHbVecino_eq, if_neg henl, if_pos hhuella.1, Option.some.injEq] at hn'
    obtain ⟨c, hc⟩ := Option.isSome_iff_exists.mp hhuella.2
    rw [← hn', (chkSecAddr1_out .zero hb.primAddr n).1, hc, List.append_cancel_left_eq] at hout
    exact hsap (hb.primAddr, n.sapPkt .zero c) (by simp [← hout]) rfl

/-- A heartbeat that would leave no trace is no harm where it gets through. -/
lemma processHbVecino_sin_huella {env : Env} {hb : CtrlPkt} {n : Node}
    (h : ¬ if n.enlazado hb then ¬ alDia hb (n.porSecundaria hb) n.neighTable ∨ n.seFragmenta .zero
      else ofrecerSecundaria n.addrDeEnlace hb ∧ (n.sapPropuesta hb.primAddr).isSome) :
    ∃ n', n.processHbVecino env hb = some n' ∧ n'.neighTable = n.neighTable ∧ n'.out = n.out := by
  rw [processHbVecino_eq]
  by_cases henl : n.enlazado hb
  · rw [if_pos henl, not_or, not_not] at h
    obtain ⟨hdia, hfrag⟩ := h
    rw [if_pos henl, oirVecino_of_alDia hdia, Option.map_some]
    refine ⟨_, rfl, ?_⟩
    rcases detectorDeFragmentacion_cases env n with heq | heq | ⟨hc, -⟩
    · rw [heq]
      exact ⟨rfl, rfl⟩
    · rw [heq]
      exact ⟨rfl, rfl⟩
    · exact absurd ⟨hc.1, hc.2.1, rfl⟩ hfrag
  · rw [if_neg henl] at h ⊢
    by_cases hof : ofrecerSecundaria n.addrDeEnlace hb
    · have hno : n.sapPropuesta hb.primAddr = none := by simpa [hof] using h
      obtain ⟨ts, o, f, l, heq, -⟩ := chkSecAddr1_eq env hb.primAddr n
      rw [if_pos hof]
      refine ⟨_, rfl, by rw [heq]; rfl, ?_⟩
      rw [(chkSecAddr1_out env hb.primAddr n).1, hno]
      simp
    · rw [if_neg hof]
      exact ⟨n, rfl, rfl, rfl⟩

/-- A heartbeat of another network that does not get through stays out. -/
lemma fueraDeLaRed {hb : CtrlPkt} {n : Node} (hred : hb.adAddr.redNumero ≠ n.redNumero)
    (h : ¬ n.seCuela hb) : n.FueraDeLaRed hb := by
  intro env
  have hsame : ∃ n' o, some n = some n' ∧ n'.neighTable = n.neighTable ∧ n'.out = n.out ++ o
      ∧ ∀ m ∈ o, m.2.pktTypeF ≠ .sap := ⟨n, [], rfl, rfl, by simp, by simp⟩
  by_cases hval : n.sinValor hb
  · rw [processHb_of_sinValor hval]
    split_ifs with hc
    · exact hsame
    · simp only [not_or] at hc
      obtain ⟨⟨hf, hm⟩, -, hown⟩ := hc
      have hno := fun hh => h ⟨hval, ⟨hf, hm⟩, hown, hh⟩
      obtain ⟨n', hn', htab, hout⟩ := @processHbVecino_sin_huella env hb n hno
      exact ⟨n', [], hn', htab, by simp [hout], by simp⟩
  · unfold processHb
    by_cases hf : n.flagFragmentacion
    · rw [if_pos hf]
      exact hsame
    by_cases hm : n.flagMezcla
    · rw [if_neg hf, if_pos hm]
      exact hsame
    rw [if_neg hf, if_neg hm]
    unfold detectorDeMezcla
    by_cases hini : n.redNumero < hb.adAddr.redNumero ∧ !n.flagConexion ∧ n.flagInit
    · rw [if_pos hini]
      refine ⟨n.mezcla env hb.primAddr, _, rfl, rfl, rfl, ?_⟩
      simp
    · have hmenor : hb.adAddr.redNumero < n.redNumero := by
        by_contra hno
        refine hval ⟨by bv_omega, ?_⟩
        by_contra hflags
        refine hini ⟨by bv_omega, ?_⟩
        simpa using hflags
      rw [if_neg hini, if_neg hred.symm, if_pos hmenor]
      exact hsame

/-- A heartbeat of the own network starts no merge. -/
lemma sinMezcla_of_eq {hb : CtrlPkt} {n : Node} (hred : hb.adAddr.redNumero = n.redNumero) :
    n.SinMezcla hb := by
  intro env
  obtain ⟨n', hn'⟩ := Option.ne_none_iff_exists'.mp (processHb_ne_none env hb n)
  rw [hn']
  rcases processHb_cases hn' with rfl | ⟨hini, -⟩ | rfl | ⟨-, secFlag, m, hm, rfl⟩
  · exact ⟨n', [], rfl, rfl, by simp, by simp⟩
  · have hlt := hini.2.1
    rw [hred] at hlt
    exact absurd hlt (by bv_omega)
  · obtain ⟨ts, o, f, l, heq, -⟩ := chkSecAddr1_eq env hb.primAddr n
    refine ⟨_, _, rfl, by rw [heq]; rfl, (chkSecAddr1_out env hb.primAddr n).1, ?_⟩
    intro p hp
    obtain ⟨c, -, rfl⟩ := Option.map_eq_some_iff.mp (Option.mem_toList.mp hp)
    simp [sapPkt]
  · have heq := oirVecino_eq hm
    have hout : m.out = n.out := by rw [heq]; rfl
    have hmez : m.flagMezcla = n.flagMezcla := by rw [heq]; rfl
    rcases detectorDeFragmentacion_cases env m with hd | hd | ⟨-, hd⟩
    · exact ⟨_, [], rfl, by rw [hd, hmez], by simp [hd, hout], by simp⟩
    · exact ⟨_, [], rfl, by rw [hd]; exact hmez, by rw [hd]; simpa [conVecinoRaiz] using hout, by simp⟩
    · rw [fragmentacion_eq] at hd
      refine ⟨_, _, rfl, by rw [hd]; exact hmez, by rw [hd]; exact congrArg (· ++ _) hout, ?_⟩
      intro p hp
      obtain ⟨it, -, hp⟩ := List.mem_flatMap.mp hp
      split_ifs at hp
      · simp at hp
      · rw [List.mem_singleton.mp hp]
        simp [farPkt]

/-- **Which heartbeats stay out.**  A heartbeat of another network leaves the neighbour table and
makes the node send no `SAP`, and one of the own network starts no merge, exactly when the first is
not taken for one of the own network: its number is smaller, or a merge may start, or it would leave
no trace anyway. -/
theorem foreign_heartbeat_iff (n : Node) (hb : CtrlPkt) :
    (hb.adAddr.redNumero ≠ n.redNumero → n.FueraDeLaRed hb)
        ∧ (hb.adAddr.redNumero = n.redNumero → n.SinMezcla hb)
      ↔ ¬ n.seCuela hb := by
  constructor
  · rintro ⟨hfuera, -⟩ hcuela
    have hlt := hcuela.1.1
    exact not_fueraDeLaRed hcuela (hfuera (by bv_omega))
  · intro hno
    exact ⟨fun hred => fueraDeLaRed hred hno, sinMezcla_of_eq⟩

/-- A node whose `PAN` has not been answered and whose second search has found nobody: it founds a
network, and the flag of the connection stays set. -/
def fundadoConFlag : Node :=
  { (primAddrInit 64 "c").arrancar ⟨0, 0⟩ with flagConexion := true, iface := {root} }

/-- A heartbeat of the first child of the root of the network 7. -/
def hbDeLaRed7 : CtrlPkt :=
  { CtrlPkt.zero with
    pktTypeF := .hb, srcAddr := slotAddr root 0, primAddr := slotAddr root 0
    adAddr := { tLenght := 1, addr := .zero, mask := 1, redNumero := 7 } }

/-- Its sender becomes a neighbour. -/
theorem foreign_heartbeat_enters :
    ¬ ∀ (n : Node) (hb : CtrlPkt),
      (hb.adAddr.redNumero ≠ n.redNumero → n.FueraDeLaRed hb)
        ∧ (hb.adAddr.redNumero = n.redNumero → n.SinMezcla hb) := by
  intro h
  obtain ⟨n', o, hn', htab, -⟩ := (h fundadoConFlag hbDeLaRed7).1 (by decide) .zero
  have hvec : (fundadoConFlag.processHb .zero hbDeLaRed7).map Node.vecinos = some [slotAddr root 0] := by
    decide
  rw [hn', Option.map_some, vecinos, htab] at hvec
  exact absurd hvec (by decide)

end Node

end Antop
