import Antop.Dispatch

/-!
# The recovered address space

`check_neighbors` puts the address of a successor that is not heard any more into `rcvd_addr`, from
where it is offered again.  `process_hb` does not look there when it enters a neighbour.

* `Node.RecuperadasSanas` — no recovered address is that of a neighbour, and none is there twice.
* `Node.guardaRecuperadas` — what a heartbeat needs to keep it so: the sender it enters is not
  recovered, or, when it starts a fragmentation, the shift keeps the recovered addresses apart.
* `recuperadas_sanas_iff` — with heartbeats, joins and timers, a run keeps the recovered addresses
  sound exactly when all its heartbeats meet that.
-/

namespace Antop

open Transition

namespace Node

/-- The addresses in `neigh_table`. -/
def vecinos (n : Node) : List In6Addr := n.neighTable.map Neighbor.primAddr

/-- The addresses in `rcvd_addr`. -/
def recuperadas (n : Node) : List In6Addr := n.rcvdAddr.map RecoveredAddr.primAddr

/-- No recovered address is there twice, and none is that of a neighbour. -/
structure RecuperadasSanas (n : Node) : Prop where
  nodup : n.recuperadas.Nodup
  ajenas : ∀ a ∈ n.recuperadas, a ∉ n.vecinos

lemma recuperadasSanas_def {n : Node} :
    n.RecuperadasSanas ↔ n.recuperadas.Nodup ∧ ∀ a ∈ n.recuperadas, a ∉ n.vecinos :=
  ⟨fun h => ⟨h.1, h.2⟩, fun h => ⟨h.1, h.2⟩⟩

instance (n : Node) : Decidable n.RecuperadasSanas := decidable_of_iff _ recuperadasSanas_def.symm

/-- What carries a run: besides, no neighbour is there twice, and there is no secondary address. -/
structure VecindadSana (n : Node) : Prop where
  sanas : n.RecuperadasSanas
  vecinos_nodup : n.vecinos.Nodup
  sin_secundaria : n.secAddrFlag = false

/-- The same neighbours, and no recovered address that was not there. -/
lemma VecindadSana.of_sublist {n n' : Node} (h : n.VecindadSana) (hv : n'.vecinos = n.vecinos)
    (hr : n'.recuperadas.Sublist n.recuperadas) (hs : n'.secAddrFlag = n.secAddrFlag) :
    n'.VecindadSana where
  sanas := ⟨h.sanas.nodup.sublist hr, fun a ha => hv ▸ h.sanas.ajenas a (hr.subset ha)⟩
  vecinos_nodup := hv ▸ h.vecinos_nodup
  sin_secundaria := hs.trans h.sin_secundaria

lemma VecindadSana.of_eq {n n' : Node} (h : n.VecindadSana) (hv : n'.neighTable = n.neighTable)
    (hr : n'.rcvdAddr = n.rcvdAddr) (hs : n'.secAddrFlag = n.secAddrFlag) : n'.VecindadSana := by
  refine h.of_sublist ?_ ?_ hs
  · rw [vecinos, vecinos, hv]
  · rw [recuperadas, recuperadas, hr]

/-! ## Ageing neighbours -/

/-- The first entry for an address that only the last one has. -/
lemma deleteEntry_append {visited : List Neighbor} {it : Neighbor} (rv : List LookupTable)
    (h : it.primAddr ∉ visited.map Neighbor.primAddr) :
    (deleteEntry it.primAddr (visited ++ [it], rv)).1 = visited := by
  have hany : (visited ++ [it]).any fun curr => decide (curr.primAddr = it.primAddr) := by simp
  have hno : ∀ curr ∈ visited, ¬ (decide (curr.primAddr = it.primAddr)) = true := by
    intro curr hcurr heq
    exact h (List.mem_map.mpr ⟨curr, hcurr, of_decide_eq_true heq⟩)
  rw [deleteEntry, if_pos hany]
  dsimp only
  rw [List.eraseP_append_right _ hno]
  simp

/-- **`check_neighbors`.**  What it recovers is no neighbour any more, and was not recovered before:
it was a neighbour. -/
lemma checkNeighborsLoop_sana {visited its : List Neighbor} {n n' : Node}
    (hrec : n.recuperadas.Nodup)
    (hajenas : ∀ a ∈ n.recuperadas, a ∉ (visited ++ its).map Neighbor.primAddr)
    (hnodup : ((visited ++ its).map Neighbor.primAddr).Nodup)
    (h : checkNeighborsLoop visited its n = some n') :
    n'.RecuperadasSanas ∧ n'.vecinos.Nodup := by
  induction its generalizing visited n with
  | nil =>
      obtain rfl := Option.some.inj h
      rw [List.append_nil] at hajenas hnodup
      exact ⟨⟨hrec, hajenas⟩, hnodup⟩
  | cons it its ih =>
      -- an entry that stays keeps its address
      have hstay (c : ℤ) : ((visited ++ [{ it with count := c }]) ++ its).map Neighbor.primAddr
          = (visited ++ it :: its).map Neighbor.primAddr := by
        simp
      rw [checkNeighborsLoop] at h
      split_ifs at h
      · exact ih hrec (by rwa [hstay]) (by rwa [hstay]) h
      · exact ih hrec (by rwa [hstay]) (by rwa [hstay]) h
      · exact ih hrec (by rwa [hstay]) (by rwa [hstay]) h
      · split at h
        · exact absurd h (by simp)
        · rw [List.map_append, List.map_cons] at hnodup
          have hout := (List.nodup_middle.mp hnodup)
          rw [List.nodup_cons, ← List.map_append] at hout
          have hvis : it.primAddr ∉ visited.map Neighbor.primAddr := fun hmem =>
            hout.1 (by simp only [List.map_append, List.mem_append]; exact Or.inl hmem)
          have hrest : ∀ a ∈ n.recuperadas, a ∉ (visited ++ its).map Neighbor.primAddr := by
            intro a ha hmem
            refine hajenas a ha ?_
            simp only [List.map_append, List.mem_append, List.map_cons, List.mem_cons] at hmem ⊢
            tauto
          have hnew : it.primAddr ∉ n.recuperadas := fun hmem => hajenas _ hmem (by simp)
          dsimp only at h
          rw [deleteEntry_append _ hvis] at h
          split_ifs at h
          · have hrecover : (n.recoverAddrSpace it.primAddr it.primMaskInicial).recuperadas
                = n.recuperadas ++ [it.primAddr] := by
              simp [recuperadas, recoverAddrSpace]
            refine ih ?_ ?_ hout.2 h
            · change (n.recoverAddrSpace it.primAddr it.primMaskInicial).recuperadas.Nodup
              rw [hrecover]
              exact List.Nodup.append hrec (List.nodup_singleton _) (by simpa using hnew)
            · change ∀ a ∈ (n.recoverAddrSpace it.primAddr it.primMaskInicial).recuperadas, _
              rw [hrecover, List.forall_mem_append]
              exact ⟨hrest, by simpa using hout.1⟩
          · refine ih ?_ ?_ hout.2 h
            · exact hrec
            · exact hrest
      · refine ih hrec ?_ ?_ h
        · simpa using hajenas
        · simpa using hnodup

lemma VecindadSana.checkNeighbors {n n' : Node} (h : n.VecindadSana) {env : Env}
    (hstep : n.checkNeighbors env = some n') : n'.VecindadSana := by
  obtain ⟨m, hm, rfl⟩ := Option.map_eq_some_iff.mp hstep
  have hm' := @checkNeighborsLoop_sana [] n.neighTable n m h.sanas.nodup h.sanas.ajenas
    h.vecinos_nodup hm
  obtain ⟨t, rc, rv, heq⟩ := checkNeighborsLoop_eq hm
  have hsec : m.secAddrFlag = n.secAddrFlag := by rw [heq]
  exact (VecindadSana.mk hm'.1 hm'.2 (hsec.trans h.sin_secundaria)).of_eq rfl rfl rfl

/-! ## Hearing a neighbour -/

/-- Refreshing an entry leaves the addresses. -/
lemma map_primAddr_replaceF {f : Neighbor → Option Neighbor}
    (hf : ∀ it it', f it = some it' → it'.primAddr = it.primAddr) (its : List Neighbor) :
    (its.replaceF f).map Neighbor.primAddr = its.map Neighbor.primAddr := by
  induction its with
  | nil => rfl
  | cons it its ih =>
      rw [List.replaceF]
      cases hit : f it with
      | none => simp [ih]
      | some it' => simp [hf it it' hit]

/-- **The neighbours after a heartbeat**: the sender is the only new one, and no neighbour is there
twice. -/
lemma vecinos_oirVecino {hb : CtrlPkt} {secFlag : Bool} {n m : Node}
    (h : n.oirVecino hb secFlag = some m) (hnodup : n.vecinos.Nodup) :
    m.vecinos.Nodup ∧ hb.primAddr ∈ m.vecinos
      ∧ ∀ a ∈ m.vecinos, a = hb.primAddr ∨ a ∈ n.vecinos := by
  rcases oirVecino_cases h with ⟨-, htab⟩ | ⟨-, ⟨hfind, htab⟩ | ⟨it, hfind, htab⟩⟩
  · simp [vecinos, htab, newNeighbor]
  · have hmap : m.vecinos = n.vecinos ++ [hb.primAddr] := by
      simp [vecinos, htab, newNeighbor]
    have hno : hb.primAddr ∉ n.vecinos := by
      rw [List.find?_eq_none] at hfind
      intro hmem
      obtain ⟨it, hit, heq⟩ := List.mem_map.mp hmem
      exact hfind it hit (by simpa using heq)
    rw [hmap]
    refine ⟨?_, by simp, ?_⟩
    · exact List.Nodup.append hnodup (List.nodup_singleton _) (by simpa using hno)
    · simp only [List.mem_append, List.mem_singleton]
      tauto
  · have hmap : m.vecinos = n.vecinos := by
      rw [vecinos, htab, map_primAddr_replaceF, vecinos]
      intro it it' hit
      split_ifs at hit
      rw [← Option.some.inj hit]
    have hit : it.primAddr = hb.primAddr := by simpa using List.find?_some hfind
    rw [hmap]
    refine ⟨hnodup, ?_, fun a => Or.inr⟩
    rw [← hit]
    exact List.mem_map_of_mem (List.mem_of_find?_eq_some hfind)

/-- What a heartbeat that is heard needs: if it starts a fragmentation, the shift keeps the recovered
addresses apart, and otherwise its sender is not one of them. -/
def guardaOir (env : Env) (hb : CtrlPkt) (n : Node) : Prop :=
  n.escucha env hb → ∀ m, n.oirVecino hb (n.porSecundaria hb) = some m →
    if m.seFragmenta env then
      (n.rcvdAddr.map fun it => shift n.hcDim 1 n.primMaskInicial.toNat root it.primAddr).Nodup
    else hb.primAddr ∉ n.recuperadas

/-- Entering the sender keeps the recovered addresses sound exactly when it is none of them. -/
lemma VecindadSana.oirVecino {hb : CtrlPkt} {secFlag : Bool} {n m : Node} (h : n.VecindadSana)
    (hm : n.oirVecino hb secFlag = some m) :
    hb.primAddr ∉ n.recuperadas ∧ m.VecindadSana
      ∨ hb.primAddr ∈ n.recuperadas ∧ ¬ m.RecuperadasSanas := by
  obtain ⟨hnodup, hmem, hsub⟩ := vecinos_oirVecino hm h.vecinos_nodup
  have hrec : m.recuperadas = n.recuperadas := by
    rw [oirVecino_eq hm]
    rfl
  have hsec : m.secAddrFlag = n.secAddrFlag := by
    rw [oirVecino_eq hm]
    rfl
  by_cases hin : hb.primAddr ∈ n.recuperadas
  · exact Or.inr ⟨hin, fun hs => hs.ajenas _ (hrec ▸ hin) hmem⟩
  · refine Or.inl ⟨hin, ⟨⟨hrec ▸ h.sanas.nodup, fun a ha hv => ?_⟩, hnodup,
      hsec.trans h.sin_secundaria⟩⟩
    rw [hrec] at ha
    rcases hsub a hv with rfl | hv
    · exact hin ha
    · exact h.sanas.ajenas a ha hv

/-- `fragmentacion` empties the neighbour table and shifts the recovered addresses. -/
lemma fragmentacion_sanas {env : Env} {n : Node} (hsec : n.secAddrFlag = false) :
    (n.rcvdAddr.map fun it => shift n.hcDim 1 n.primMaskInicial.toNat root it.primAddr).Nodup
        ∧ (n.fragmentacion env).VecindadSana
      ∨ ¬ (n.rcvdAddr.map fun it => shift n.hcDim 1 n.primMaskInicial.toNat root it.primAddr).Nodup
        ∧ ¬ (n.fragmentacion env).RecuperadasSanas := by
  have hvec : (n.fragmentacion env).vecinos = [] := by
    rw [fragmentacion_eq]
    rfl
  have hs : (n.fragmentacion env).secAddrFlag = n.secAddrFlag := by
    rw [fragmentacion_eq]
    rfl
  have hrec : (n.fragmentacion env).recuperadas
      = n.rcvdAddr.map fun it => shift n.hcDim 1 n.primMaskInicial.toNat root it.primAddr := by
    rw [fragmentacion_eq]
    simp [recuperadas, RecoveredAddr.shiftRoot, Function.comp_def]
  by_cases hnodup : (n.rcvdAddr.map fun it =>
      shift n.hcDim 1 n.primMaskInicial.toNat root it.primAddr).Nodup
  · exact Or.inl ⟨hnodup, ⟨⟨hrec ▸ hnodup, by simp [hvec]⟩, by simp [hvec], hs.trans hsec⟩⟩
  · exact Or.inr ⟨hnodup, fun h => hnodup (hrec ▸ h.nodup)⟩

/-- `mezcla` offers a recovered address and takes it off the list. -/
lemma maskAProponer_sublist (n : Node) :
    (n.maskAProponer.2.map RecoveredAddr.primAddr).Sublist n.recuperadas := by
  unfold maskAProponer
  split
  · exact (List.eraseP_sublist).map _
  · exact List.Sublist.refl _

/-- **`process_hb`.** -/
lemma VecindadSana.processHb {n n' : Node} (h : n.VecindadSana) {env : Env} {hb : CtrlPkt}
    (hstep : n.processHb env hb = some n') :
    n.guardaOir env hb ∧ n'.VecindadSana ∨ ¬ n.guardaOir env hb ∧ ¬ n'.RecuperadasSanas := by
  by_cases hesc : n.escucha env hb
  · rw [processHb_of_escucha hesc] at hstep
    obtain ⟨m, hm, rfl⟩ := Option.map_eq_some_iff.mp hstep
    have hguard : n.guardaOir env hb ↔ if m.seFragmenta env then
        (n.rcvdAddr.map fun it => shift n.hcDim 1 n.primMaskInicial.toNat root it.primAddr).Nodup
        else hb.primAddr ∉ n.recuperadas := by
      refine ⟨fun hg => hg hesc m hm, fun hg _ m' hm' => ?_⟩
      obtain rfl := Option.some.inj (hm.symm.trans hm')
      exact hg
    have hrec : m.rcvdAddr = n.rcvdAddr ∧ m.hcDim = n.hcDim
        ∧ m.primMaskInicial = n.primMaskInicial ∧ m.secAddrFlag = n.secAddrFlag := by
      rw [oirVecino_eq hm]
      exact ⟨rfl, rfl, rfl, rfl⟩
    obtain ⟨hr, hdim, hini, hsec⟩ := hrec
    rw [hguard]
    by_cases hfrag : m.seFragmenta env
    · rw [if_pos hfrag, detectorDeFragmentacion_of_seFragmenta hfrag, ← hr, ← hdim, ← hini]
      exact fragmentacion_sanas (n := m.conVecinoRaiz) (hsec.trans h.sin_secundaria)
    · have hsame : (m.detectorDeFragmentacion env).neighTable = m.neighTable
          ∧ (m.detectorDeFragmentacion env).rcvdAddr = m.rcvdAddr
          ∧ (m.detectorDeFragmentacion env).secAddrFlag = m.secAddrFlag := by
        rcases detectorDeFragmentacion_cases env m with heq | heq | ⟨hc, -⟩
        · simp [heq]
        · rw [heq]
          exact ⟨rfl, rfl, rfl⟩
        · exact absurd hc hfrag
      obtain ⟨hv, hr', hs⟩ := hsame
      rw [if_neg hfrag]
      rcases h.oirVecino hm with ⟨hno, hmv⟩ | ⟨hin, hno⟩
      · exact Or.inl ⟨hno, hmv.of_eq hv hr' hs⟩
      · refine Or.inr ⟨not_not.mpr hin, fun hc => hno ?_⟩
        rwa [recuperadasSanas_def, recuperadas, vecinos, hv, hr', ← recuperadas, ← vecinos,
          ← recuperadasSanas_def] at hc
  · have hguard : n.guardaOir env hb := fun hc => absurd hc hesc
    refine Or.inl ⟨hguard, ?_⟩
    rcases processHb_cases hstep with rfl | ⟨-, rfl⟩ | rfl | ⟨hc, -⟩
    · exact h
    · exact h.of_sublist rfl (maskAProponer_sublist n) rfl
    · obtain ⟨ts, o, f, l, heq, -⟩ := chkSecAddr1_eq env hb.primAddr n
      rw [heq]
      exact h.of_eq rfl rfl rfl
    · exact absurd hc hesc

/-! ## The other handlers -/

lemma VecindadSana.sendHb {n : Node} (h : n.VecindadSana) (env : Env) (timer : Bool) :
    (n.sendHb env timer).VecindadSana := by
  have honly : (n.checkIfIAmOnly env).VecindadSana := by
    unfold checkIfIAmOnly
    split_ifs
    · exact h.of_sublist rfl (List.nil_sublist _) rfl
    · exact h
  have hchecks : (n.sendHbChecks env).VecindadSana := by
    unfold sendHbChecks
    split_ifs
    · rw [checkNeighOfSecondaryAddress_of_not_sec honly.sin_secundaria]
      exact honly.of_eq rfl rfl rfl
    · exact h
  obtain ⟨ts, o, heq, -⟩ := sendHb_eq env timer n
  rw [heq]
  exact hchecks.of_eq rfl rfl rfl

lemma VecindadSana.sendPanc {n : Node} (h : n.VecindadSana) (env : Env)
    (dst primary chosen : In6Addr) : (n.sendPanc env dst primary chosen).VecindadSana := by
  unfold Node.sendPanc
  dsimp only
  split_ifs
  · exact h.of_sublist rfl ((List.eraseP_sublist).map _) rfl
  · exact h.of_eq rfl rfl rfl

lemma VecindadSana.timerHandler {n n' : Node} (h : n.VecindadSana) {env : Env} {id : TimerId}
    (hstep : timerHandler env id n = some n') : n'.VecindadSana := by
  cases id with
  | hbT => exact Option.some.inj hstep ▸ h.sendHb env true
  | chkNeighT => exact h.checkNeighbors hstep
  | rvT =>
      obtain rfl := Option.some.inj hstep
      refine h.of_eq ?_ (by simp) (by simp)
      rw [registerRv_eq]
  | sanT k =>
      obtain rfl := Option.some.inj hstep
      exact h.of_eq rfl rfl rfl

/-! ## Runs -/

/-- Heartbeats, the messages of a join, and timers. -/
def deVecindad : Event → Prop
  | .recv _ (.ctrl p) =>
      p.pktTypeF = .hb ∨ p.pktTypeF = .par ∨ p.pktTypeF = .pap ∨ p.pktTypeF = .pan
        ∨ p.pktTypeF = .panc
  | _ => True

/-- What a step needs to keep the recovered addresses sound. -/
def guardaRecuperadas (n : Node) : Event → Prop
  | .recv env (.ctrl p) => n.timers.expiredTQ = [] → p.pktTypeF = .hb → n.vaciar.guardaOir env p
  | _ => True

/-- **One step.** -/
lemma VecindadSana.step {n n' : Node} {e : Event} (h : n.VecindadSana) (he : deVecindad e)
    (hstep : n.step e = some n') :
    n.guardaRecuperadas e ∧ n'.VecindadSana ∨ ¬ n.guardaRecuperadas e ∧ ¬ n'.RecuperadasSanas := by
  have hvac : n.vaciar.VecindadSana := h.of_eq rfl rfl rfl
  rcases step_cases hstep with ⟨env, pkt, rfl, hexp, hrecv⟩ | ⟨now, rfl, -, rfl⟩
    | ⟨env, t, rest, rfl, -, hfire⟩ | ⟨hespera, rfl⟩
  · cases pkt with
    | rv p =>
        refine Or.inl ⟨trivial, ?_⟩
        simp only [antopProcessPkt] at hrecv
        split at hrecv
        · exact Option.some.inj hrecv ▸ hvac.of_eq rfl rfl rfl
        · exact Option.some.inj hrecv ▸ hvac
    | ctrl p =>
        by_cases hhb : p.pktTypeF = .hb
        · have hguard : n.guardaRecuperadas (.recv env (.ctrl p)) ↔ n.vaciar.guardaOir env p :=
            ⟨fun hg => hg hexp hhb, fun hg _ _ => hg⟩
          rw [hguard]
          simp only [antopProcessPkt, hhb] at hrecv
          split_ifs at hrecv with hflags
          · have hsorda : ¬ n.vaciar.escucha env p := fun hesc =>
              hflags.elim hesc.1.1 hesc.1.2
            exact Or.inl ⟨fun hesc => absurd hesc hsorda, Option.some.inj hrecv ▸ hvac⟩
          · exact hvac.processHb hrecv
        · refine Or.inl ⟨fun _ hc => absurd hc hhb, ?_⟩
          rcases he with hp | hp | hp | hp | hp
          · exact absurd hp hhb
          · simp only [antopProcessPkt, hp] at hrecv
            exact Option.some.inj hrecv ▸ hvac.of_eq rfl rfl rfl
          · simp only [antopProcessPkt, hp] at hrecv
            exact Option.some.inj hrecv ▸ hvac
          · simp only [antopProcessPkt, hp] at hrecv
            split_ifs at hrecv
            · exact Option.some.inj hrecv ▸ hvac
            · exact Option.some.inj hrecv ▸ hvac.sendPanc env _ _ _
            · exact Option.some.inj hrecv ▸ hvac
          · simp only [antopProcessPkt, hp] at hrecv
            exact Option.some.inj hrecv ▸ hvac
  · exact Or.inl ⟨trivial, h.of_eq rfl rfl rfl⟩
  · have htimer : (n.vaciar.tomarTimer t.id rest).VecindadSana := h.of_eq rfl rfl rfl
    exact Or.inl ⟨trivial, htimer.timerHandler hfire⟩
  · refine Or.inl ⟨?_, hvac⟩
    match e with
    | .recv _ (.ctrl p) => exact fun hexp => absurd hexp hespera
    | .recv _ (.rv p) => trivial
    | .timeout now => trivial
    | .fire env => trivial

/-- **When the recovered addresses stay sound.**  Along any run of heartbeats, joins and timers, no
recovered address is that of a neighbour or there twice, exactly when each heartbeat that is heard
comes from an address that is not recovered or starts a fragmentation that keeps them apart. -/
theorem recuperadas_sanas_iff {n : Node} (h : n.VecindadSana) {es : List Event}
    (hes : ∀ e ∈ es, deVecindad e) :
    (∀ u ∈ states Node.step n es, u.RecuperadasSanas)
      ↔ ∀ t ∈ steps Node.step n es, t.1.guardaRecuperadas t.2.1 :=
  property_iff_guard_on (fun _ hu => hu.sanas) (fun _ _ _ hs he hstep => hs.step he hstep) h hes

/-- An address that `send_pap` offers as recovered is that of no neighbour, where the recovered
addresses are sound. -/
theorem proposal_ajena {n : Node} (h : n.RecuperadasSanas) {env : Env} {a : In6Addr}
    (hnew : n.rcvdOffered = none) (hoffer : (n.proposal env).2 = some a) :
    (n.proposal env).1.adAddr.addr = a ∧ a ∉ n.vecinos := by
  unfold proposal at hoffer ⊢
  cases hlast : n.rcvdAddr.getLast? with
  | none =>
      simp only [hlast, hnew] at hoffer
      split_ifs at hoffer
  | some rcvdAux =>
      simp only [hlast, hnew, Option.some.injEq] at hoffer ⊢
      subst hoffer
      exact ⟨rfl, h.ajenas _ (List.mem_map_of_mem (List.mem_of_getLast? hlast))⟩

/-- The root with its first child. -/
def raizConHijo : Node :=
  { primAddrInit 64 "r" with
    primMask := 1, iface := {root}
    neighTable := [{ primAddr := slotAddr root 0, secAddrConn := false, count := 0, primMask := 1
                     primMaskInicial := 1, available := true }] }

/-- A heartbeat of the first child. -/
def hbDelHijo : CtrlPkt :=
  { CtrlPkt.zero with
    pktTypeF := .hb, srcAddr := slotAddr root 0, primAddr := slotAddr root 0
    adAddr := { tLenght := 1, addr := .zero, mask := 1, redNumero := 0 } }

/-- A run of the kind: the child is heard again before it is given up. -/
theorem recuperadas_sanas_iff_raizConHijo :
    (∀ u ∈ states Node.step raizConHijo [.recv .zero (.ctrl hbDelHijo)], u.RecuperadasSanas)
      ↔ ∀ t ∈ steps Node.step raizConHijo [.recv .zero (.ctrl hbDelHijo)],
        t.1.guardaRecuperadas t.2.1 :=
  recuperadas_sanas_iff ⟨by decide, by decide, rfl⟩ (by simp [deVecindad, hbDelHijo])

/-- A child that is given up after 24 seconds and heard again: its address is recovered, and it is a
neighbour. -/
theorem recovered_neighbor_heard :
    ¬ ∀ (clock : Timeval) (n : Node) (es : List Event), n.VecindadSana →
      (∀ e ∈ es, deVecindad e) →
      ∀ u ∈ states Node.step (n.arrancar clock) es, u.RecuperadasSanas := by
  intro h
  have hrun := h ⟨0, 0⟩ raizConHijo
    (([8, 16, 24].flatMap ronda) ++ [.recv .zero (.ctrl hbDelHijo)])
    ⟨by decide, by decide, rfl⟩ (by simp [deVecindad, hbDelHijo, ronda])
  revert hrun
  decide +kernel

end Node

end Antop
