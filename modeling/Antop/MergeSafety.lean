import Antop.MergeInvariant

/-!
# Merge safety

What a node of the absorbed network does with each message, by the invariant of the merge.

* `Coherente.renumera_mar1`, `Coherente.renumera_mar2` — a node is renumbered where the guard allows it.
* `Coherente.asienta_man` — a node that waits reads an answer.
* `mezcla_segura` — runs whose steps meet the guard are safe.
* `two_children_one_slot` — a node outside the block takes the address of one inside it.
-/

namespace Antop

open PrefixBlock Transition
open Node (antopProcessPkt)

/-- The neighbours have addresses. -/
lemma RedUnida.vecinos_ne_zero {red : List Node} (h : RedUnida 64 red) (ht : TablasExactas red) {i : ℕ}
    {n : Node} (hi : red[i]? = some n) : ∀ it ∈ n.neighTable, it.primAddr ≠ .zero := by
  intro it hit
  have hmem : it.primAddr ∈ n.neighTable.map Neighbor.primAddr := List.mem_map_of_mem hit
  rw [(ht n (List.mem_of_getElem? hi)).mem_iff, List.mem_filter] at hmem
  obtain ⟨m, hm, heq⟩ := List.mem_map.mp hmem.1
  obtain ⟨j, hj⟩ := List.mem_iff_getElem?.mp hm
  rw [← heq]
  exact h.primAddr_ne_zero hj

/-- Taking the initiator in loses no neighbour. -/
lemma Node.mem_tablaConEmisor {msg : CtrlPkt} {n : Node} {t : List Neighbor} {it : Neighbor}
    (ht : n.tablaConEmisor msg = some t) (hno : ∀ x ∈ n.neighTable, x.primAddr ≠ .zero)
    (hit : it ∈ n.neighTable) : it ∈ t := by
  unfold Node.tablaConEmisor at ht
  split_ifs at ht with hc
  · cases htabla : n.neighTable with
    | nil => exact absurd htabla hc.1.2
    | cons x xs =>
        rw [htabla] at ht hit hno
        rw [addNeighborTable, if_neg (hno x List.mem_cons_self), Option.some.injEq] at ht
        rw [← ht]
        exact List.mem_append_left _ hit
  · exact Option.some.inj ht ▸ hit

namespace RedAbsorbida

variable {c : RedAbsorbida} {w w' : Malla} {own own' : ℕ → Option Block} {i k : ℕ} {env : Env}
  {msg : CtrlPkt} {n n' n₀ : Node}

/-! ## A `MAR` -/

/-- A `MAR1` that comes from another network. -/
lemma procesa_mar1 (ht : msg.pktTypeF = .mar1) (hred : msg.adAddr.redNumero ≠ n.redNumero)
    (haddr : msg.adAddr.addr = n.primAddr) (hsec : n.secAddr = .zero) (hne : n.primAddr ≠ .zero)
    (h : antopProcessPkt env (.ctrl msg) n.vaciar = some n') :
    (enMezcla n).processMar1Primaria env msg = some n' := by
  have hno : ¬ (msg.adAddr.redNumero = n.vaciar.redNumero ∧ n.vaciar.primAddr = dirDefault) :=
    fun hc => hred hc.1
  have hsi : (msg.adAddr.redNumero ≠ n.vaciar.redNumero ∨ n.vaciar.secAddrFlag)
      ∧ msg.adAddr.addr = n.vaciar.primAddr := ⟨Or.inl hred, haddr⟩
  have hprim : ¬ msg.adAddr.addr = n.vaciar.secAddr := by
    show ¬ msg.adAddr.addr = n.secAddr
    rw [haddr, hsec]
    exact hne
  simp only [antopProcessPkt, ht, Node.dispatchMar1_eq] at h
  rw [if_neg hno, if_pos hsi, Node.processMar1] at h
  exact (if_neg hprim).symm.trans h

/-- A `MAR2` that comes from another network. -/
lemma procesa_mar2 (ht : msg.pktTypeF = .mar2) (hred : msg.adAddr.redNumero ≠ n.redNumero)
    (haddr : msg.adAddr.addr = n.primAddr) (hsec : n.secAddr = .zero) (hne : n.primAddr ≠ .zero)
    (h : antopProcessPkt env (.ctrl msg) n.vaciar = some n') :
    n' = (enMezcla n).processMar2Primaria env msg := by
  have hsi : msg.adAddr.redNumero ≠ n.vaciar.redNumero ∨ n.vaciar.secAddrFlag := Or.inl hred
  have hprim : ¬ msg.adAddr.addr = n.vaciar.secAddr := by
    show ¬ msg.adAddr.addr = n.secAddr
    rw [haddr, hsec]
    exact hne
  simp only [antopProcessPkt, ht] at h
  rw [if_pos hsi, Node.processMar2] at h
  exact (Option.some.inj h).symm.trans (if_neg hprim)

/-- The message the first receiver reads first. -/
lemma Coherente.msg_primero (h : c.Coherente w own) (hn : w.nodos[i]? = some n)
    (hk : w.enVuelo[k]? = some (n.primAddr, msg)) (hno : n.redNumero ≠ c.numero) (hi : i = c.recibe) :
    msg.pktTypeF = .mar1 ∧ msg.primAddr = dirDefault := by
  subst hi
  refine (h.primero ?_).2.2 _ (List.mem_of_getElem? hk)
  rintro ⟨u, hu, hred⟩
  obtain rfl := Option.some.inj (hu.symm.trans hn)
  exact hno hred

/-- The sender of a `MAR1` that is passed on, or of a `MAR2`, has been renumbered. -/
lemma Emisor.renumerado {P : Node → Prop} {d a : In6Addr} {j : ℕ} {m₀ : Node}
    (h : c.Emisor w own P d a) (hm₀ : c.red[j]? = some m₀) (hd : d = m₀.primAddr) :
    c.Renumerado w j := by
  obtain ⟨i, u₀, u, -, hu₀, hu₀d, hu, hred, -⟩ := h
  obtain rfl := c.unida.eq_of_primAddr hu₀ hm₀ (hu₀d.trans hd)
  exact ⟨u, hu, hred⟩

/-! ### `MAR1` -/

/-- The mask that falls away is that of the first receiver. -/
lemma Coherente.maskQueCae_eq (h : c.Coherente w own) (hk : w.enVuelo[k]? = some (n.primAddr, msg))
    (hn₀ : c.red[i]? = some n₀) (hv : n.vaciar = n₀.vaciar) (ht : msg.pktTypeF = .mar1) :
    n.maskQueCae msg = c.receptor.primMaskInicial := by
  unfold Node.maskQueCae
  split_ifs with hdef
  · obtain rfl := h.recibe_of_primero hk hn₀ hv hdef ht
    obtain rfl := Option.some.inj (hn₀.symm.trans c.red_recibe)
    exact campo_of_vaciar hv Node.primMaskInicial fun _ => rfl
  · rcases ((h.mensaje _ (List.mem_of_getElem? hk)).mar1 ht).2 with ⟨hc, -⟩ | ⟨⟨-, hcae⟩, -⟩
    · exact absurd hc hdef
    · exact hcae

/-- The mask with which the reader starts. -/
lemma toNat_primMask_entrarMar1 (hcae : n.maskQueCae msg = c.receptor.primMaskInicial)
    (hmask : msg.adAddr.mask = c.mascara) (hle : c.receptor.primMaskInicial.toNat ≤ n.primMask.toNat)
    (hroom : n.primMask.toNat + c.mascara.toNat + 1 ≤ 63 + c.receptor.primMaskInicial.toNat) :
    (n.entrarMar1 msg).primMask.toNat
      = n.primMask.toNat + c.mascara.toNat + 1 - c.receptor.primMaskInicial.toNat := by
  rw [Node.entrarMar1, hcae, hmask]
  dsimp only [Node.storePrimMask]
  rw [BitVec.toNat_ofInt]
  omega

/-- **The neighbours hear of it**: those a `MAR1` does not reach have told the node. -/
lemma Coherente.cubre_mar1 (h : c.Coherente w own) (hn : w.nodos[i]? = some n)
    (hk : w.enVuelo[k]? = some (n.primAddr, msg)) (hno : n.redNumero ≠ c.numero)
    (hn₀ : c.red[i]? = some n₀) (hv : n.vaciar = n₀.vaciar) (ht : msg.pktTypeF = .mar1)
    (hdef : n.primAddr ≠ dirDefault) (huno : n.mar2sDeMar1 msg ≤ 1)
    (hproc : (enMezcla n).processMar1Primaria env msg = some n') (j : ℕ) (m₀ : Node)
    (hm₀ : c.red[j]? = some m₀) (hpuede : i = c.recibe ∨ n₀.primMask ≠ n₀.primMaskInicial)
    (hdist : dist n₀.primAddr m₀.primAddr = 1) :
    c.Renumerado w j ∨ ∃ x ∈ n'.out, esMar x.2 ∧ x.1 = m₀.primAddr := by
  obtain ⟨it, hit, hitm⟩ := RedUnida.vecino c.tablas hn₀ hm₀ hdist
  have htabla : n.neighTable = n₀.neighTable := campo_of_vaciar hv Node.neighTable fun _ => rfl
  obtain ⟨n₁, h₁, -⟩ := Option.bind_eq_some_iff.mp hproc
  obtain ⟨t, ht₁, -⟩ := Option.map_eq_some_iff.mp h₁
  have hitn : it ∈ (enMezcla n).neighTable := htabla ▸ hit
  have hitt : it ∈ t := by
    refine Node.mem_tablaConEmisor ht₁ ?_ hitn
    show ∀ x ∈ n.neighTable, x.primAddr ≠ .zero
    rw [htabla]
    exact c.unida.vecinos_ne_zero c.tablas hn₀
  have hciclo : (enMezcla n).iniciaCiclo msg := by
    rcases hpuede with hi | hmask
    · obtain ⟨-, hprimero⟩ := h.msg_primero hn hk hno hi
      exact Or.inr (Or.inl ⟨hprimero, List.ne_nil_of_mem hitn⟩)
    · refine Or.inl ?_
      show n.primMask ≠ n.primMaskInicial
      rwa [campo_of_vaciar hv Node.primMask fun _ => rfl,
        campo_of_vaciar hv Node.primMaskInicial fun _ => rfl]
  have hsec : n.secAddrFlag = false := (unido_vaciar hn₀ hv).sinSecundaria.1
  by_cases hvis : (enMezcla n).visitaMar (Node.auxAntopMsg msg).primAddr
      ((enMezcla n).flagMonitoreo msg) it.primAddr
  · rw [← hitm]
    exact Or.inr (Node.alcanza_processMar1 (n := enMezcla n) rfl hdef huno hproc hciclo ht₁ hitt hvis)
  · -- the message has come from there, and not from the initiator
    have hno : ¬ ((enMezcla n).secAddrFlag ∧ 1 < dist (enMezcla n).primAddr it.primAddr) := fun hc =>
      absurd (hsec.symm.trans hc.1) (by decide)
    obtain ⟨horigen, hmon⟩ := not_or.mp fun hc => hvis ⟨hc, hno⟩
    rw [not_not] at horigen
    have hmsg := (h.mensaje _ (List.mem_of_getElem? hk)).mar1 ht
    rcases hmsg.2 with ⟨hprimero, -⟩ | ⟨⟨hpasado, -⟩, hde⟩
    · rw [Node.auxAntopMsg, if_pos hprimero] at horigen
      refine absurd ?_ hmon
      unfold Node.flagMonitoreo
      rw [decide_eq_true hprimero, Bool.true_and, List.any_eq_true]
      exact ⟨it, hitn, decide_eq_true horigen.symm⟩
    · rw [Node.auxAntopMsg, if_neg hpasado] at horigen
      exact Or.inl (hde.renumerado hm₀ (horigen.trans hitm))

/-- **A `MAR1`** renumbers its reader where the guard allows it. -/
lemma Coherente.renumera_mar1 (h : c.Coherente w own) (hn : w.nodos[i]? = some n)
    (hk : w.enVuelo[k]? = some (n.primAddr, msg)) (hno : n.redNumero ≠ c.numero)
    (ht : msg.pktTypeF = .mar1) (hcabe : c.cabe n msg)
    (hn' : antopProcessPkt env (.ctrl msg) n.vaciar = some n') :
    ∃ own', c.Coherente (w.leer i k msg n') own' := by
  obtain ⟨n₀, hn₀, hviejo, -⟩ := h.nodo i n hn
  obtain ⟨hv, hown⟩ := hviejo hno
  have hu := unido_vaciar hn₀ hv
  have hmsg := h.mensaje _ (List.mem_of_getElem? hk)
  obtain ⟨⟨hsrc, hmask⟩, -⟩ := hmsg.mar1 ht
  rw [cabe, if_pos ht] at hcabe
  obtain ⟨hb, huno, hroom⟩ := hcabe
  have hprim : n.primAddr = n₀.primAddr := campo_of_vaciar hv Node.primAddr fun _ => rfl
  have hpm : n.primMask = n₀.primMask := campo_of_vaciar hv Node.primMask fun _ => rfl
  have hdim : n.hcDim = 64 := hu.dimension
  have hb₀ : c.enBloque n₀ := by
    unfold enBloque at hb ⊢
    rwa [← hprim, ← hpm]
  have hdef : n.primAddr ≠ dirDefault := hprim ▸ hb₀.ne_dirDefault hn₀
  have hproc := procesa_mar1 ht (fun hc => hno (hc.symm.trans hmsg.numero)) (hmsg.destino (Or.inl ht))
    hu.sinSecundaria.2 (hprim ▸ c.unida.primAddr_ne_zero hn₀) hn'
  obtain ⟨hr, hmez⟩ := Node.renumera_processMar1 (n := enMezcla n) hu.sinSecundaria.1 rfl rfl hdef huno hproc
  have hcae := h.maskQueCae_eq hk hn₀ hv ht
  have hnueva : (enMezcla n).dirDeMar1 msg = c.nuevaMar1 n.primAddr := by
    show shiftMezcla n.hcDim msg.srcAddr n.primAddr msg.adAddr.mask.toNat (n.maskQueCae msg).toNat = _
    rw [hdim, hsrc, hmask, hcae]
    rfl
  have hlen : ((enMezcla n).entrarMar1 msg).primMask.toNat
      = n₀.primMask.toNat + c.mascara.toNat + 1 - c.receptor.primMaskInicial.toNat := by
    rw [toNat_primMask_entrarMar1 (n := enMezcla n) hcae hmask (hpm ▸ hb₀.mask_le hn₀)
      (le_trans (Nat.le_add_right _ _) hroom), ← hpm]
    rfl
  have hvacia : Vacia ((enMezcla n).dirDeMar1 msg) ((enMezcla n).entrarMar1 msg).primMask.toNat := by
    rw [hnueva, hlen, hprim]
    exact hb₀.vacia_nueva hn₀
  refine h.renumera hn hk hno hn₀ hv hr (Or.inl ⟨rfl, ht⟩) (fun _ => ⟨hnueva, hmez.trans hcae, hcae⟩)
    hvacia ?_ hdef ?_ ?_
  · have hcount : (enMezcla n).mar2sDeMar1 msg = n.mar2sDeMar1 msg := rfl
    rw [hlen, hcount, ← hpm]
    omega
  · -- the block is the one it has
    have hself : Function.update own i (some (block ((enMezcla n).dirDeMar1 msg)
        ((enMezcla n).entrarMar1 msg).primMask.toNat)) = own := by
      refine Function.update_eq_self_iff.mpr ?_
      rw [hown hb₀, hnueva, hlen, hprim]
      rfl
    rw [hself]
    exact h.bloques_quita k
  · intro j m₀ hm₀ hpuede hdist
    refine (h.cubre_mar1 hn hk hno hn₀ hv ht hdef huno hproc j m₀ hm₀ hpuede hdist).imp_left ?_
    exact fun hj => hj.leer hn (hr.numero.trans hmsg.numero)

/-! ### `MAR2` -/

/-- **The neighbours hear of it**, but for the one that has told the node. -/
lemma Coherente.cubre_mar2 (h : c.Coherente w own) (hn : w.nodos[i]? = some n)
    (hk : w.enVuelo[k]? = some (n.primAddr, msg)) (hno : n.redNumero ≠ c.numero)
    (hn₀ : c.red[i]? = some n₀) (hv : n.vaciar = n₀.vaciar) (ht : msg.pktTypeF = .mar2) (j : ℕ)
    (m₀ : Node) (hm₀ : c.red[j]? = some m₀) (hpuede : i = c.recibe ∨ n₀.primMask ≠ n₀.primMaskInicial)
    (hdist : dist n₀.primAddr m₀.primAddr = 1) :
    c.Renumerado w j
      ∨ ∃ x ∈ ((enMezcla n).processMar2Primaria env msg).out, esMar x.2 ∧ x.1 = m₀.primAddr := by
  obtain ⟨it, hit, hitm⟩ := RedUnida.vecino c.tablas hn₀ hm₀ hdist
  have htabla : n.neighTable = n₀.neighTable := campo_of_vaciar hv Node.neighTable fun _ => rfl
  have hitn : it ∈ (enMezcla n).neighTable := htabla ▸ hit
  have hmask : n.primMask ≠ n.primMaskInicial := by
    rcases hpuede with hi | hmask
    · -- the first receiver has read a `MAR1` before
      exact absurd ((h.msg_primero hn hk hno hi).1.symm.trans ht) (by decide)
    · rwa [campo_of_vaciar hv Node.primMask fun _ => rfl,
        campo_of_vaciar hv Node.primMaskInicial fun _ => rfl]
  have hsec : n.secAddrFlag = false := (unido_vaciar hn₀ hv).sinSecundaria.1
  by_cases horigen : msg.primAddr = it.primAddr
  · have hde := ((h.mensaje _ (List.mem_of_getElem? hk)).mar2 ht).1
    exact Or.inl (hde.renumerado hm₀ (horigen.trans hitm))
  · have hvis : (enMezcla n).visitaMar msg.primAddr false it.primAddr :=
      ⟨Or.inl horigen, fun hc => absurd (hsec.symm.trans hc.1) (by decide)⟩
    rw [← hitm]
    exact Or.inr (Node.alcanza_processMar2 (n := enMezcla n) rfl (Or.inl hmask) hitn hvis)

/-- The slot of the `MAR2` that is read is taken. -/
lemma Coherente.bloques_toma (h : c.Coherente w own) {m : In6Addr × CtrlPkt}
    (hk : w.enVuelo[k]? = some m) (ht : m.2.pktTypeF = .mar2) (i : ℕ) :
    Ofrecidos (Function.update own i (some (bloqueOfrecido (m.2.srcAddr, m.2.adAddr.mask))))
      (((w.enVuelo.eraseIdx k).filterMap oferta).map bloqueOfrecido) := by
  obtain ⟨hlt, hget⟩ := List.getElem?_eq_some_iff.mp hk
  have hperm : w.enVuelo.Perm (m :: w.enVuelo.eraseIdx k) := by
    rw [← hget]
    exact (List.getElem_cons_eraseIdx_perm hlt).symm
  have hoferta : oferta m = some (m.2.srcAddr, m.2.adAddr.mask) := if_pos ht
  have hbloques := h.bloques.perm ((hperm.filterMap oferta).map bloqueOfrecido)
  rw [List.filterMap_cons_some hoferta, List.map_cons] at hbloques
  exact hbloques.take i

/-- **A `MAR2`** renumbers its reader where the guard allows it. -/
lemma Coherente.renumera_mar2 (h : c.Coherente w own) (hn : w.nodos[i]? = some n)
    (hk : w.enVuelo[k]? = some (n.primAddr, msg)) (hno : n.redNumero ≠ c.numero)
    (ht : msg.pktTypeF = .mar2) (hcabe : c.cabe n msg)
    (hn' : antopProcessPkt env (.ctrl msg) n.vaciar = some n') :
    ∃ own', c.Coherente (w.leer i k msg n') own' := by
  obtain ⟨n₀, hn₀, hviejo, -⟩ := h.nodo i n hn
  obtain ⟨hv, -⟩ := hviejo hno
  have hu := unido_vaciar hn₀ hv
  have hprim : n.primAddr = n₀.primAddr := campo_of_vaciar hv Node.primAddr fun _ => rfl
  have hmsg := h.mensaje _ (List.mem_of_getElem? hk)
  obtain ⟨-, m, hm, hmask, hsrc⟩ := hmsg.mar2 ht
  rw [cabe, if_neg (by rw [ht]; decide)] at hcabe
  obtain ⟨hdef, hroom⟩ := hcabe
  have hproc := procesa_mar2 ht (fun hc => hno (hc.symm.trans hmsg.numero)) (hmsg.destino (Or.inr ht))
    hu.sinSecundaria.2 (hprim ▸ c.unida.primAddr_ne_zero hn₀) hn'
  have hr := Node.renumera_processMar2 (n := enMezcla n) env msg hu.sinSecundaria.1 rfl rfl
  rw [← hproc] at hr
  have hnueva : (enMezcla n).dirDeMar2 msg = mar2Addr 64 msg.srcAddr msg.adAddr.mask := by
    show mar2Addr n.hcDim msg.srcAddr msg.adAddr.mask = _
    rw [show n.hcDim = 64 from hu.dimension]
  have hvacia : Vacia ((enMezcla n).dirDeMar2 msg) msg.adAddr.mask.toNat := by
    rw [hnueva, hmask]
    exact mar2Addr_vacia hsrc hmask hm
  refine h.renumera hn hk hno hn₀ hv hr (Or.inr ⟨rfl, ht⟩) (fun hc => absurd hc (by decide)) hvacia hroom
    hdef ?_ ?_
  · rw [hnueva]
    exact h.bloques_toma hk ht i
  · intro j m₀ hm₀ hpuede hdist
    rw [hproc]
    refine (h.cubre_mar2 hn hk hno hn₀ hv ht j m₀ hm₀ hpuede hdist).imp_left ?_
    exact fun hj => hj.leer hn (hproc ▸ hr.numero.trans hmsg.numero)

/-! ## The other messages -/

/-- The sender of a `MAR`, when it waits for the answer. -/
lemma Emisor.propio {P : Node → Prop} {a : In6Addr} (h : c.Emisor w own P n.primAddr a)
    (hn : w.nodos[i]? = some n) (hn₀ : c.red[i]? = some n₀) (hprim : n.primAddr = n₀.primAddr)
    (hesp : n.flagMezcla = true) : ∃ len, own i = some (block a len) ∧ P n := by
  obtain ⟨j, u₀, u, len, hu₀, hd, hu, -, hown, hP⟩ := h
  obtain rfl := c.unida.eq_of_primAddr hu₀ hn₀ (hd.trans hprim)
  obtain rfl := Option.some.inj (hn.symm.trans hu)
  exact ⟨len, hown, hP hesp⟩

/-- **A node that waits** reads an answer. -/
lemma Coherente.asienta_man (h : c.Coherente w own) (hn : w.nodos[i]? = some n)
    (hk : w.enVuelo[k]? = some (n.primAddr, msg)) (hman : esMan msg) (hesp : n.flagMezcla = true)
    (hn' : antopProcessPkt env (.ctrl msg) n.vaciar = some n') :
    c.Coherente (w.leer i k msg n') own := by
  have hmsg := h.mensaje _ (List.mem_of_getElem? hk)
  obtain ⟨n₀, hn₀, hviejo, hnuevo⟩ := h.nodo i n hn
  have hred : n.redNumero = c.numero := by
    -- nobody waits before
    by_contra hno
    have hlibre : n.flagMezcla = n₀.flagMezcla :=
      campo_of_vaciar (hviejo hno).1 Node.flagMezcla fun _ => rfl
    exact absurd (hesp.symm.trans (hlibre.trans (c.unida.unido hn₀).sinMezcla.1)) (by decide)
  obtain ⟨⟨hdim, -, hsecf⟩, -, hespera⟩ := hnuevo hred
  obtain ⟨hprim, hdef, -⟩ := hespera hesp
  have hnum : msg.adAddr.redNumero = n.vaciar.redNumero := hmsg.numero.trans hred.symm
  rcases hman with ht | ht
  · obtain ⟨⟨hsrc, hmask⟩, hde⟩ := hmsg.man1 ht
    obtain ⟨len, hown, hpor⟩ :=
      (hde.resolve_left (hprim ▸ hdef)).propio hn hn₀ hprim hesp
    have hs := Node.asentada_mar1 env msg n.vaciar
    have hnueva : shiftMezcla n.vaciar.hcDim msg.srcAddr n.vaciar.primAddr msg.adAddr.mask.toNat
        n.vaciar.primMaskMezcla.toNat = c.nuevaMar1 n.primAddr := by
      rw [hsrc, hmask, show n.vaciar.hcDim = 64 from hdim,
        show n.vaciar.primMaskMezcla = c.receptor.primMaskInicial from hpor]
      rfl
    have hcompleta : ((n.vaciar.adoptarMar1 msg).moverRecuperadas msg).mezclaCompleta = true := by
      simp [Node.mezclaCompleta, show n.vaciar.secAddrFlag = false from hsecf]
    have hno : ¬ (n.vaciar.flagMezcla = true ∧ n.vaciar.primAddr = dirDefault) :=
      fun hc => hdef (hprim.symm.trans hc.2)
    simp only [antopProcessPkt, ht] at hn'
    rw [if_pos hnum, Node.processMan1, if_neg hno, if_pos (show n.vaciar.flagMezcla = true from hesp),
      if_pos hcompleta] at hn'
    rw [hnueva] at hs
    exact h.asienta hn hk (Or.inl ht) rfl hred hesp hown (Option.some.inj hn' ▸ hs)
  · obtain ⟨len, hown, -⟩ := (hmsg.man2 ht).propio hn hn₀ hprim hesp
    have hcompleta : (n.vaciar.adoptarMar2 msg.srcAddr).mezclaCompleta = true := by
      simp [Node.mezclaCompleta, show n.vaciar.secAddrFlag = false from hsecf]
    simp only [antopProcessPkt, ht] at hn'
    rw [if_pos hnum, Node.processMan2, if_pos (show n.vaciar.flagMezcla = true from hesp),
      if_pos hcompleta] at hn'
    exact h.asienta hn hk (Or.inr ht) rfl hred hesp hown
      (Option.some.inj hn' ▸ Node.asentada_mar2 env msg.srcAddr n.vaciar)

/-- A renumbered node has not the address of an initiator. -/
lemma Movido.ne_dirDefault (h : Movido w own i n₀ n) : n.primAddr ≠ dirDefault := by
  obtain ⟨-, ⟨a, -, h63, ha⟩, hespera⟩ := h
  cases hf : n.flagMezcla with
  | true =>
      obtain ⟨hprim, hdef, -⟩ := hespera hf
      exact hprim ▸ hdef
  | false =>
      rw [ha hf]
      rintro rfl
      exact absurd h63 (by decide)

/-- **A node that is renumbered already**, or does not wait, only takes the message off. -/
lemma Coherente.ignora (h : c.Coherente w own) (hn : w.nodos[i]? = some n)
    (hk : w.enVuelo[k]? = some (n.primAddr, msg)) (hmar : esMar msg → n.redNumero = c.numero)
    (hman : esMan msg → n.flagMezcla = false)
    (hn' : antopProcessPkt env (.ctrl msg) n.vaciar = some n') : n' = n.vaciar := by
  have hmsg := h.mensaje _ (List.mem_of_getElem? hk)
  have htipo : esMar msg ∨ esMan msg := hmsg.tipo
  rcases htipo with hm | hm
  · obtain ⟨n₀, -, -, hnuevo⟩ := h.nodo i n hn
    have hred := hmar hm
    have hmov := hnuevo hred
    have hno : ¬ (msg.adAddr.redNumero ≠ n.vaciar.redNumero ∨ n.vaciar.secAddrFlag = true) := by
      rintro (hc | hc)
      · exact hc (hmsg.numero.trans hred.symm)
      · exact absurd (hmov.marco.2.2.symm.trans hc) (by decide)
    rcases hm with ht | ht
    · simp only [antopProcessPkt, ht, Node.dispatchMar1_eq] at hn'
      rw [if_neg fun hc => hmov.ne_dirDefault hc.2, if_neg fun hc => hno hc.1] at hn'
      exact (Option.some.inj hn').symm
    · simp only [antopProcessPkt, ht] at hn'
      rw [if_neg hno] at hn'
      exact (Option.some.inj hn').symm
  · have hf : ¬ n.vaciar.flagMezcla = true := fun hc => absurd ((hman hm).symm.trans hc) (by decide)
    rcases hm with ht | ht
    · have hquieto : n.vaciar.processMan1 env msg = n.vaciar := by
        rw [Node.processMan1, if_neg fun hc => hf hc.1, if_neg hf]
      simp only [antopProcessPkt, ht] at hn'
      rw [hquieto, ite_self] at hn'
      exact (Option.some.inj hn').symm
    · have hquieto : n.vaciar.processMan2 env msg = n.vaciar := by
        rw [Node.processMan2, if_neg hf]
      simp only [antopProcessPkt, ht] at hn'
      rw [hquieto, ite_self] at hn'
      exact (Option.some.inj hn').symm

/-! ## A step -/

/-- **One step** under the guard. -/
lemma Coherente.step {e : Reparto} (h : c.Coherente w own) (hg : c.guarda w e)
    (hw : w.step e = some w') : ∃ own', c.Coherente w' own' := by
  rcases Malla.step_cases hw with ⟨i, k, env, n, msg, n', rfl, hn, hk, hn', rfl⟩
    | ⟨k, dst, msg, rfl, hk, -, rfl⟩
  · have hg := hg n hn (n.primAddr, msg) hk
    by_cases hmar : esMar msg ∧ n.redNumero ≠ c.numero
    · rw [if_pos hmar] at hg
      obtain ⟨ht | ht, hno⟩ := hmar
      · exact h.renumera_mar1 hn hk hno ht hg hn'
      · exact h.renumera_mar2 hn hk hno ht hg hn'
    · rw [if_neg hmar] at hg
      by_cases hman : esMan msg ∧ n.flagMezcla = true
      · exact ⟨own, h.asienta_man hn hk hman.1 hman.2 hn'⟩
      · obtain rfl := h.ignora hn hk (fun hm => not_not.mp fun hno => hmar ⟨hm, hno⟩)
          (fun hm => Bool.eq_false_of_not_eq_true fun hf => hman ⟨hm, hf⟩) hn'
        refine ⟨own, h.quita (iguales_leer hn msg) ?_ hk (hg.resolve_left hman)⟩
        rw [Malla.leer, Node.vaciar, List.append_nil]
  · exact ⟨own, h.quita (Eq.refl _) rfl hk hg⟩

/-- **When no message is on its way** everybody has been renumbered, and has its address. -/
lemma Coherente.segura (h : c.Coherente w own) : Segura w := by
  intro hvacio
  have hrecibe : c.Renumerado w c.recibe := by
    by_contra hno
    exact (h.primero hno).2.1 hvacio
  have htodos : ∀ (i : ℕ) (n₀ : Node), c.red[i]? = some n₀ → c.Renumerado w i := by
    refine c.unida.alcanza_todos hrecibe c.recibe.2 ?_
    intro i j n₀ m₀ hn₀ hm₀ hi hpuede hdist
    rcases h.cubre i j n₀ m₀ hi hn₀ hm₀ hpuede hdist with hj | ⟨x, hx, -⟩
    · exact hj
    · rw [hvacio] at hx
      exact absurd hx List.not_mem_nil
  have hbloque (i : ℕ) (n : Node) (hn : w.nodos[i]? = some n) :
      own i = some (block n.primAddr n.primMask.toNat) := by
    obtain ⟨n₀, hn₀, -, hnuevo⟩ := h.nodo i n hn
    obtain ⟨u, hu, hred⟩ := htodos i n₀ hn₀
    obtain rfl := Option.some.inj (hn.symm.trans hu)
    obtain ⟨-, ⟨a, hown, -, ha⟩, hespera⟩ := hnuevo hred
    have hlibre : n.flagMezcla = false := by
      by_contra hf
      obtain ⟨-, -, x, hx, -⟩ := hespera (Bool.eq_true_of_not_eq_false hf)
      rw [hvacio] at hx
      exact absurd hx List.not_mem_nil
    rw [ha hlibre]
    exact hown
  intro i j n m hn hm heq
  by_contra hij
  refine (h.bloques.propios i j _ _ (hbloque i n hn) (hbloque j m hm) hij).base_ne ?_
  rw [heq]
  rfl

end RedAbsorbida

/-- The invariant holds along every run under the guard. -/
lemma RedAbsorbida.coherente_of_states (c : RedAbsorbida) {es : List Reparto}
    (hg : ∀ t ∈ steps Malla.step c.malla es, c.guarda t.1 t.2.1) :
    ∀ w ∈ states Malla.step c.malla es, ∃ own, c.Coherente w own :=
  invariant_of_guard (fun _ _ _ ⟨_, h⟩ hg hs => h.step hg hs) ⟨_, c.coherente_malla⟩ hg

/-- **Merge safety.**  When each `MAR1` is read in the block of the first receiver and sends at most one
`MAR2` from there, the blocks fit, and no message is wasted that somebody waits for, then the nodes of the
absorbed network have different addresses once no message is on its way. -/
theorem mezcla_segura (c : RedAbsorbida) (es : List Reparto)
    (hg : ∀ t ∈ steps Malla.step c.malla es, c.guarda t.1 t.2.1) :
    ∀ w ∈ states Malla.step c.malla es, RedAbsorbida.Segura w := by
  intro w hw
  obtain ⟨own, h⟩ := c.coherente_of_states hg w hw
  exact h.segura

/-! ## The square -/

/-- The root of network 0, alone, invites the node at the place `i` of the square. -/
def RedAbsorbida.delCuadrado (i : Fin cuadrado.length) : RedAbsorbida where
  red := cuadrado
  unida := redUnida_cuadrado
  tablas := tablas_cuadrado
  recibe := i
  iniciador := Lugar.nodo ⟨root, 0, 0, 0⟩ .zero []
  env := .zero
  otra := by
    intro n hn
    revert n
    decide +kernel

/-- The first child of the root is invited, and every message is read or lost in the end. -/
theorem mezcla_segura_hija :
    ∃ es, ∃ w ∈ states Malla.step (RedAbsorbida.delCuadrado ⟨1, by decide⟩).malla es, w.enVuelo = []
      ∧ (∀ n ∈ w.nodos, n.redNumero = 0) ∧ RedAbsorbida.Segura w := by
  let c : RedAbsorbida := .delCuadrado ⟨1, by decide⟩
  let es : List Reparto := [.entrega 1 0 .zero, .perdida 2, .entrega 0 0 .zero, .entrega 3 0 .zero,
    .entrega 2 0 .zero, .entrega 1 0 .zero, .entrega 0 1 .zero, .entrega 1 0 .zero]
  obtain ⟨w, hw, hvacio, hred⟩ : ∃ w ∈ states Malla.step c.malla es, w.enVuelo = []
      ∧ ∀ n ∈ w.nodos, n.redNumero = 0 := by decide +kernel
  refine ⟨es, w, hw, hvacio, hred, mezcla_segura c es ?_ w hw⟩
  decide +kernel

/-- The second child of the root is invited.  It takes the slot of the initiator, and so does its
neighbour in the other branch, which drops the same bit of another prefix. -/
theorem two_children_one_slot :
    ¬ ∀ (c : RedAbsorbida) (es : List Reparto), ∀ w ∈ states Malla.step c.malla es,
      RedAbsorbida.Segura w := by
  intro h
  let c : RedAbsorbida := .delCuadrado ⟨2, by decide⟩
  let es : List Reparto := [.entrega 2 0 .zero, .perdida 2, .entrega 0 0 .zero, .entrega 3 0 .zero,
    .entrega 1 0 .zero, .entrega 2 0 .zero, .perdida 0, .perdida 0, .entrega 0 0 .zero]
  obtain ⟨w, hw, hvacio, n, hn, m, hm, heq⟩ : ∃ w ∈ states Malla.step c.malla es, w.enVuelo = []
      ∧ ∃ n ∈ w.nodos[2]?, ∃ m ∈ w.nodos[3]?, n.primAddr = m.primAddr := by decide +kernel
  exact absurd (h c es w hw hvacio 2 3 n m hn hm heq) (by decide)

end Antop
