import Antop.MergeBlocks

/-!
# A network that is absorbed

A node of a joined network receives a `MAR1` from the initiator of another network, and the merge runs
through its network.  The block of the first receiver moves under the initiator as it is; whoever is
told so by a `MAR2` gets a slot under the node that tells it, and nothing of its old address is left.

* `RedAbsorbida` — the network, the first receiver and the initiator.
* `RedAbsorbida.Segura` — when no message is on its way the nodes have different addresses.
* `RedAbsorbida.guarda` — what a step must meet: a `MAR1` renumbers a node of the first receiver's block
  and makes it send at most one `MAR2`, the blocks fit, and no message is wasted that somebody waits for.
* `RedAbsorbida.Coherente` — what holds along a merge; it implies `Segura` (`Coherente.segura`).
* `Coherente.quita`, `Coherente.asienta`, `Coherente.renumera` — it is kept when a message goes, when a
  node that waits takes its address, and when a node is renumbered.
-/

namespace Antop

open PrefixBlock Transition
open Node (antopProcessPkt)

/-! ## The network -/

/-- A network grown by joins, a node of it, and the initiator whose `MAR1` this node receives. -/
structure RedAbsorbida where
  red : List Node
  unida : RedUnida 64 red
  tablas : TablasExactas red
  recibe : Fin red.length
  iniciador : Node
  env : Env
  otra : ∀ n ∈ red, n.redNumero ≠ iniciador.redNumero

namespace RedAbsorbida

/-- The node that receives the first `MAR1`. -/
def receptor (c : RedAbsorbida) : Node := c.red[c.recibe]

/-- The number of the network of the initiator. -/
def numero (c : RedAbsorbida) : UChar := c.iniciador.redNumero

/-- The mask of the slot the initiator offers. -/
def mascara (c : RedAbsorbida) : UChar := c.iniciador.maskAProponer.1

/-- The `MAR1` has been sent. -/
def malla (c : RedAbsorbida) : Malla where
  nodos := c.red
  enVuelo := (c.iniciador.vaciar.mezcla c.env c.receptor.primAddr).out.map fun m =>
    (c.receptor.primAddr, m.2)
  leidos := []

/-- **Merge safety**: when no message is on its way the nodes have different addresses. -/
def Segura (w : Malla) : Prop :=
  w.enVuelo = [] → ∀ (i j : ℕ) (n m : Node), w.nodos[i]? = some n → w.nodos[j]? = some m →
    n.primAddr = m.primAddr → i = j

/-! ## The guard -/

/-- An answer to the node with the address `d` is still to come. -/
def Aguarda (enVuelo : List (In6Addr × CtrlPkt)) (d : In6Addr) : Prop :=
  ∃ m ∈ enVuelo, esMar m.2 ∧ m.2.primAddr = d ∨ esMan m.2 ∧ m.1 = d

instance (enVuelo : List (In6Addr × CtrlPkt)) (d : In6Addr) : Decidable (Aguarda enVuelo d) := by
  unfold Aguarda
  infer_instance

/-- The message `k` changes nothing if it goes: whoever waits has another answer to wait for, and if it
is a `MAR` nobody it could renumber has its address. -/
def sobra (c : RedAbsorbida) (w : Malla) (k : ℕ) : Prop :=
  (∀ n ∈ w.nodos, n.flagMezcla = true → Aguarda (w.enVuelo.eraseIdx k) n.primAddr)
    ∧ ∀ m ∈ w.enVuelo[k]?, esMar m.2 → ∀ n ∈ w.nodos, n.primAddr = m.1 → n.redNumero = c.numero

/-- The first bits of the node are those of the first receiver's block, and there is room for its block
behind the slot of the initiator, whose address is free from there on. -/
def enBloque (c : RedAbsorbida) (n : Node) : Prop :=
  checkAddrSpace n.primAddr c.receptor.primAddr c.receptor.primMaskInicial = 0
    ∧ n.primMask.toNat ≤ 63
    ∧ n.primMask.toNat + c.mascara.toNat + 1 ≤ 63 + c.receptor.primMaskInicial.toNat
    ∧ ∀ p < 63, c.mascara.toNat < p → c.iniciador.primAddr.hostBit p = false

instance (c : RedAbsorbida) (n : Node) : Decidable (c.enBloque n) := by
  unfold enBloque
  infer_instance

/-- A `MAR` finds room: a `MAR1` in the block of the first receiver, for at most one `MAR2` more, and a
`MAR2` at a node whose address is not that of an initiator. -/
def cabe (c : RedAbsorbida) (n : Node) (msg : CtrlPkt) : Prop :=
  if msg.pktTypeF = .mar1 then
    c.enBloque n ∧ n.mar2sDeMar1 msg ≤ 1
      ∧ n.primMask.toNat + c.mascara.toNat + 1 + n.mar2sDeMar1 msg
        ≤ 63 + c.receptor.primMaskInicial.toNat
  else n.primAddr ≠ dirDefault ∧ msg.adAddr.mask.toNat + n.mar2sDeMar2 msg ≤ 63

/-- The guard of a step. -/
def guarda (c : RedAbsorbida) (w : Malla) : Reparto → Prop
  | .entrega i k _ => ∀ n ∈ w.nodos[i]?, ∀ m ∈ w.enVuelo[k]?,
      if esMar m.2 ∧ n.redNumero ≠ c.numero then c.cabe n m.2
      else esMan m.2 ∧ n.flagMezcla = true ∨ c.sobra w k
  | .perdida k => c.sobra w k

instance (c : RedAbsorbida) (w : Malla) (k : ℕ) : Decidable (c.sobra w k) := by
  unfold sobra
  infer_instance

instance (c : RedAbsorbida) (n : Node) (msg : CtrlPkt) : Decidable (c.cabe n msg) := by
  unfold cabe
  infer_instance

instance (c : RedAbsorbida) (w : Malla) : ∀ e : Reparto, Decidable (c.guarda w e)
  | .entrega i k _ => inferInstanceAs (Decidable (∀ n ∈ w.nodos[i]?, ∀ m ∈ w.enVuelo[k]?,
      if esMar m.2 ∧ n.redNumero ≠ c.numero then c.cabe n m.2
      else esMan m.2 ∧ n.flagMezcla = true ∨ c.sobra w k))
  | .perdida k => inferInstanceAs (Decidable (c.sobra w k))

/-! ## What holds along a merge -/

/-- The address a `MAR1` gives for `a`. -/
def nuevaMar1 (c : RedAbsorbida) (a : In6Addr) : In6Addr :=
  shiftMezcla 64 c.iniciador.primAddr a c.mascara.toNat c.receptor.primMaskInicial.toNat

/-- The block a `MAR1` gives to a node. -/
def imagen (c : RedAbsorbida) (n : Node) : Block :=
  block (c.nuevaMar1 n.primAddr)
    (n.primMask.toNat + c.mascara.toNat + 1 - c.receptor.primMaskInicial.toNat)

/-- The node `i` has been renumbered. -/
def Renumerado (c : RedAbsorbida) (w : Malla) (i : ℕ) : Prop :=
  ∃ n, w.nodos[i]? = some n ∧ n.redNumero = c.numero

/-- The node that had the address `d` has been renumbered under `a`, and has the property `P` while it
waits. -/
def Emisor (c : RedAbsorbida) (w : Malla) (own : ℕ → Option Block) (P : Node → Prop)
    (d a : In6Addr) : Prop :=
  ∃ (i : ℕ) (n₀ n : Node) (m : ℕ), c.red[i]? = some n₀ ∧ n₀.primAddr = d ∧ w.nodos[i]? = some n ∧ n.redNumero = c.numero
    ∧ own i = some (block a m) ∧ (n.flagMezcla = true → P n)

/-- The mask that `process_mar1` remembers. -/
def PorMar1 (c : RedAbsorbida) (n : Node) : Prop := n.primMaskMezcla = c.receptor.primMaskInicial

/-- What the messages are. -/
structure Mensaje (c : RedAbsorbida) (w : Malla) (own : ℕ → Option Block)
    (m : In6Addr × CtrlPkt) : Prop where
  tipo : esMar m.2 ∨ esMan m.2
  numero : m.2.adAddr.redNumero = c.numero
  destino : esMar m.2 → m.2.adAddr.addr = m.1
  mar1 : m.2.pktTypeF = .mar1 →
    (m.2.srcAddr = c.iniciador.primAddr ∧ m.2.adAddr.mask = c.mascara)
    ∧ (m.2.primAddr = dirDefault ∧ m.1 = c.receptor.primAddr
      ∨ (m.2.primAddr ≠ dirDefault ∧ m.2.adAddr.tLenght = c.receptor.primMaskInicial)
        ∧ c.Emisor w own c.PorMar1 m.2.primAddr (c.nuevaMar1 m.2.primAddr))
  mar2 : m.2.pktTypeF = .mar2 → c.Emisor w own (fun _ => True) m.2.primAddr m.2.srcAddr
    ∧ ∃ k < 63, m.2.adAddr.mask.toNat = k + 1 ∧ Vacia m.2.srcAddr k
  man1 : m.2.pktTypeF = .man1 → (m.2.srcAddr = c.iniciador.primAddr ∧ m.2.adAddr.mask = c.mascara)
    ∧ (m.1 = dirDefault ∨ c.Emisor w own c.PorMar1 m.1 (c.nuevaMar1 m.1))
  man2 : m.2.pktTypeF = .man2 → c.Emisor w own (fun _ => True) m.1 m.2.srcAddr

/-- A renumbered node, at the place of `n₀`: it has its new address, or waits for it. -/
structure Movido (w : Malla) (own : ℕ → Option Block) (i : ℕ) (n₀ n : Node) : Prop where
  marco : n.hcDim = 64 ∧ n.secAddr = .zero ∧ n.secAddrFlag = false
  bloque : ∃ a, own i = some (block a n.primMask.toNat) ∧ a.hostBit 63 = true
    ∧ (n.flagMezcla = false → n.primAddr = a)
  espera : n.flagMezcla = true →
    n.primAddr = n₀.primAddr ∧ n₀.primAddr ≠ dirDefault ∧ Aguarda w.enVuelo n₀.primAddr

/-- **The invariant**: `own` are the blocks in hand, which the nodes of the first receiver's block have
from the beginning; they are apart, as are those on offer.  A node that has not been renumbered is as it
was, and one that has been has sent a `MAR` to each of its neighbours. -/
structure Coherente (c : RedAbsorbida) (w : Malla) (own : ℕ → Option Block) : Prop where
  bloques : Ofrecidos own ((w.enVuelo.filterMap oferta).map bloqueOfrecido)
  largo : w.nodos.length = c.red.length
  nodo : ∀ (i : ℕ) (n : Node), w.nodos[i]? = some n → ∃ n₀, c.red[i]? = some n₀
    ∧ (n.redNumero ≠ c.numero → n.vaciar = n₀.vaciar ∧ (c.enBloque n₀ → own i = some (c.imagen n₀)))
    ∧ (n.redNumero = c.numero → Movido w own i n₀ n)
  mensaje : ∀ m ∈ w.enVuelo, c.Mensaje w own m
  primero : ¬ c.Renumerado w c.recibe → (∀ i, ¬ c.Renumerado w i) ∧ w.enVuelo ≠ []
    ∧ ∀ m ∈ w.enVuelo, m.2.pktTypeF = .mar1 ∧ m.2.primAddr = dirDefault
  cubre : ∀ (i j : ℕ) (n₀ m₀ : Node), c.Renumerado w i → c.red[i]? = some n₀ → c.red[j]? = some m₀ →
    (i = c.recibe ∨ n₀.primMask ≠ n₀.primMaskInicial) → dist n₀.primAddr m₀.primAddr = 1 →
    c.Renumerado w j ∨ ∃ m ∈ w.enVuelo, esMar m.2 ∧ m.1 = m₀.primAddr

variable {c : RedAbsorbida} {w w' : Malla} {own own' : ℕ → Option Block} {m : In6Addr × CtrlPkt}

/-! ## The block of the first receiver -/

section Bloque

variable {i j : ℕ} {n₀ m₀ : Node}

lemma red_recibe (c : RedAbsorbida) : c.red[(c.recibe : ℕ)]? = some c.receptor :=
  List.getElem?_eq_getElem c.recibe.2

/-- The nodes of the block fix at least its bits. -/
lemma enBloque.mask_le (hb : c.enBloque n₀) (hn₀ : c.red[i]? = some n₀) :
    c.receptor.primMaskInicial.toNat ≤ n₀.primMask.toNat := by
  by_cases hi : i = c.recibe
  · subst hi
    obtain rfl := Option.some.inj (hn₀.symm.trans c.red_recibe)
    exact (c.unida.ordenado hn₀).tope.1
  · obtain ⟨p, hp, -, hne⟩ := c.unida.apart hn₀ c.red_recibe hi
    by_contra hlt
    -- the bits in front of the mask are those of the first receiver
    have hmem := (checkAddrSpace_eq_zero_iff_mem _ _ _).mp hb.1
    exact hne (hmem p (hp.trans (Nat.lt_of_not_le hlt)))

lemma enBloque.vacia (hb : c.enBloque n₀) (hn₀ : c.red[i]? = some n₀) :
    Vacia n₀.primAddr n₀.primMask.toNat :=
  (c.unida.ordenado hn₀).vacia ((c.unida.ordenado hn₀).tope.1.trans hb.2.1)

lemma enBloque.ne_dirDefault (hb : c.enBloque n₀) (hn₀ : c.red[i]? = some n₀) :
    n₀.primAddr ≠ dirDefault := by
  intro hc
  have hultimo := (hb.vacia hn₀).ultimo
  rw [hc] at hultimo
  exact absurd hultimo (by decide)

/-- Slots can be given under the new address. -/
lemma enBloque.vacia_nueva (hb : c.enBloque n₀) (hn₀ : c.red[i]? = some n₀) :
    Vacia (c.nuevaMar1 n₀.primAddr)
      (n₀.primMask.toNat + c.mascara.toNat + 1 - c.receptor.primMaskInicial.toNat) :=
  shiftMezcla_vacia (hb.vacia hn₀) (hb.mask_le hn₀) hb.2.2.1 fun p hp h63 => hb.2.2.2 p h63 hp

/-- **The block moves as it is.** -/
lemma enBloque.apart (hb : c.enBloque n₀) (hb' : c.enBloque m₀) (hn₀ : c.red[i]? = some n₀)
    (hm₀ : c.red[j]? = some m₀) (hij : i ≠ j) : Apart (c.imagen n₀) (c.imagen m₀) := by
  refine shiftMezcla_apart (c.unida.apart hn₀ hm₀ hij) ?_ hb'.2.2.1 hb.2.1
    fun p hp h63 => hb.2.2.2 p h63 hp
  intro p hp
  have hn := (checkAddrSpace_eq_zero_iff_mem _ _ _).mp hb.1
  have hm := (checkAddrSpace_eq_zero_iff_mem _ _ _).mp hb'.1
  exact (hn p hp).trans (hm p hp).symm

/-- The blocks before the first message is read. -/
def propios (c : RedAbsorbida) (i : ℕ) : Option Block :=
  (c.red[i]?).bind fun n₀ => if c.enBloque n₀ then some (c.imagen n₀) else none

lemma propios_eq_some {b : Block} (h : c.propios i = some b) :
    ∃ n₀, c.red[i]? = some n₀ ∧ c.enBloque n₀ ∧ b = c.imagen n₀ := by
  obtain ⟨n₀, hn₀, h⟩ := Option.bind_eq_some_iff.mp h
  split_ifs at h with hb
  exact ⟨n₀, hn₀, hb, (Option.some.inj h).symm⟩

/-- The first message. -/
lemma enVuelo_malla (c : RedAbsorbida) : ∃ msg, c.malla.enVuelo = [(c.receptor.primAddr, msg)]
    ∧ msg.pktTypeF = .mar1 ∧ msg.primAddr = dirDefault ∧ msg.srcAddr = c.iniciador.primAddr
    ∧ msg.adAddr.addr = c.receptor.primAddr ∧ msg.adAddr.mask = c.mascara
    ∧ msg.adAddr.redNumero = c.numero :=
  ⟨_, rfl, rfl, rfl, rfl, rfl, rfl, rfl⟩

/-- **Before the merge** nobody has been renumbered. -/
lemma coherente_malla (c : RedAbsorbida) : c.Coherente c.malla c.propios := by
  obtain ⟨msg, henv, ht, hdef, hsrc, haddr, hmask, hnum⟩ := c.enVuelo_malla
  have hnadie (i : ℕ) : ¬ c.Renumerado c.malla i := by
    rintro ⟨n, hn, hred⟩
    exact c.otra n (List.mem_of_getElem? hn) hred
  refine ⟨?_, rfl, ?_, ?_, fun _ => ⟨hnadie, ?_, ?_⟩, fun i j n₀ m₀ hi => absurd hi (hnadie i)⟩
  · have hno : oferta (c.receptor.primAddr, msg) = none := if_neg (by rw [ht]; decide)
    rw [henv, List.filterMap_cons_none hno]
    refine ⟨?_, List.Pairwise.nil, fun i b b' _ hb' => absurd hb' List.not_mem_nil⟩
    intro i j b b' hi hj hij
    obtain ⟨n₀, hn₀, hb, rfl⟩ := propios_eq_some hi
    obtain ⟨m₀, hm₀, hb', rfl⟩ := propios_eq_some hj
    exact hb.apart hb' hn₀ hm₀ hij
  · intro i n hn
    have hn : c.red[i]? = some n := hn
    have hred : n.redNumero ≠ c.numero := c.otra n (List.mem_of_getElem? hn)
    refine ⟨n, hn, fun _ => ⟨rfl, fun hb => ?_⟩, fun hc => absurd hc hred⟩
    rw [propios, hn, Option.bind_some, if_pos hb]
  · intro m hm
    rw [henv] at hm
    obtain rfl := List.mem_singleton.mp hm
    refine ⟨Or.inl (Or.inl ht), hnum, fun _ => haddr, fun _ => ⟨⟨hsrc, hmask⟩, Or.inl ⟨hdef, rfl⟩⟩,
      ?_, ?_, ?_⟩
    · exact fun hc => absurd (ht.symm.trans hc) (by decide)
    · exact fun hc => absurd (ht.symm.trans hc) (by decide)
    · exact fun hc => absurd (ht.symm.trans hc) (by decide)
  · rw [henv]
    exact List.cons_ne_nil _ _
  · intro m hm
    rw [henv] at hm
    obtain rfl := List.mem_singleton.mp hm
    exact ⟨ht, hdef⟩

end Bloque

/-! ## What stays true -/

/-- A message stays on its way unless it is the one that goes. -/
lemma mem_eraseIdx_of_ne {l : List (In6Addr × CtrlPkt)} {k : ℕ} {x : In6Addr × CtrlPkt} (hx : x ∈ l)
    (hk : l[k]? = some m) (hne : x ≠ m) : x ∈ l.eraseIdx k := by
  obtain ⟨j, hj⟩ := List.mem_iff_getElem?.mp hx
  refine List.mem_eraseIdx_iff_getElem?.mpr ⟨j, ?_, hj⟩
  rintro rfl
  exact hne (Option.some.inj (hj.symm.trans hk))

/-- So does what a node waits for. -/
lemma Aguarda.quita {l : List (In6Addr × CtrlPkt)} {k : ℕ} {d : In6Addr} (h : Aguarda l d)
    (hk : l[k]? = some m) (hno : ¬ (esMar m.2 ∧ m.2.primAddr = d ∨ esMan m.2 ∧ m.1 = d)) :
    Aguarda (l.eraseIdx k) d := by
  obtain ⟨x, hx, hd⟩ := h
  refine ⟨x, mem_eraseIdx_of_ne hx hk ?_, hd⟩
  rintro rfl
  exact hno hd

lemma Aguarda.mono {l l' : List (In6Addr × CtrlPkt)} {d : In6Addr} (h : Aguarda l d)
    (hl : ∀ x ∈ l, x ∈ l') : Aguarda l' d := by
  obtain ⟨x, hx, hd⟩ := h
  exact ⟨x, hl x hx, hd⟩

/-- No message is a `MAR` and an answer. -/
lemma not_esMan_of_esMar {p : CtrlPkt} (h : esMar p) : ¬ esMan p := by
  rintro (hman | hman)
  · rcases h with h | h <;> exact absurd (h.symm.trans hman) (by decide)
  · rcases h with h | h <;> exact absurd (h.symm.trans hman) (by decide)

/-- The renumbered nodes stay renumbered, with their blocks, and those that do not wait do not begin to. -/
def Sigue (c : RedAbsorbida) (w w' : Malla) (own own' : ℕ → Option Block) : Prop :=
  ∀ (i : ℕ) (n : Node), w.nodos[i]? = some n → n.redNumero = c.numero →
    ∃ n', w'.nodos[i]? = some n' ∧ n'.redNumero = c.numero ∧ own' i = own i
      ∧ (n'.flagMezcla = true → n.flagMezcla = true) ∧ n'.primMaskMezcla = n.primMaskMezcla

lemma Emisor.mono {P : Node → Prop} {d a : In6Addr} (hs : c.Sigue w w' own own')
    (hP : ∀ n n' : Node, n'.primMaskMezcla = n.primMaskMezcla → P n → P n')
    (h : c.Emisor w own P d a) : c.Emisor w' own' P d a := by
  obtain ⟨i, n₀, n, m, hn₀, hd, hn, hred, hown, hespera⟩ := h
  obtain ⟨n', hn', hred', hown', hflag, hmask⟩ := hs i n hn hred
  exact ⟨i, n₀, n', m, hn₀, hd, hn', hred', hown'.trans hown, fun h => hP n n' hmask (hespera (hflag h))⟩

lemma Emisor.mono_porMar1 {d a : In6Addr} (hs : c.Sigue w w' own own')
    (h : c.Emisor w own c.PorMar1 d a) : c.Emisor w' own' c.PorMar1 d a :=
  h.mono hs fun _ _ hmask hP => hmask.trans hP

lemma Emisor.mono_siempre {d a : In6Addr} (hs : c.Sigue w w' own own')
    (h : c.Emisor w own (fun _ => True) d a) : c.Emisor w' own' (fun _ => True) d a :=
  h.mono hs fun _ _ _ _ => trivial

/-- **The messages** stay what they are. -/
lemma Mensaje.mono (hs : c.Sigue w w' own own') (h : c.Mensaje w own m) : c.Mensaje w' own' m where
  tipo := h.tipo
  numero := h.numero
  destino := h.destino
  mar1 ht := (h.mar1 ht).imp_right (Or.imp_right (And.imp_right (Emisor.mono_porMar1 hs)))
  mar2 ht := (h.mar2 ht).imp_left (Emisor.mono_siempre hs)
  man1 ht := (h.man1 ht).imp_right (Or.imp_right (Emisor.mono_porMar1 hs))
  man2 ht := Emisor.mono_siempre hs (h.man2 ht)

/-! ## A message goes -/

/-- Nodes that differ in what they have sent agree in everything else. -/
lemma campo_of_vaciar {α : Type} {n n' : Node} (h : n.vaciar = n'.vaciar) (f : Node → α)
    (hf : ∀ u, f u.vaciar = f u) : f n = f n' :=
  (hf n).symm.trans ((congrArg f h).trans (hf n'))

/-- The nodes of `w'` are those of `w`, whatever they have sent. -/
def Iguales (w w' : Malla) : Prop := w'.nodos.map Node.vaciar = w.nodos.map Node.vaciar

lemma Iguales.symm (h : Iguales w w') : Iguales w' w := Eq.symm h

lemma Iguales.nodo (h : Iguales w w') {i : ℕ} {n : Node} (hn : w'.nodos[i]? = some n) :
    ∃ n₁, w.nodos[i]? = some n₁ ∧ n.vaciar = n₁.vaciar := by
  have hi := congrArg (fun l => l[i]?) h
  simp only [List.getElem?_map, hn, Option.map_some] at hi
  obtain ⟨n₁, hn₁, heq⟩ := Option.map_eq_some_iff.mp hi.symm
  exact ⟨n₁, hn₁, heq.symm⟩

/-- A node that only takes a message off. -/
lemma iguales_leer {i k : ℕ} {n : Node} (hn : w.nodos[i]? = some n) (msg : CtrlPkt) :
    Iguales w (w.leer i k msg n.vaciar) := by
  obtain ⟨hlt, rfl⟩ := List.getElem?_eq_some_iff.mp hn
  unfold Iguales Malla.leer
  rw [List.map_set]
  refine List.ext_getElem (by simp) fun j hj hj' => ?_
  rw [List.getElem_set]
  split_ifs with hij
  · subst hij
    rw [List.getElem_map]
    rfl
  · rfl

lemma Iguales.sigue (h : Iguales w w') : c.Sigue w w' own own := by
  intro i n hn hred
  obtain ⟨n', hn', heq⟩ := h.symm.nodo hn
  have hflag : n.flagMezcla = n'.flagMezcla := campo_of_vaciar heq Node.flagMezcla fun _ => rfl
  have hnum : n.redNumero = n'.redNumero := campo_of_vaciar heq Node.redNumero fun _ => rfl
  exact ⟨n', hn', hnum ▸ hred, rfl, fun hf => hflag.trans hf, (campo_of_vaciar heq Node.primMaskMezcla fun _ => rfl).symm⟩

lemma Iguales.renumerado (h : Iguales w w') {i : ℕ} : c.Renumerado w' i ↔ c.Renumerado w i := by
  constructor
  · rintro ⟨n, hn, hred⟩
    obtain ⟨n₁, hn₁, heq⟩ := h.nodo hn
    exact ⟨n₁, hn₁, (campo_of_vaciar heq Node.redNumero fun _ => rfl).symm.trans hred⟩
  · rintro ⟨n, hn, hred⟩
    obtain ⟨n₁, hn₁, heq⟩ := h.symm.nodo hn
    exact ⟨n₁, hn₁, (campo_of_vaciar heq Node.redNumero fun _ => rfl).symm.trans hred⟩

/-- A node that has not been renumbered has its old address. -/
lemma Coherente.exists_viejo (h : c.Coherente w own) {j : ℕ} {m₀ : Node} (hm₀ : c.red[j]? = some m₀)
    (hno : ¬ c.Renumerado w j) :
    ∃ n, w.nodos[j]? = some n ∧ n.redNumero ≠ c.numero ∧ n.vaciar = m₀.vaciar := by
  have hlt : j < w.nodos.length := by
    rw [h.largo]
    exact (List.getElem?_eq_some_iff.mp hm₀).1
  have hn : w.nodos[j]? = some w.nodos[j] := List.getElem?_eq_getElem hlt
  have hred : w.nodos[j].redNumero ≠ c.numero := fun hc => hno ⟨_, hn, hc⟩
  obtain ⟨n₀, hn₀, hviejo, -⟩ := h.nodo j _ hn
  obtain rfl := Option.some.inj (hn₀.symm.trans hm₀)
  exact ⟨_, hn, hred, (hviejo hred).1⟩

/-- The offers that are left when a message goes. -/
lemma Coherente.bloques_quita (h : c.Coherente w own) (k : ℕ) :
    Ofrecidos own (((w.enVuelo.eraseIdx k).filterMap oferta).map bloqueOfrecido) :=
  h.bloques.sublist (((List.eraseIdx_sublist _ k).filterMap _).map _)

/-- **A message goes** that nobody needs. -/
lemma Coherente.quita {k : ℕ} (h : c.Coherente w own) (hi : Iguales w w')
    (henv : w'.enVuelo = w.enVuelo.eraseIdx k) (hk : w.enVuelo[k]? = some m) (hs : c.sobra w k) :
    c.Coherente w' own where
  bloques := henv ▸ h.bloques_quita k
  largo := by
    have hlen := congrArg List.length hi
    rw [List.length_map, List.length_map] at hlen
    exact hlen.trans h.largo
  nodo i n hn := by
    obtain ⟨n₁, hn₁, heq⟩ := hi.nodo hn
    have hnum : n.redNumero = n₁.redNumero := campo_of_vaciar heq Node.redNumero fun _ => rfl
    obtain ⟨n₀, hn₀, hviejo, hnuevo⟩ := h.nodo i n₁ hn₁
    refine ⟨n₀, hn₀, fun hno => ?_, fun hred => ?_⟩
    · obtain ⟨hvac, hown⟩ := hviejo (hnum ▸ hno)
      exact ⟨heq.trans hvac, hown⟩
    · obtain ⟨⟨hdim, hsec, hsecf⟩, ⟨a, hown, h63, ha⟩, hespera⟩ := hnuevo (hnum ▸ hred)
      have hmask : n.primMask = n₁.primMask := campo_of_vaciar heq Node.primMask fun _ => rfl
      have hflag : n.flagMezcla = n₁.flagMezcla := campo_of_vaciar heq Node.flagMezcla fun _ => rfl
      have hprim : n.primAddr = n₁.primAddr := campo_of_vaciar heq Node.primAddr fun _ => rfl
      refine ⟨⟨?_, ?_, ?_⟩, ⟨a, hmask ▸ hown, h63, fun hf => hprim.trans (ha (hflag ▸ hf))⟩, fun hf => ?_⟩
      · exact (campo_of_vaciar heq Node.hcDim fun _ => rfl).trans hdim
      · exact (campo_of_vaciar heq Node.secAddr fun _ => rfl).trans hsec
      · exact (campo_of_vaciar heq Node.secAddrFlag fun _ => rfl).trans hsecf
      · obtain ⟨hviejo, hdef, -⟩ := hespera (hflag ▸ hf)
        refine ⟨hprim.trans hviejo, hdef, ?_⟩
        rw [henv, ← hviejo]
        exact hs.1 n₁ (List.mem_of_getElem? hn₁) (hflag ▸ hf)
  mensaje x hx := by
    rw [henv] at hx
    exact (h.mensaje x (List.mem_of_mem_eraseIdx hx)).mono hi.sigue
  primero hno := by
    -- the first `MAR1` still has its reader
    exfalso
    rw [hi.renumerado] at hno
    obtain ⟨-, -, hmar⟩ := h.primero hno
    obtain ⟨ht, hdef⟩ := hmar m (List.mem_of_getElem? hk)
    obtain ⟨n, hn, hred, heq⟩ := h.exists_viejo (List.getElem?_eq_getElem c.recibe.2) hno
    have hdst : m.1 = c.receptor.primAddr := by
      rcases ((h.mensaje m (List.mem_of_getElem? hk)).mar1 ht).2 with ⟨-, hdst⟩ | ⟨⟨hne, -⟩, -⟩
      · exact hdst
      · exact absurd hdef hne
    have hprim : n.primAddr = m.1 := (campo_of_vaciar heq Node.primAddr fun _ => rfl).trans hdst.symm
    exact hred (hs.2 m hk (Or.inl ht) n (List.mem_of_getElem? hn) hprim)
  cubre i j n₀ m₀ hi' hn₀ hm₀ hpuede hdist := by
    rw [hi.renumerado] at hi' ⊢
    by_cases hj : c.Renumerado w j
    · exact Or.inl hj
    · obtain ⟨x, hx, hmar, hdst⟩ := (h.cubre i j n₀ m₀ hi' hn₀ hm₀ hpuede hdist).resolve_left hj
      refine Or.inr ⟨x, ?_, hmar, hdst⟩
      rw [henv]
      refine mem_eraseIdx_of_ne hx hk ?_
      rintro rfl
      obtain ⟨n, hn, hred, heq⟩ := h.exists_viejo hm₀ hj
      have hprim : n.primAddr = x.1 := (campo_of_vaciar heq Node.primAddr fun _ => rfl).trans hdst.symm
      exact hred (hs.2 x hk hmar n (List.mem_of_getElem? hn) hprim)

/-! ## A message is read -/

section Leer

variable {i k : ℕ} {msg : CtrlPkt} {n n' n₀ : Node}

/-- The reader is renumbered now, and nothing changes for those that were before. -/
lemma sigue_leer (hn : w.nodos[i]? = some n) (hred : n'.redNumero = c.numero)
    (hotros : ∀ j ≠ i, own' j = own j)
    (hi : n.redNumero = c.numero → own' i = own i ∧ (n'.flagMezcla = true → n.flagMezcla = true)
      ∧ n'.primMaskMezcla = n.primMaskMezcla) :
    c.Sigue w (w.leer i k msg n') own own' := by
  intro j u hu hured
  by_cases hij : i = j
  · subst hij
    obtain rfl := Option.some.inj (hn.symm.trans hu)
    obtain ⟨hown, hflag, hmask⟩ := hi hured
    refine ⟨n', ?_, hred, hown, hflag, hmask⟩
    exact List.getElem?_set_self (List.getElem?_eq_some_iff.mp hn).1
  · refine ⟨u, ?_, hured, hotros j (Ne.symm hij), id, rfl⟩
    exact (List.getElem?_set_ne hij).trans hu

lemma Sigue.renumerado (hs : c.Sigue w w' own own') {j : ℕ} (h : c.Renumerado w j) :
    c.Renumerado w' j := by
  obtain ⟨u, hu, hred⟩ := h
  obtain ⟨u', hu', hred', -⟩ := hs j u hu hred
  exact ⟨u', hu', hred'⟩

lemma renumerado_leer (hn : w.nodos[i]? = some n) (hred : n'.redNumero = c.numero) :
    c.Renumerado (w.leer i k msg n') i :=
  ⟨n', List.getElem?_set_self (List.getElem?_eq_some_iff.mp hn).1, hred⟩

lemma Renumerado.leer {j : ℕ} (h : c.Renumerado w j) (hn : w.nodos[i]? = some n)
    (hred : n'.redNumero = c.numero) : c.Renumerado (w.leer i k msg n') j := by
  obtain ⟨u, hu, hured⟩ := h
  by_cases hij : i = j
  · exact hij ▸ renumerado_leer hn hred
  · exact ⟨u, (List.getElem?_set_ne hij).trans hu, hured⟩

/-- The messages that were on their way are, but for the one that has been read. -/
lemma mem_leer {x : In6Addr × CtrlPkt} (hx : x ∈ w.enVuelo) (hk : w.enVuelo[k]? = some m)
    (hne : x ≠ m) : x ∈ (w.leer i k msg n').enVuelo :=
  List.mem_append_left _ (mem_eraseIdx_of_ne hx hk hne)

/-- **A message is read**, and its reader is renumbered then. -/
lemma Coherente.leer (h : c.Coherente w own) (hn : w.nodos[i]? = some n) (hk : w.enVuelo[k]? = some m)
    (hn₀ : c.red[i]? = some n₀) (hs : c.Sigue w (w.leer i k msg n') own own')
    (hotros : ∀ j ≠ i, own' j = own j) (hrecibe : c.Renumerado (w.leer i k msg n') c.recibe)
    (hbloques : Ofrecidos own' (((w.leer i k msg n').enVuelo.filterMap oferta).map bloqueOfrecido))
    (hred : n'.redNumero = c.numero) (hmov : Movido (w.leer i k msg n') own' i n₀ n')
    (hmens : ∀ x ∈ n'.out, c.Mensaje (w.leer i k msg n') own' x)
    (hespera : ∀ (j : ℕ) (u₀ : Node), j ≠ i → c.red[j]? = some u₀ → Aguarda w.enVuelo u₀.primAddr →
      Aguarda (w.leer i k msg n').enVuelo u₀.primAddr)
    (hllega : esMar m.2 → ∀ (j : ℕ) (m₀ : Node), c.red[j]? = some m₀ → m.1 = m₀.primAddr → j = i)
    (hcubre : ¬ c.Renumerado w i → ∀ (j : ℕ) (m₀ : Node), c.red[j]? = some m₀ →
      (i = c.recibe ∨ n₀.primMask ≠ n₀.primMaskInicial) → dist n₀.primAddr m₀.primAddr = 1 →
      c.Renumerado (w.leer i k msg n') j ∨ ∃ x ∈ n'.out, esMar x.2 ∧ x.1 = m₀.primAddr) :
    c.Coherente (w.leer i k msg n') own' where
  bloques := hbloques
  largo := by
    rw [Malla.leer, List.length_set]
    exact h.largo
  nodo j u hu := by
    rcases Malla.getElem?_leer hu with ⟨rfl, rfl⟩ | ⟨hij, hu⟩
    · exact ⟨n₀, hn₀, fun hno => absurd hred hno, fun _ => hmov⟩
    · obtain ⟨u₀, hu₀, hviejo, hnuevo⟩ := h.nodo j u hu
      refine ⟨u₀, hu₀, fun hno => ?_, fun hured => ?_⟩
      · rw [hotros j (Ne.symm hij)]
        exact hviejo hno
      · obtain ⟨hmarco, hbloque, hesp⟩ := hnuevo hured
        refine ⟨hmarco, (hotros j (Ne.symm hij)).symm ▸ hbloque, fun hf => ?_⟩
        obtain ⟨hprim, hdef, ha⟩ := hesp hf
        exact ⟨hprim, hdef, hespera j u₀ (Ne.symm hij) hu₀ ha⟩
  mensaje x hx := by
    rcases Malla.mem_enVuelo_leer hx with hx | hx
    · exact (h.mensaje x hx).mono hs
    · exact hmens x hx
  primero hno := absurd hrecibe hno
  cubre i' j u₀ m₀ hi' hu₀ hm₀ hpuede hdist := by
    by_cases hantes : c.Renumerado w i'
    · rcases h.cubre i' j u₀ m₀ hantes hu₀ hm₀ hpuede hdist with hj | ⟨x, hx, hmar, hdst⟩
      · exact Or.inl (hs.renumerado hj)
      · by_cases hxm : x = m
        · -- the `MAR` has been read
          subst hxm
          obtain rfl := hllega hmar j m₀ hm₀ hdst
          exact Or.inl (renumerado_leer hn hred)
        · exact Or.inr ⟨x, mem_leer hx hk hxm, hmar, hdst⟩
    · obtain ⟨u, hu, hured⟩ := hi'
      rcases Malla.getElem?_leer hu with ⟨rfl, rfl⟩ | ⟨-, hu⟩
      · obtain rfl := Option.some.inj (hn₀.symm.trans hu₀)
        refine (hcubre hantes j m₀ hm₀ hpuede hdist).imp_right ?_
        rintro ⟨x, hx, hmar, hdst⟩
        exact ⟨x, List.mem_append_right _ hx, hmar, hdst⟩
      · exact absurd ⟨u, hu, hured⟩ hantes

/-- **A node that waits takes its address.** -/
lemma Coherente.asienta {nueva : In6Addr} {len : ℕ} (h : c.Coherente w own)
    (hn : w.nodos[i]? = some n) (hk : w.enVuelo[k]? = some m) (hman : esMan m.2)
    (hdst : m.1 = n.primAddr) (hred : n.redNumero = c.numero) (hesp : n.flagMezcla = true)
    (hown : own i = some (block nueva len)) (hs : Node.Asentada nueva n.vaciar n') :
    c.Coherente (w.leer i k msg n') own := by
  obtain ⟨n₀, hn₀, -, hnuevo⟩ := h.nodo i n hn
  obtain ⟨⟨hdim, hsec, hsecf⟩, ⟨a, ha, h63, -⟩, hespera⟩ := hnuevo hred
  obtain ⟨hprim, -, -⟩ := hespera hesp
  obtain ⟨⟨hdim', hsec', hsecf'⟩, hred', ⟨hmask', hmez'⟩, ⟨hflag', hprim'⟩, hout'⟩ := hs
  have hbloque : block nueva len = block a n.primMask.toNat := Option.some.inj (hown.symm.trans ha)
  have hlen : len = n.primMask.toNat := congrArg Block.len hbloque
  have hbase : nueva.hostBit = a.hostBit := congrArg Block.base hbloque
  have hnoMar : ¬ esMar m.2 := fun hmar => not_esMan_of_esMar hmar hman
  have hsig : c.Sigue w (w.leer i k msg n') own own :=
    sigue_leer hn (hred'.trans hred) (fun _ _ => rfl) fun _ => ⟨rfl, fun _ => hesp, hmez'⟩
  have hrecibe : c.Renumerado (w.leer i k msg n') c.recibe := by
    by_contra hno
    exact (h.primero fun hr => hno (hsig.renumerado hr)).1 i ⟨n, hn, hred⟩
  refine h.leer hn hk hn₀ hsig (fun _ _ => rfl) hrecibe ?_ (hred'.trans hred)
    ⟨⟨?_, ?_, ?_⟩, ⟨nueva, ?_, ?_, fun _ => hprim'⟩, ?_⟩ ?_ ?_ (fun hmar => absurd hmar hnoMar)
    (fun hno => absurd ⟨n, hn, hred⟩ hno)
  · rw [Malla.leer, hout', Node.vaciar, List.append_nil]
    exact h.bloques_quita k
  · exact hdim'.trans hdim
  · exact hsec'.trans hsec
  · exact hsecf'.trans hsecf
  · rw [hown, hlen, hmask']
    rfl
  · rw [hbase]
    exact h63
  · exact fun hf => absurd (hflag'.symm.trans hf) (by decide)
  · intro x hx
    rw [hout'] at hx
    exact absurd hx List.not_mem_nil
  · intro j u₀ hij hu₀ ha
    refine (ha.quita hk ?_).mono fun x hx => List.mem_append_left _ hx
    -- only the reader waits for this answer
    rintro (⟨hmar, -⟩ | ⟨-, hd⟩)
    · exact hnoMar hmar
    · exact hij (c.unida.eq_of_primAddr hu₀ hn₀ (hd.symm.trans (hdst.trans hprim)))

/-! ## A node is renumbered -/

/-- The node as `process_mar1` and `process_mar2` find it. -/
def enMezcla (n : Node) : Node := { n.vaciar with flagMezcla := true }

/-- A node that is not renumbered is joined as it was. -/
lemma unido_vaciar (hn₀ : c.red[i]? = some n₀) (hv : n.vaciar = n₀.vaciar) : n.vaciar.Unido 64 :=
  hv ▸ (c.unida.unido hn₀).vaciar

/-- **The reader of the first `MAR1`** is the first receiver. -/
lemma Coherente.recibe_of_primero (h : c.Coherente w own)
    (hk : w.enVuelo[k]? = some (n.primAddr, msg)) (hn₀ : c.red[i]? = some n₀)
    (hv : n.vaciar = n₀.vaciar) (hdef : msg.primAddr = dirDefault) (ht : msg.pktTypeF = .mar1) :
    i = c.recibe := by
  have hdst : n.primAddr = c.receptor.primAddr := by
    rcases ((h.mensaje _ (List.mem_of_getElem? hk)).mar1 ht).2 with ⟨-, hdst⟩ | ⟨⟨hne, -⟩, -⟩
    · exact hdst
    · exact absurd hdef hne
  have hprim : n₀.primAddr = n.primAddr := (campo_of_vaciar hv Node.primAddr fun _ => rfl).symm
  exact c.unida.eq_of_primAddr hn₀ (List.getElem?_eq_getElem c.recibe.2) (hprim.trans hdst)

/-- Before it nobody reads anything. -/
lemma Coherente.recibe_renumerado (h : c.Coherente w own)
    (hk : w.enVuelo[k]? = some (n.primAddr, msg)) (hn₀ : c.red[i]? = some n₀)
    (hv : n.vaciar = n₀.vaciar) (hs : c.Sigue w w' own own') (hi : c.Renumerado w' i) :
    c.Renumerado w' c.recibe := by
  by_cases hr : c.Renumerado w c.recibe
  · exact hs.renumerado hr
  · obtain ⟨ht, hdef⟩ := (h.primero hr).2.2 _ (List.mem_of_getElem? hk)
    rwa [← h.recibe_of_primero hk hn₀ hv hdef ht]

/-- The answer to a `MAR`. -/
lemma Mensaje.respuesta {d : In6Addr} {man : PktType} (h : c.Mensaje w own (d, msg))
    (hman : man = .man1 ∧ msg.pktTypeF = .mar1 ∨ man = .man2 ∧ msg.pktTypeF = .mar2)
    (hm : Node.EsRespuesta msg man m) : c.Mensaje w own m where
  tipo := Or.inr (hman.imp (fun hc => hm.tipo.trans hc.1) fun hc => hm.tipo.trans hc.1)
  numero := hm.numero.trans h.numero
  destino hmar := by
    rcases hman with ⟨rfl, -⟩ | ⟨rfl, -⟩
    · exact absurd (Or.inl hm.tipo) (not_esMan_of_esMar hmar)
    · exact absurd (Or.inr hm.tipo) (not_esMan_of_esMar hmar)
  mar1 ht := by
    rcases hman with ⟨rfl, -⟩ | ⟨rfl, -⟩ <;> exact absurd (hm.tipo.symm.trans ht) (by decide)
  mar2 ht := by
    rcases hman with ⟨rfl, -⟩ | ⟨rfl, -⟩ <;> exact absurd (hm.tipo.symm.trans ht) (by decide)
  man1 ht := by
    rcases hman with ⟨rfl, hmar⟩ | ⟨rfl, -⟩
    · obtain ⟨⟨hsrc, hmask⟩, hde⟩ := h.mar1 hmar
      refine ⟨⟨hm.origen.trans hsrc, (hm.mascara rfl).trans hmask⟩, ?_⟩
      rw [hm.destino]
      exact hde.imp And.left And.right
    · exact absurd (hm.tipo.symm.trans ht) (by decide)
  man2 ht := by
    rcases hman with ⟨rfl, -⟩ | ⟨rfl, hmar⟩
    · exact absurd (hm.tipo.symm.trans ht) (by decide)
    · rw [hm.destino, hm.origen]
      exact (h.mar2 hmar).1

/-- A `MAR1` that is passed on. -/
lemma Mensaje.pasado {d : In6Addr} {u : Node} (h : c.Mensaje w own (d, msg))
    (hmar : msg.pktTypeF = .mar1) (hcae : u.maskQueCae msg = c.receptor.primMaskInicial)
    (hdef : u.primAddr ≠ dirDefault) (hde : c.Emisor w own c.PorMar1 u.primAddr (c.nuevaMar1 u.primAddr))
    (hm : Node.EsMar1 msg u m) : c.Mensaje w own m where
  tipo := Or.inl (Or.inl hm.tipo)
  numero := hm.numero.trans h.numero
  destino _ := hm.destino
  mar1 _ := by
    obtain ⟨⟨hsrc, hmask⟩, -⟩ := h.mar1 hmar
    refine ⟨⟨hm.origen.trans hsrc, hm.mascara.trans hmask⟩, Or.inr ?_⟩
    rw [hm.emisor]
    exact ⟨⟨hdef, hm.caida.trans hcae⟩, hde⟩
  mar2 ht := absurd (hm.tipo.symm.trans ht) (by decide)
  man1 ht := absurd (hm.tipo.symm.trans ht) (by decide)
  man2 ht := absurd (hm.tipo.symm.trans ht) (by decide)

/-- A `MAR2`. -/
lemma Mensaje.ranura {nueva : In6Addr} {u : Node} (hnum : msg.adAddr.redNumero = c.numero)
    (hde : c.Emisor w own (fun _ => True) u.primAddr nueva)
    (hmask : ∃ v < 63, m.2.adAddr.mask.toNat = v + 1 ∧ Vacia nueva v)
    (hm : Node.EsMar2 msg nueva u m) : c.Mensaje w own m where
  tipo := Or.inl (Or.inr hm.tipo)
  numero := hm.numero.trans hnum
  destino _ := hm.destino
  mar1 ht := absurd (hm.tipo.symm.trans ht) (by decide)
  mar2 _ := by
    rw [hm.emisor, hm.origen]
    exact ⟨hde, hmask⟩
  man1 ht := absurd (hm.tipo.symm.trans ht) (by decide)
  man2 ht := absurd (hm.tipo.symm.trans ht) (by decide)

/-- The messages of a node that is renumbered. -/
lemma Mensaje.envia {man : PktType} {nueva d : In6Addr} {mask : UChar} {r : ℕ} {u : Node}
    (h : c.Mensaje w own (d, msg)) (hr : Node.Renumera msg man nueva mask r u n')
    (hman : man = .man1 ∧ msg.pktTypeF = .mar1 ∨ man = .man2 ∧ msg.pktTypeF = .mar2)
    (hmar1 : man = .man1 → c.Emisor w own c.PorMar1 u.primAddr (c.nuevaMar1 u.primAddr)
      ∧ u.maskQueCae msg = c.receptor.primMaskInicial)
    (hde : c.Emisor w own (fun _ => True) u.primAddr nueva) (hvacia : Vacia nueva mask.toNat)
    (hcabe : mask.toNat + r ≤ 63) (hdef : u.primAddr ≠ dirDefault) (hm : m ∈ n'.out) :
    c.Mensaje w own m := by
  rcases hr.envia m hm with hresp | ⟨hman₁, hpasado⟩ | hranura
  · exact h.respuesta hman hresp
  · obtain ⟨hpor, hcae⟩ := hmar1 hman₁
    have hmar : msg.pktTypeF = .mar1 := by
      rcases hman with ⟨-, ht⟩ | ⟨hc, -⟩
      · exact ht
      · exact absurd (hman₁.symm.trans hc) (by decide)
    exact h.pasado hmar hcae hdef hpor hpasado
  · refine Mensaje.ranura h.numero hde ?_ hranura
    obtain ⟨v, hv, hmask⟩ := hr.exists_ranura hm hranura.tipo
    refine ⟨mask.toNat + v, by omega, ?_, hvacia.mono (Nat.le_add_right _ _)⟩
    rw [hmask, BitVec.toNat_add, BitVec.toNat_ofNat]
    omega

/-- Whoever waits for the message that is read waits for the answer to it. -/
lemma Aguarda.renumera {man : PktType} {nueva d : In6Addr} {mask : UChar} {r : ℕ} {u : Node} {a : In6Addr}
    (h : Aguarda w.enVuelo a) (hk : w.enVuelo[k]? = some (d, msg))
    (hr : Node.Renumera msg man nueva mask r u n')
    (hman : man = .man1 ∧ msg.pktTypeF = .mar1 ∨ man = .man2 ∧ msg.pktTypeF = .mar2) :
    Aguarda (w.leer i k msg n').enVuelo a := by
  obtain ⟨x, hx, hd⟩ := h
  by_cases hxk : x = (d, msg)
  · subst hxk
    rcases hd with ⟨-, hd⟩ | ⟨hc, -⟩
    · obtain ⟨y, hy, hresp⟩ := hr.responde
      refine ⟨y, List.mem_append_right _ hy, Or.inr ⟨?_, hresp.destino.trans hd⟩⟩
      exact hman.imp (fun hm => hresp.tipo.trans hm.1) fun hm => hresp.tipo.trans hm.1
    · exact absurd hc (not_esMan_of_esMar (hman.imp And.right And.right))
  · exact ⟨x, mem_leer hx hk hxk, hd⟩

/-- **A node is renumbered** under `nueva`, with the mask `mask`: it has the block, gives `r` halves of it
away and answers. -/
lemma Coherente.renumera {man : PktType} {nueva : In6Addr} {mask : UChar} {r : ℕ}
    (h : c.Coherente w own) (hn : w.nodos[i]? = some n)
    (hk : w.enVuelo[k]? = some (n.primAddr, msg)) (hno : n.redNumero ≠ c.numero)
    (hn₀ : c.red[i]? = some n₀) (hv : n.vaciar = n₀.vaciar)
    (hr : Node.Renumera msg man nueva mask r (enMezcla n) n')
    (hman : man = .man1 ∧ msg.pktTypeF = .mar1 ∨ man = .man2 ∧ msg.pktTypeF = .mar2)
    (hmar1 : man = .man1 → nueva = c.nuevaMar1 n.primAddr ∧ c.PorMar1 n'
      ∧ n.maskQueCae msg = c.receptor.primMaskInicial)
    (hvacia : Vacia nueva mask.toNat) (hcabe : mask.toNat + r ≤ 63) (hdef : n.primAddr ≠ dirDefault)
    (hbloques : Ofrecidos (Function.update own i (some (block nueva mask.toNat)))
      (((w.enVuelo.eraseIdx k).filterMap oferta).map bloqueOfrecido))
    (hcubre : ∀ (j : ℕ) (m₀ : Node), c.red[j]? = some m₀ →
      (i = c.recibe ∨ n₀.primMask ≠ n₀.primMaskInicial) → dist n₀.primAddr m₀.primAddr = 1 →
      c.Renumerado (w.leer i k msg n') j ∨ ∃ x ∈ n'.out, esMar x.2 ∧ x.1 = m₀.primAddr) :
    ∃ own', c.Coherente (w.leer i k msg n') own' := by
  have hu := unido_vaciar hn₀ hv
  have hprim : n.primAddr = n₀.primAddr := campo_of_vaciar hv Node.primAddr fun _ => rfl
  have hmsg := h.mensaje _ (List.mem_of_getElem? hk)
  have hnoMar {x : In6Addr × CtrlPkt} (hx : Node.EsRespuesta msg man x) : ¬ esMar x.2 := fun hc =>
    not_esMan_of_esMar hc (hman.imp (fun hm => hx.tipo.trans hm.1) fun hm => hx.tipo.trans hm.1)
  have hred : n'.redNumero = c.numero := hr.numero.trans hmsg.numero
  have hmask : n'.primMask.toNat = mask.toNat + r := by
    rw [hr.mascara, BitVec.toNat_add, BitVec.toNat_ofNat]
    omega
  let b := block nueva mask.toNat
  let own' := Function.update own i (some (b.keepN r))
  have hown : own' i = some (block nueva n'.primMask.toNat) := by
    rw [hmask]
    exact Function.update_self i _ own
  have hotros : ∀ j ≠ i, own' j = own j := fun j hj => Function.update_of_ne hj _ own
  have hs : c.Sigue w (w.leer i k msg n') own own' :=
    sigue_leer hn hred hotros fun hc => absurd hc hno
  have hi : c.Renumerado (w.leer i k msg n') i := renumerado_leer hn hred
  have hde {P : Node → Prop} (hP : P n') : c.Emisor (w.leer i k msg n') own' P n.primAddr nueva :=
    ⟨i, n₀, n', _, hn₀, hprim.symm, List.getElem?_set_self (List.getElem?_eq_some_iff.mp hn).1, hred,
      hown, fun _ => hP⟩
  have hofertas : Ofrecidos own' (((w.leer i k msg n').enVuelo.filterMap oferta).map bloqueOfrecido) := by
    have hgive := hbloques.give (Function.update_self i _ own) r
    rw [Function.update_idem] at hgive
    rw [Malla.leer, List.filterMap_append, List.map_append, hr.ofertas,
      map_bloqueOfrecido hvacia rfl hcabe]
    exact hgive
  refine ⟨own', h.leer hn hk hn₀ hs hotros (h.recibe_renumerado hk hn₀ hv hs hi) hofertas hred
    ⟨?_, ⟨nueva, hown, hvacia.ultimo, ?_⟩, ?_⟩ ?_ ?_ ?_ fun _ => hcubre⟩
  · obtain ⟨hdim, hsec, hsecf⟩ := hr.marco
    exact ⟨hdim.trans hu.dimension, hsec.trans hu.sinSecundaria.2, hsecf.trans hu.sinSecundaria.1⟩
  · intro hf
    rcases hr.toma with ⟨-, hnueva⟩ | ⟨hesp, -⟩
    · exact hnueva
    · exact absurd (hf.symm.trans hesp) (by decide)
  · intro hf
    rcases hr.toma with ⟨hlibre, -⟩ | ⟨-, hvieja, x, hx, hxmar⟩
    · exact absurd (hlibre.symm.trans hf) (by decide)
    · refine ⟨hvieja.trans hprim, hprim ▸ hdef, x, List.mem_append_right _ hx, Or.inl ⟨hxmar, ?_⟩⟩
      rcases hr.envia x hx with hx | ⟨-, hx⟩ | hx
      · exact absurd hxmar (hnoMar hx)
      · exact hx.emisor.trans hprim
      · exact hx.emisor.trans hprim
  · intro x hx
    refine (hmsg.mono hs).envia (u := enMezcla n) hr hman (fun hman₁ => ?_) (hde trivial) hvacia hcabe hdef hx
    obtain ⟨hnueva, hpor, hcae⟩ := hmar1 hman₁
    exact ⟨hnueva ▸ hde hpor, hcae⟩
  · exact fun j u₀ _ _ ha => ha.renumera hk hr hman
  · intro _ j m₀ hm₀ hdst
    exact c.unida.eq_of_primAddr hm₀ hn₀ (hdst.symm.trans hprim)

end Leer

end RedAbsorbida

end Antop
