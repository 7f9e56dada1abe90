import Antop.Malla

/-!
# The flood of a fragmentation

A node of a joined network loses its root neighbour and fragments.  Its `FAR`s make their readers drop
as many bits of their own addresses as the masks say, wherever in the hypercube a reader is, and as
often as it reads one.

* `RedFragmentada` — the network and the node that fragments in it.
* `RedFragmentada.Segura` — the nodes that have adopted the new network have different addresses.
* `RedFragmentada.guarda` — what a step must meet: a `FAR` is read by a node of the fragmenting node's
  block that has not adopted the new network before.
* `fragmentacion_segura` — runs whose steps meet the guard are safe.
* `cousin_becomes_root` — a neighbour in another branch takes the root's address as well.
-/

namespace Antop

open PrefixBlock Transition
open Node (antopProcessPkt)

/-- The node has lost its root neighbour. -/
def Node.sinPadre (n : Node) : Node := n.vaciar.deleteNeighbor n.neighborToRoot.addr

/-- A network grown by joins, and a node of it that fragments. -/
structure RedFragmentada where
  red : List Node
  unida : RedUnida 64 red
  tablas : TablasExactas red
  inicia : Fin red.length
  env : Env
  fragmenta : red[inicia].sinPadre.seFragmenta env

namespace RedFragmentada

/-- The node that fragments, before it does. -/
def iniciador (c : RedFragmentada) : Node := c.red[c.inicia]

/-- The node that fragments, after that. -/
def fragmentado (c : RedFragmentada) : Node := c.iniciador.sinPadre.detectorDeFragmentacion c.env

/-- The first `FAR`s have been sent. -/
def malla (c : RedFragmentada) : Malla where
  nodos := c.red.set c.inicia c.fragmentado
  enVuelo := c.fragmentado.out
  leidos := []

/-- The node has adopted the new network number: it has fragmented, or read a `FAR`. -/
def Adopto (c : RedFragmentada) (w : Malla) (i : ℕ) : Prop := c.inicia = i ∨ w.Leyo i .far

instance (c : RedFragmentada) (w : Malla) (i : ℕ) : Decidable (c.Adopto w i) := by
  unfold Adopto
  infer_instance

/-- **Fragmentation safety**: the nodes that have adopted the new network number have different
addresses. -/
def Segura (c : RedFragmentada) (w : Malla) : Prop :=
  ∀ (i j : ℕ) (n m : Node), c.Adopto w i → c.Adopto w j → w.nodos[i]? = some n →
    w.nodos[j]? = some m → n.primAddr = m.primAddr → i = j

/-- The addresses of the block the fragmenting node has got from its parent, with its own last bit,
which `shift` writes over. -/
def Propia (c : RedFragmentada) (a : In6Addr) : Prop :=
  checkAddrSpace a c.iniciador.primAddr c.iniciador.primMaskInicial = 0
    ∧ a.hostBit 63 = c.iniciador.primAddr.hostBit 63

instance (c : RedFragmentada) (a : In6Addr) : Decidable (c.Propia a) := by
  unfold Propia
  infer_instance

/-- The guard of a delivery: a `FAR` is read by a node of the block that has not adopted the new number
before. -/
def guarda (c : RedFragmentada) (w : Malla) : Reparto → Prop
  | .entrega i k _ => ∀ n ∈ w.nodos[i]?, ∀ m ∈ w.enVuelo[k]?, m.2.pktTypeF = .far →
      ¬ c.Adopto w i ∧ c.Propia n.primAddr
  | .perdida _ => True

instance (c : RedFragmentada) (w : Malla) : ∀ e : Reparto, Decidable (c.guarda w e)
  | .entrega i k _ => inferInstanceAs (Decidable (∀ n ∈ w.nodos[i]?, ∀ m ∈ w.enVuelo[k]?,
      m.2.pktTypeF = .far → ¬ c.Adopto w i ∧ c.Propia n.primAddr))
  | .perdida _ => inferInstanceAs (Decidable True)

/-! ## What a node does with a `FAR` -/

/-- The answer to a `FAR`, and the `FAR`s that are sent on, with the mask of the one that was read. -/
def DeFar (mask : UChar) (m : In6Addr × CtrlPkt) : Prop :=
  m.2.pktTypeF = .fan ∨ m.2.pktTypeF = .far ∧ m.2.adAddr.mask = mask ∧ m.2.adAddr.addr = m.1

end RedFragmentada

open RedFragmentada

namespace Node

lemma processFarCambio_out {env : Env} {msg : CtrlPkt} {n n' : Node}
    (h : n.processFarCambio env msg = some n') :
    ∃ fan, fan.pktTypeF = .fan ∧ n'.out = n.out ++ [(msg.primAddr, fan)]
      ∧ n'.primMaskInicial = msg.adAddr.mask := by
  unfold processFarCambio at h
  simp only [Option.bind_eq_bind, Option.bind_eq_some_iff, addNeighbor_eq_some] at h
  obtain ⟨_, ⟨t, ht, rfl⟩, h⟩ := h
  rw [← Option.some.inj h]
  exact ⟨_, rfl, rfl, rfl⟩

lemma processFarEnvios_out (env : Env) (msg : CtrlPkt) (aux3 : In6Addr) (mask : UChar) (n : Node) :
    ∀ m ∈ (n.processFarEnvios env msg aux3 mask).1.out, m ∈ n.out ∨ DeFar n.primMaskInicial m := by
  intro m hm
  unfold processFarEnvios at hm
  split_ifs at hm
  · obtain ⟨t, rv, h⟩ := foldl_processFarEnvio env msg n.primAddr aux3 n.neighTable n false
    rw [h] at hm
    rcases List.mem_append.mp hm with hm | hm
    · exact Or.inl hm
    · obtain ⟨it, -, hit⟩ := List.mem_flatMap.mp hm
      split_ifs at hit
      · rw [List.mem_singleton.mp hit]
        exact Or.inr (Or.inr ⟨rfl, rfl, rfl⟩)
      · simp at hit
  · exact Or.inl hm

/-- **What a `FAR` makes a node send.** -/
lemma processFarPrimaria_out {env : Env} {msg : CtrlPkt} {n n' : Node}
    (h : n.processFarPrimaria env msg = some n') :
    ∀ m ∈ n'.out, m ∈ n.out ∨ DeFar msg.adAddr.mask m := by
  simp only [processFarPrimaria, Option.bind_eq_bind, Option.bind_eq_some_iff] at h
  obtain ⟨n₁, h₁, h⟩ := h
  obtain ⟨fan, hfan, hout, hmask⟩ := processFarCambio_out h₁
  have hout' : n'.out = (n₁.processFarEnvios env msg n.primAddr n.primMaskInicial).1.out := by
    rw [← Option.some.inj h]
    split_ifs
    · exact out_finFragmentacion env _
    · rfl
  intro m hm
  rw [hout'] at hm
  rcases processFarEnvios_out env msg n.primAddr n.primMaskInicial n₁ m hm with hm | hm
  · rw [hout] at hm
    rcases List.mem_append.mp hm with hm | hm
    · exact Or.inl hm
    · rw [List.mem_singleton.mp hm]
      exact Or.inr (Or.inl hfan)
  · exact Or.inr (hmask ▸ hm)

end Node

namespace RedFragmentada

variable {c : RedFragmentada}

/-- The address a node takes when it drops the block of the fragmenting node. -/
def nueva (c : RedFragmentada) (a : In6Addr) : In6Addr :=
  shift 64 1 c.iniciador.primMaskInicial.toNat root a

/-- **Dropping the block** keeps the addresses of the block apart. -/
lemma nueva_inj {a b : In6Addr} (ha : c.Propia a) (hb : c.Propia b)
    (hpre : ∀ p < 64, a.bit p = b.bit p) (h : c.nueva a = c.nueva b) : a = b := by
  obtain ⟨hba, hua⟩ := ha
  obtain ⟨hbb, hub⟩ := hb
  rw [checkAddrSpace_eq_zero_iff_mem] at hba hbb
  refine In6Addr.ext_hostBit hpre fun p hp => ?_
  by_cases hm : p < c.iniciador.primMaskInicial.toNat
  · exact (hba p hm).trans (hbb p hm).symm
  · by_cases h63 : p = 63
    · rw [h63, hua, hub]
    · -- the bit has been moved to the front
      obtain ⟨q, rfl⟩ := Nat.exists_eq_add_of_le' (Nat.le_of_not_lt hm)
      have hbit := congrArg (fun x => x.hostBit q) h
      simp only [nueva] at hbit
      rw [hostBit_shift_left _ _ (by omega), hostBit_shift_left _ _ (by omega),
        decide_eq_true (show q + c.iniciador.primMaskInicial.toNat < 63 by omega),
        decide_eq_false (show ¬ q = 63 by omega)] at hbit
      simpa using hbit

/-- What holds along the flood: a node that has adopted the new number has dropped the block, once, and
any other is where it was. -/
structure Coherente (c : RedFragmentada) (w : Malla) : Prop where
  nodo : ∀ i n, w.nodos[i]? = some n → n.hcDim = 64 ∧ n.secAddr = .zero ∧ ∃ n₀, c.red[i]? = some n₀
    ∧ (c.Adopto w i → c.Propia n₀.primAddr ∧ n.primAddr = c.nueva n₀.primAddr)
    ∧ (¬ c.Adopto w i → n.primAddr = n₀.primAddr)
  mensaje : ∀ m ∈ w.enVuelo, DeFar c.iniciador.primMaskInicial m

lemma iniciador_unido (c : RedFragmentada) : c.iniciador.Unido 64 :=
  c.unida.1 _ (List.getElem_mem _)

lemma propia_iniciador (c : RedFragmentada) : c.Propia c.iniciador.primAddr :=
  ⟨(checkAddrSpace_eq_zero_iff_mem _ _ _).mpr (mem_base _), rfl⟩

/-- What the node that fragments is then. -/
lemma fragmentado_eq (c : RedFragmentada) :
    c.fragmentado.hcDim = 64 ∧ c.fragmentado.secAddr = .zero
      ∧ c.fragmentado.primAddr = c.nueva c.iniciador.primAddr
      ∧ ∀ m ∈ c.fragmentado.out, DeFar c.iniciador.primMaskInicial m := by
  have hdim : c.iniciador.hcDim = 64 := c.iniciador_unido.dimension
  have hsec : c.iniciador.secAddr = .zero := c.iniciador_unido.sinSecundaria.2
  have hfrag : c.iniciador.sinPadre.seFragmenta c.env := c.fragmenta
  rw [fragmentado, Node.detectorDeFragmentacion_of_seFragmenta hfrag, Node.fragmentacion_eq]
  refine ⟨hdim, hsec, ?_, ?_⟩
  · rw [nueva, ← hdim]
    rfl
  · intro m hm
    rcases List.mem_append.mp hm with hm | hm
    · exact absurd hm List.not_mem_nil
    · obtain ⟨it, -, hit⟩ := List.mem_flatMap.mp hm
      split_ifs at hit
      · simp at hit
      · rw [List.mem_singleton.mp hit]
        exact Or.inr ⟨rfl, rfl, rfl⟩

lemma coherente_malla (c : RedFragmentada) : c.Coherente c.malla where
  nodo := by
    obtain ⟨hdim, hsec, haddr, -⟩ := c.fragmentado_eq
    intro i n hn
    have hno : ¬ c.malla.Leyo i .far := by simp [Malla.Leyo, malla]
    rw [malla, List.getElem?_set] at hn
    split_ifs at hn with hi hlt
    · obtain rfl := Option.some.inj hn
      refine ⟨hdim, hsec, c.iniciador, by rw [← hi]; exact List.getElem?_eq_getElem hlt, ?_, ?_⟩
      · exact fun _ => ⟨c.propia_iniciador, haddr⟩
      · exact fun h => absurd (Or.inl hi) h
    · have hu := c.unida.unido hn
      refine ⟨hu.dimension, hu.sinSecundaria.2, n, hn, ?_, fun _ => rfl⟩
      exact fun h => absurd h (not_or.mpr ⟨hi, hno⟩)
  mensaje := c.fragmentado_eq.2.2.2

/-- A `FAR` that is read where the guard allows it. -/
lemma nodo_of_far {env : Env} {msg : CtrlPkt} {n n' : Node} (hdim : n.hcDim = 64)
    (hsec : n.secAddr = .zero) (hne : n.primAddr ≠ .zero)
    (hmsg : DeFar c.iniciador.primMaskInicial (n.primAddr, msg)) (hfar : msg.pktTypeF = .far)
    (h : antopProcessPkt env (.ctrl msg) n.vaciar = some n') :
    n'.hcDim = 64 ∧ n'.secAddr = .zero ∧ n'.primAddr = c.nueva n.primAddr
      ∧ ∀ m ∈ n'.out, DeFar c.iniciador.primMaskInicial m := by
  obtain ⟨hmask, haddr⟩ : msg.adAddr.mask = c.iniciador.primMaskInicial
      ∧ msg.adAddr.addr = n.primAddr := by
    rcases hmsg with hfan | ⟨-, hmask, haddr⟩
    · exact absurd (hfan.symm.trans hfar) (by decide)
    · exact ⟨hmask, haddr⟩
  have hprim : msg.adAddr.addr ≠ n.vaciar.secAddr := by
    rw [haddr]
    exact hsec ▸ hne
  simp only [antopProcessPkt, hfar, Node.processFar] at h
  rw [if_neg hprim] at h
  have hout := Node.processFarPrimaria_out h
  obtain ⟨t, rv, o, fin, hn'⟩ := Node.processFarPrimaria_eq h
  have hcampos : n'.hcDim = n.hcDim ∧ n'.secAddr = n.secAddr
      ∧ n'.primAddr = shift n.hcDim 1 msg.adAddr.mask.toNat root n.primAddr := by
    rw [hn']
    cases fin
    · exact ⟨rfl, rfl, rfl⟩
    · simp only [if_true, Node.finFragmentacion_frame]
      exact ⟨rfl, rfl, rfl⟩
  refine ⟨hcampos.1.trans hdim, hcampos.2.1.trans hsec, ?_, ?_⟩
  · rw [hcampos.2.2, hdim, hmask]
    rfl
  · intro m hm
    rcases hout m hm with hm | hm
    · exact absurd hm List.not_mem_nil
    · exact hmask ▸ hm

/-- A `FAN` changes no address, and nothing is sent for it. -/
lemma nodo_of_fan {env : Env} {msg : CtrlPkt} {n n' : Node} (hfan : msg.pktTypeF = .fan)
    (h : antopProcessPkt env (.ctrl msg) n.vaciar = some n') :
    n'.hcDim = n.hcDim ∧ n'.secAddr = n.secAddr ∧ n'.primAddr = n.primAddr ∧ n'.out = [] := by
  simp only [antopProcessPkt, hfan, Option.some.injEq] at h
  rw [← h, Node.processFan]
  split_ifs
  · simp only [Node.finFragmentacion_frame, Node.out_finFragmentacion]
    exact ⟨rfl, rfl, rfl, rfl⟩
  · exact ⟨rfl, rfl, rfl, rfl⟩

/-- **One step** under the guard. -/
lemma Coherente.step {w w' : Malla} {e : Reparto} (hw : c.Coherente w) (hg : c.guarda w e)
    (h : w.step e = some w') : c.Coherente w' := by
  rcases Malla.step_cases h with ⟨i, k, env, n, msg, n', rfl, hn, hmsg, hn', rfl⟩
    | ⟨k, dst, msg, rfl, -, -, rfl⟩
  · obtain ⟨hdim, hsec, n₀, hn₀, -, hviejo⟩ := hw.nodo i n hn
    have hde := hw.mensaje _ (List.mem_of_getElem? hmsg)
    cases hfar : decide (msg.pktTypeF = .far) with
    | true =>
        have hfar : msg.pktTypeF = .far := of_decide_eq_true hfar
        obtain ⟨hno, hpropia⟩ := hg n hn (n.primAddr, msg) hmsg hfar
        have hprim := hviejo hno
        have hne : n.primAddr ≠ .zero := by rw [hprim]; exact c.unida.primAddr_ne_zero hn₀
        obtain ⟨hdim', hsec', haddr', hout⟩ := nodo_of_far hdim hsec hne hde hfar hn'
        refine ⟨?_, ?_⟩
        · intro j m hm
          rcases Malla.getElem?_leer hm with ⟨rfl, rfl⟩ | ⟨hij, hm⟩
          · refine ⟨hdim', hsec', n₀, hn₀, fun _ => ⟨hprim ▸ hpropia, hprim ▸ haddr'⟩, ?_⟩
            exact fun h => absurd (Or.inr (Malla.leyo_leer.mpr (Or.inl ⟨rfl, hfar⟩))) h
          · have hadopto : c.Adopto (w.leer i k msg n') j ↔ c.Adopto w j := by
              simp [Adopto, Malla.leyo_leer, hij]
            rw [hadopto]
            exact hw.nodo j m hm
        · intro m hm
          exact (Malla.mem_enVuelo_leer hm).elim (hw.mensaje m) (hout m)
    | false =>
        have hno : ¬ msg.pktTypeF = .far := of_decide_eq_false hfar
        have hfan : msg.pktTypeF = .fan := hde.resolve_right fun h => hno h.1
        obtain ⟨hdim', hsec', haddr', hout⟩ := nodo_of_fan hfan hn'
        have hadopto (j : ℕ) : c.Adopto (w.leer i k msg n') j ↔ c.Adopto w j := by
          simp [Adopto, Malla.leyo_leer, hno]
        refine ⟨?_, ?_⟩
        · intro j m hm
          rw [hadopto]
          rcases Malla.getElem?_leer hm with ⟨rfl, rfl⟩ | ⟨-, hm⟩
          · rw [hdim', hsec', haddr']
            exact hw.nodo i n hn
          · exact hw.nodo j m hm
        · intro m hm
          rcases Malla.mem_enVuelo_leer hm with hm | hm
          · exact hw.mensaje m hm
          · rw [hout] at hm
            exact absurd hm List.not_mem_nil
  · refine ⟨hw.nodo, ?_⟩
    intro m hm
    exact hw.mensaje m (List.mem_of_mem_eraseIdx hm)

lemma Coherente.segura {w : Malla} (hw : c.Coherente w) : c.Segura w := by
  intro i j n m hi hj hn hm heq
  obtain ⟨-, -, n₀, hn₀, hnuevo, -⟩ := hw.nodo i n hn
  obtain ⟨-, -, m₀, hm₀, hmuevo, -⟩ := hw.nodo j m hm
  obtain ⟨hnp, hna⟩ := hnuevo hi
  obtain ⟨hmp, hma⟩ := hmuevo hj
  refine c.unida.eq_of_primAddr hn₀ hm₀ (nueva_inj hnp hmp ?_ (hna.symm.trans (heq.trans hma)))
  intro p hp
  exact (c.unida.prefijo hn₀ hp).trans (c.unida.prefijo hm₀ hp).symm

end RedFragmentada

/-- **Fragmentation safety.**  When each `FAR` is read by a node of the block of the fragmenting node
that has not adopted the new number before, the nodes that have adopted it have different addresses. -/
theorem fragmentacion_segura (c : RedFragmentada) (es : List Reparto)
    (hg : ∀ t ∈ steps Malla.step c.malla es, c.guarda t.1 t.2.1) :
    ∀ w ∈ states Malla.step c.malla es, c.Segura w := fun w hw =>
  (invariant_of_guard (fun _ _ _ h hg hs => h.step hg hs) c.coherente_malla hg w hw).segura

/-! ## The square -/

/-- The node at the place `i` of the square fragments. -/
def RedFragmentada.delCuadrado (i : Fin cuadrado.length)
    (h : cuadrado[i].sinPadre.seFragmenta .zero) : RedFragmentada where
  red := cuadrado
  unida := redUnida_cuadrado
  tablas := tablas_cuadrado
  inicia := i
  env := .zero
  fragmenta := h

/-- The first child of the root fragments, and its child follows it. -/
theorem fragmentacion_segura_hija :
    ∃ (c : RedFragmentada) (w : Malla), c.red = cuadrado
      ∧ w ∈ states Malla.step c.malla [.entrega 3 0 .zero]
      ∧ c.Adopto w 1 ∧ c.Adopto w 3 ∧ c.Segura w := by
  let c : RedFragmentada := .delCuadrado ⟨1, by decide⟩ (by decide +kernel)
  obtain ⟨w, hw, h₁, h₃⟩ : ∃ w ∈ states Malla.step c.malla [.entrega 3 0 .zero],
      c.Adopto w 1 ∧ c.Adopto w 3 := by decide +kernel
  refine ⟨c, w, rfl, hw, h₁, h₃, fragmentacion_segura c _ ?_ w hw⟩
  decide +kernel

/-- The second child of the root fragments.  Its neighbour in the other branch drops two bits as well,
and both have the address of the root. -/
theorem cousin_becomes_root :
    ¬ ∀ (c : RedFragmentada) (es : List Reparto), ∀ w ∈ states Malla.step c.malla es, c.Segura w := by
  intro h
  let c : RedFragmentada := .delCuadrado ⟨2, by decide⟩ (by decide +kernel)
  obtain ⟨w, hw, n, hn, m, hm, h₂, h₃, heq⟩ :
      ∃ w ∈ states Malla.step c.malla [.entrega 3 0 .zero], ∃ n ∈ w.nodos[2]?, ∃ m ∈ w.nodos[3]?,
        c.Adopto w 2 ∧ c.Adopto w 3 ∧ n.primAddr = m.primAddr := by decide +kernel
  exact absurd (h c _ w hw 2 3 n m h₂ h₃ hn hm heq) (by decide)

end Antop
