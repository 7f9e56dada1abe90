import Antop.AddressPartition
import Antop.Dispatch

/-!
# A network with messages on their way

The nodes of a network and the control packets they have sent to one another.  A packet is delivered
to a node that has its destination as primary address, whichever node that is at that moment, and is
lost when there is none.

* `Malla`, `Malla.step` — the network, and one delivery or loss.
* `TablasExactas` — the tables of a network that is at rest.
* `Construida.prefijo` — the addresses of a network that has grown by joins differ in their host bits.
* `Construida.ordenado`, `Construida.padre` — what follows an address is free, and everybody but the
  root has a parent.
* `RedUnida.alcanza_todos` — a flood that goes from parents to their neighbours reaches everybody.
-/

namespace Antop

open PrefixBlock Transition
open Node (antopProcessPkt)

/-- The nodes, and the messages that are on their way.  `leidos` is no part of the program: it records
which node has read which message. -/
structure Malla where
  nodos : List Node
  enVuelo : List (In6Addr × CtrlPkt)
  leidos : List (ℕ × CtrlPkt)

/-- The message `k` is delivered to the node `i`, or lost. -/
inductive Reparto
  | entrega (i k : ℕ) (env : Env)
  | perdida (k : ℕ)

namespace Malla

/-- The node `i` has read the message `k` and is now `n'`. -/
def leer (w : Malla) (i k : ℕ) (msg : CtrlPkt) (n' : Node) : Malla where
  nodos := w.nodos.set i n'
  enVuelo := w.enVuelo.eraseIdx k ++ n'.out
  leidos := (i, msg) :: w.leidos

/-- One delivery or loss. -/
def step (w : Malla) : Reparto → Option Malla
  | .entrega i k env => do
      let n ← w.nodos[i]?
      let (dst, msg) ← w.enVuelo[k]?
      if dst = n.primAddr then
        let n' ← antopProcessPkt env (.ctrl msg) n.vaciar
        return w.leer i k msg n'
      else none
  | .perdida k => do
      let (dst, _) ← w.enVuelo[k]?
      if ∃ n ∈ w.nodos, n.primAddr = dst then none
      else return { w with enVuelo := w.enVuelo.eraseIdx k }

/-- **What can happen.** -/
lemma step_cases {w w' : Malla} {e : Reparto} (h : w.step e = some w') :
    (∃ i k env n msg n', e = .entrega i k env ∧ w.nodos[i]? = some n
        ∧ w.enVuelo[k]? = some (n.primAddr, msg)
        ∧ antopProcessPkt env (.ctrl msg) n.vaciar = some n' ∧ w' = w.leer i k msg n')
      ∨ ∃ k dst msg, e = .perdida k ∧ w.enVuelo[k]? = some (dst, msg)
        ∧ (∀ n ∈ w.nodos, n.primAddr ≠ dst) ∧ w' = { w with enVuelo := w.enVuelo.eraseIdx k } := by
  cases e with
  | entrega i k env =>
      simp only [step, Option.bind_eq_bind, Option.bind_eq_some_iff] at h
      obtain ⟨n, hn, ⟨dst, msg⟩, hmsg, h⟩ := h
      split_ifs at h with hdst
      obtain ⟨n', hn', h⟩ := Option.bind_eq_some_iff.mp h
      subst hdst
      exact Or.inl ⟨i, k, env, n, msg, n', rfl, hn, hmsg, hn', (Option.some.inj h).symm⟩
  | perdida k =>
      simp only [step, Option.bind_eq_bind, Option.bind_eq_some_iff] at h
      obtain ⟨⟨dst, msg⟩, hmsg, h⟩ := h
      split_ifs at h with hdst
      refine Or.inr ⟨k, dst, msg, rfl, hmsg, ?_, (Option.some.inj h).symm⟩
      intro n hn heq
      exact hdst ⟨n, hn, heq⟩

/-- The node `i` has read a message of the type `t`. -/
def Leyo (w : Malla) (i : ℕ) (t : PktType) : Prop := ∃ m ∈ w.leidos, m.1 = i ∧ m.2.pktTypeF = t

instance (w : Malla) (i : ℕ) (t : PktType) : Decidable (w.Leyo i t) := by
  unfold Leyo
  infer_instance

/-- What has been read stays read, and the reader has read the message. -/
lemma leyo_leer {w : Malla} {i k j : ℕ} {msg : CtrlPkt} {n' : Node} {t : PktType} :
    (w.leer i k msg n').Leyo j t ↔ (i = j ∧ msg.pktTypeF = t) ∨ w.Leyo j t := by
  simp [Leyo, leer]

/-- The messages after a delivery. -/
lemma mem_enVuelo_leer {w : Malla} {i k : ℕ} {msg : CtrlPkt} {n' : Node} {m : In6Addr × CtrlPkt}
    (h : m ∈ (w.leer i k msg n').enVuelo) : m ∈ w.enVuelo ∨ m ∈ n'.out :=
  (List.mem_append.mp h).imp_left List.mem_of_mem_eraseIdx

/-- The nodes after a delivery. -/
lemma getElem?_leer {w : Malla} {i k j : ℕ} {msg : CtrlPkt} {n' m : Node}
    (h : (w.leer i k msg n').nodos[j]? = some m) : i = j ∧ m = n' ∨ i ≠ j ∧ w.nodos[j]? = some m := by
  rw [leer, List.getElem?_set] at h
  split_ifs at h with hij hlt
  · exact Or.inl ⟨hij, (Option.some.inj h).symm⟩
  · exact Or.inr ⟨hij, h⟩

end Malla

/-- Each table holds exactly the nodes at Hamming distance one. -/
def TablasExactas (red : List Node) : Prop :=
  ∀ n ∈ red, (n.neighTable.map Neighbor.primAddr).Perm
    ((red.map Node.primAddr).filter fun a => dist n.primAddr a = 1)

/-! ## Networks that have grown by joins -/

/-- The host bits of `a` from `m` on are those of the root: slots can be given under it. -/
structure Vacia (a : In6Addr) (m : ℕ) : Prop where
  libre : ∀ p, m ≤ p → p < 63 → a.hostBit p = false
  ultimo : a.hostBit 63 = true

namespace Vacia

variable {a : In6Addr} {m k : ℕ}

lemma mono (h : Vacia a m) (hmk : m ≤ k) : Vacia a k :=
  ⟨fun p hp => h.libre p (hmk.trans hp), h.ultimo⟩

/-- A slot is empty as well. -/
lemma slotAddr (h : Vacia a m) (hm : m < 63) : Vacia (Antop.slotAddr a m) (m + 1) where
  libre p hp h63 := by
    rw [hostBit_slotAddr a (by omega), if_neg (by omega)]
    exact h.libre p (by omega) h63
  ultimo := by
    rw [hostBit_slotAddr a (by omega), if_neg (by omega)]
    exact h.ultimo

end Vacia

/-- The masks of a place, and its address unless it is the last slot of another one. -/
structure Lugar.Ordenado (l : Lugar) : Prop where
  tope : l.primMaskInicial.toNat ≤ l.primMask.toNat ∧ l.primMask.toNat ≤ 64
  vacia : l.primMaskInicial.toNat ≤ 63 → Vacia l.primAddr l.primMask.toNat

namespace Construida

variable {d : ℕ} {ls : List Lugar}

/-- The addresses have the prefix of the root. -/
lemma prefijo (h : Construida d ls) (hd : d ≤ 64) :
    ∀ l ∈ ls, ∀ p < 64, l.primAddr.bit p = root.bit p := by
  induction h with
  | fundada redNumero =>
      intro l hl p hp
      rw [List.mem_singleton.mp hl]
  | @ingreso ls k l _ hk hm ih =>
      have hl : l ∈ ls := List.mem_of_getElem? hk
      intro l' hl' p hp
      rcases List.mem_append.mp hl' with hl' | hl'
      · rcases List.mem_or_eq_of_mem_set hl' with hl' | rfl
        · exact ih l' hl' p hp
        · exact ih l hl p hp
      · rw [List.mem_singleton.mp hl']
        show (slotAddr l.primAddr l.primMask.toNat).bit p = root.bit p
        rw [bit_slotAddr _ (by omega), if_neg (by omega)]
        exact ih l hl p hp

/-- The masks and the addresses of the places. -/
lemma ordenado (h : Construida 64 ls) : ∀ l ∈ ls, l.Ordenado := by
  induction h with
  | fundada redNumero =>
      intro l hl
      rw [List.mem_singleton.mp hl]
      refine ⟨⟨le_rfl, Nat.zero_le _⟩, fun _ => ⟨fun p _ hp => ?_, ?_⟩⟩
      · simp [show p ≠ 63 by omega]
      · simp
  | @ingreso ls k l _ hk hm ih =>
      obtain ⟨⟨hini, -⟩, hvacia⟩ := ih l (List.mem_of_getElem? hk)
      have hsucc : (l.primMask + 1).toNat = l.primMask.toNat + 1 := toNat_succ (by omega)
      intro l' hl'
      rcases List.mem_append.mp hl' with hl' | hl'
      · rcases List.mem_or_eq_of_mem_set hl' with hl' | rfl
        · exact ih l' hl'
        · refine ⟨⟨?_, ?_⟩, fun h63 => ?_⟩
          · exact hini.trans (by rw [Lugar.ceder, hsucc]; omega)
          · rw [Lugar.ceder, hsucc]
            omega
          · rw [Lugar.ceder, hsucc]
            exact (hvacia h63).mono (Nat.le_succ _)
      · rw [List.mem_singleton.mp hl']
        refine ⟨⟨le_rfl, ?_⟩, fun h63 => ?_⟩
        · rw [Lugar.hijo, hsucc]
          omega
        · rw [Lugar.hijo, hsucc] at h63
          rw [Lugar.hijo, hsucc]
          exact (hvacia (by omega)).slotAddr (by omega)

/-- The places before a join are there after it, under their addresses. -/
lemma exists_ingreso {k j : ℕ} {l l₁ : Lugar} (hk : ls[k]? = some l) (hj : ls[j]? = some l₁) :
    ∃ l₂, (ls.set k l.ceder ++ [l.hijo])[j]? = some l₂ ∧ l₂.primAddr = l₁.primAddr
      ∧ (l₂ = l₁ ∨ l₂ = l.ceder) := by
  have hlt : j < (ls.set k l.ceder).length := by
    rw [List.length_set]
    exact (List.getElem?_eq_some_iff.mp hj).1
  rw [List.getElem?_append_left hlt, List.getElem?_set]
  split_ifs with hkj hlt'
  · subst hkj
    obtain rfl := Option.some.inj (hk.symm.trans hj)
    exact ⟨l.ceder, rfl, rfl, Or.inr rfl⟩
  · exact absurd (List.getElem?_eq_some_iff.mp hk).1 hlt'
  · exact ⟨l₁, hj, rfl, Or.inl rfl⟩

/-- A place after a join was there before it, or is the new one. -/
lemma ingreso_cases {k i : ℕ} {l l₂ : Lugar} (hk : ls[k]? = some l)
    (hi : (ls.set k l.ceder ++ [l.hijo])[i]? = some l₂) :
    (∃ l₁, ls[i]? = some l₁ ∧ l₁.primAddr = l₂.primAddr) ∨ i = ls.length ∧ l₂ = l.hijo := by
  rcases Nat.lt_or_ge i ls.length with hlt | hge
  · have hi₁ : ls[i]? = some ls[i] := List.getElem?_eq_getElem hlt
    obtain ⟨l₃, hl₃, haddr, -⟩ := exists_ingreso hk hi₁
    obtain rfl := Option.some.inj (hl₃.symm.trans hi)
    exact Or.inl ⟨ls[i], hi₁, haddr.symm⟩
  · rw [List.getElem?_append_right (by rwa [List.length_set]), List.length_set,
      List.getElem?_singleton] at hi
    split_ifs at hi with hzero
    exact Or.inr ⟨by omega, (Option.some.inj hi).symm⟩

/-- The place has given a slot away. -/
lemma cedio_ceder {l : Lugar} (h : l.Ordenado) (hm : l.primMask.toNat < 64) :
    l.ceder.primMask ≠ l.ceder.primMaskInicial := by
  intro hc
  have hnat : (l.primMask + 1).toNat = l.primMaskInicial.toNat := congrArg BitVec.toNat hc
  rw [toNat_succ (by omega)] at hnat
  have hini := h.tope.1
  omega

/-- Every place but the first has got its address from a place before it. -/
lemma padre (h : Construida 64 ls) : ∀ {i : ℕ} {l : Lugar}, ls[i]? = some l → 0 < i →
    ∃ k l', k < i ∧ ls[k]? = some l' ∧ l'.primMask ≠ l'.primMaskInicial
      ∧ dist l'.primAddr l.primAddr = 1 := by
  induction h with
  | fundada redNumero =>
      intro i l hi hpos
      rw [List.getElem?_singleton, if_neg hpos.ne'] at hi
      exact absurd hi (by simp)
  | @ingreso ls k l hls hk hm ih =>
      have hcede := cedio_ceder (hls.ordenado l (List.mem_of_getElem? hk)) hm
      intro i l₂ hi hpos
      rcases ingreso_cases hk hi with ⟨l₁, hl₁, haddr⟩ | ⟨rfl, rfl⟩
      · obtain ⟨j, p, hji, hj, hmask, hdist⟩ := ih hl₁ hpos
        obtain ⟨p', hp', hpaddr, hp⟩ := exists_ingreso hk hj
        refine ⟨j, p', hji, hp', ?_, by rw [hpaddr, ← haddr, hdist]⟩
        rcases hp with rfl | rfl
        · exact hmask
        · exact hcede
      · obtain ⟨p', hp', hpaddr, hp⟩ := exists_ingreso hk hk
        obtain ⟨hlt, -⟩ := List.getElem?_eq_some_iff.mp hk
        refine ⟨k, p', hlt, hp', ?_, ?_⟩
        · have hset : p' = l.ceder := by
            rw [List.getElem?_append_left (by rwa [List.length_set]),
              List.getElem?_set_self hlt] at hp'
            exact (Option.some.inj hp').symm
          rw [hset]
          exact hcede
        · rw [hpaddr, dist_comm]
          exact dist_slotAddr _ hm

end Construida

namespace RedUnida

variable {red : List Node} {i j : ℕ} {n m : Node}

lemma unido (h : RedUnida 64 red) (hi : red[i]? = some n) : n.Unido 64 :=
  h.1 n (List.mem_of_getElem? hi)

/-- The nodes of a network that has grown by joins are told apart by their addresses. -/
lemma eq_of_primAddr (h : RedUnida 64 red) (hi : red[i]? = some n) (hj : red[j]? = some m)
    (heq : n.primAddr = m.primAddr) : i = j := by
  have hnodup := h.2.nodup_primAddr le_rfl
  rw [List.map_map] at hnodup
  have hlt : i < (red.map (Lugar.primAddr ∘ Node.lugar)).length := by
    rw [List.length_map]
    exact (List.getElem?_eq_some_iff.mp hi).1
  refine (List.getElem?_inj hlt hnodup).mp ?_
  rw [List.getElem?_map, List.getElem?_map, hi, hj]
  exact congrArg some heq

/-- They have the prefix of the root. -/
lemma prefijo (h : RedUnida 64 red) (hi : red[i]? = some n) {p : ℕ} (hp : p < 64) :
    n.primAddr.bit p = root.bit p :=
  h.2.prefijo le_rfl n.lugar (List.mem_map_of_mem (List.mem_of_getElem? hi)) p hp

/-- Their blocks are apart. -/
lemma apart (h : RedUnida 64 red) (hi : red[i]? = some n) (hj : red[j]? = some m) (hij : i ≠ j) :
    Apart (block n.primAddr n.primMask.toNat) (block m.primAddr m.primMask.toNat) := by
  have hapart := (h.2.partition le_rfl).apart
  rw [List.map_map, List.pairwise_map] at hapart
  obtain ⟨hilt, rfl⟩ := List.getElem?_eq_some_iff.mp hi
  obtain ⟨hjlt, rfl⟩ := List.getElem?_eq_some_iff.mp hj
  rcases Nat.lt_or_gt_of_ne hij with hlt | hlt
  · exact List.pairwise_iff_getElem.mp hapart i j hilt hjlt hlt
  · exact (List.pairwise_iff_getElem.mp hapart j i hjlt hilt hlt).symm

lemma ordenado (h : RedUnida 64 red) (hi : red[i]? = some n) : n.lugar.Ordenado :=
  h.2.ordenado n.lugar (List.mem_map_of_mem (List.mem_of_getElem? hi))

/-- Every node but the first has a parent among its neighbours. -/
lemma padre (h : RedUnida 64 red) (hi : red[i]? = some n) (hpos : 0 < i) :
    ∃ k m, k < i ∧ red[k]? = some m ∧ m.primMask ≠ m.primMaskInicial
      ∧ dist m.primAddr n.primAddr = 1 := by
  have hlugar : (red.map Node.lugar)[i]? = some n.lugar := by rw [List.getElem?_map, hi]; rfl
  obtain ⟨k, l, hki, hk, hcedio, hdist⟩ := h.2.padre hlugar hpos
  rw [List.getElem?_map, Option.map_eq_some_iff] at hk
  obtain ⟨m, hm, rfl⟩ := hk
  exact ⟨k, m, hki, hm, hcedio, hdist⟩

/-- **A flood that goes from parents to all their neighbours reaches everybody**, wherever it
starts. -/
lemma alcanza_todos (h : RedUnida 64 red) {P : ℕ → Prop} {o : ℕ} (ho : P o) (holt : o < red.length)
    (hpasa : ∀ {i j n m}, red[i]? = some n → red[j]? = some m → P i →
      (i = o ∨ n.primMask ≠ n.primMaskInicial) → dist n.primAddr m.primAddr = 1 → P j) :
    ∀ i n, red[i]? = some n → P i := by
  -- up to the root
  have hsube : ∀ i n, red[i]? = some n → P i → (i = o ∨ n.primMask ≠ n.primMaskInicial) → P 0 := by
    intro i
    induction i using Nat.strong_induction_on with
    | _ i ih =>
        intro n hi hP hpuede
        rcases Nat.eq_zero_or_pos i with rfl | hpos
        · exact hP
        · obtain ⟨k, m, hki, hk, hcedio, hdist⟩ := h.padre hi hpos
          rw [dist_comm] at hdist
          exact ih k hki m hk (hpasa hi hk hP hpuede hdist) (Or.inr hcedio)
  have hraiz : P 0 := hsube o red[o] (List.getElem?_eq_getElem holt) ho (Or.inl rfl)
  -- and down again
  intro i
  induction i using Nat.strong_induction_on with
  | _ i ih =>
      intro n hi
      rcases Nat.eq_zero_or_pos i with rfl | hpos
      · exact hraiz
      · obtain ⟨k, m, hki, hk, hcedio, hdist⟩ := h.padre hi hpos
        exact hpasa hk hi (ih k hki m hk) (Or.inr hcedio) hdist

/-- A table holds every node at distance one. -/
lemma vecino (ht : TablasExactas red) (hi : red[i]? = some n) (hj : red[j]? = some m)
    (hdist : dist n.primAddr m.primAddr = 1) : ∃ it ∈ n.neighTable, it.primAddr = m.primAddr := by
  have hmem : m.primAddr ∈ n.neighTable.map Neighbor.primAddr := by
    rw [(ht n (List.mem_of_getElem? hi)).mem_iff, List.mem_filter]
    exact ⟨List.mem_map_of_mem (List.mem_of_getElem? hj), by simpa using hdist⟩
  exact List.mem_map.mp hmem

lemma primAddr_ne_zero (h : RedUnida 64 red) (hi : red[i]? = some n) : n.primAddr ≠ .zero := by
  intro hc
  have hbit := h.prefijo hi (p := 2) (by omega)
  rw [hc] at hbit
  exact absurd hbit (by decide)

end RedUnida

/-! ## A square -/

/-- A node at a place, with a root neighbour and a table of neighbours. -/
def Lugar.nodo (l : Lugar) (padre : In6Addr) (vecinos : List In6Addr) : Node :=
  { primAddrInit 64 "n" with
    primAddr := l.primAddr, primMask := l.primMask, primMaskInicial := l.primMaskInicial
    redNumero := l.redNumero, iface := {l.primAddr}
    neighTable := vecinos.map fun a =>
      { primAddr := a, secAddrConn := false, count := 0, primMask := 0, primMaskInicial := 0
        available := true }
    neighborToRoot := { addr := padre, distance := dist root padre } }

/-- The root of network 1, its two children, and a child of the first of them. -/
def cuadrado : List Node :=
  let a := slotAddr root 0
  let b := slotAddr root 1
  let ab := slotAddr a 1
  [Lugar.nodo ⟨root, 2, 0, 1⟩ .zero [a, b], Lugar.nodo ⟨a, 2, 1, 1⟩ root [root, ab],
    Lugar.nodo ⟨b, 2, 2, 1⟩ root [root, ab], Lugar.nodo ⟨ab, 2, 2, 1⟩ a [a, b]]

lemma redUnida_cuadrado : RedUnida 64 cuadrado := by
  constructor
  · intro n hn
    simp only [cuadrado, List.mem_cons, List.not_mem_nil, or_false] at hn
    rcases hn with rfl | rfl | rfl | rfl <;>
      exact ⟨rfl, ⟨rfl, rfl⟩, ⟨rfl, rfl⟩, ⟨rfl, rfl⟩, rfl, rfl⟩
  · have h₁ := Construida.ingreso (k := 0) (.fundada 1) rfl (show (0 : UChar).toNat < 64 by decide)
    have h₂ := Construida.ingreso (k := 0) h₁ rfl (show (1 : UChar).toNat < 64 by decide)
    exact Construida.ingreso (k := 1) h₂ rfl (show (1 : UChar).toNat < 64 by decide)

lemma tablas_cuadrado : TablasExactas cuadrado := by
  intro n hn
  revert n
  decide +kernel

end Antop
