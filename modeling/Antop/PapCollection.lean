import Antop.GetPrimAddr
import Antop.Library.Loop

/-!
# The collection of proposals

After its `PAR` a joiner waits for `PAP`s in a loop of `get_prim_addr`.  A round waits in `select`, reads a
packet when there is one, which `antop_socket_read` also gives to its handler, and then looks at the clock:
`check_timer` asks whether the second is the one of the deadline, and not whether that has passed.

* `Vuelta` — what a round gets from outside.
* `Recogida`, `Recogida.leer`, `salida`, `vueltaRecogida` — the variables of the loop, what a round does to
  them, when it leaves, and the round, which fails when the handler crashes.
* `Recogida.changes_leer_eq_some` — what has been collected after some rounds.
* **`recogida_termina_iff`** — the loop ends exactly when some round reads the clock in the second of the
  deadline, or finds the vector of proposals full, and no handler has crashed until then.
-/

namespace Antop

/-- `T_PAP`. -/
def tPap : ℤ := 3

/-- `NO_ADDR_AVLB`. -/
def noAddrAvlb : ℤ := -1

/-- `ADDR_OK`. -/
def addrOk : ℤ := 0

/-- `NULL_ADDR_SET`. -/
def nullAddrSet : ℤ := -2

/-- What a round of the loop gets from outside: what it reads, when `select` reports the socket, and the
second in which `check_timer` reads the clock. -/
structure Vuelta where
  leida : Option Lectura
  ahora : ℤ

/-- The proposal that is read in a round. -/
def Vuelta.oferta (v : Vuelta) : Option CtrlPkt := v.leida.bind Lectura.oferta

/-- The variables of the loop, with those of the node, which the handlers change.  `antopMsg` is what the static
pointer of that name leads to, and `leidas`, which is no variable, what has been read since `start`. -/
structure Recogida where
  recvdPaps : ℤ
  vPap : List CtrlPkt
  antopMsg : Option CtrlPkt
  leidas : List Lectura
  node : Node

namespace Recogida

/-- The variables at `start`. -/
def vacia (antopMsg : Option CtrlPkt) (n : Node) : Recogida :=
  { recvdPaps := 0, vPap := [], antopMsg := antopMsg, leidas := [], node := n }

/-- The cases for what `receive_pap` returns.  In the case 1, a packet that offers nothing,
`recvd_paps == NO_ADDR_AVLB` is no assignment. -/
def contar (l : Lectura) (s : Recogida) : Recogida :=
  match l with
  | .error => { s with recvdPaps := nullAddrSet }
  | .paquete _ msg =>
      let s := { s with antopMsg := some msg }
      if esPap msg then { s with recvdPaps := s.recvdPaps + 1, vPap := s.vPap ++ [msg] } else s

/-- What a round reads, if it reads, with the handler of the packet.  `none` is a crash. -/
def leer (leida : Option Lectura) (s : Recogida) : Option Recogida :=
  match leida with
  | none => some s
  | some l => (l.recibir s.node).map fun n => { s with leidas := s.leidas ++ [l], node := n }.contar l

end Recogida

/-- When a round leaves the loop: at the deadline, or with a full vector.  The flag says which. -/
def salida (limite : ℤ) (v : Vuelta) (s : Recogida) : Option (Bool × Recogida) :=
  if v.ahora = limite then some (true, s)
  else if maxRcvdPap ≤ s.vPap.length then some (false, s)
  else none

/-- A round of the loop. -/
def vueltaRecogida (limite : ℤ) : Vuelta → Recogida → Recogida ⊕ Option (Bool × Recogida) :=
  Loop.tryAfter (fun v s => s.leer v.leida) (salida limite)

/-! ## What is collected -/

namespace Recogida

@[simp] lemma node_contar (l : Lectura) (s : Recogida) : (s.contar l).node = s.node := by
  cases l with
  | error => rfl
  | paquete env msg =>
      unfold contar
      dsimp only
      split_ifs <;> rfl

@[simp] lemma leidas_contar (l : Lectura) (s : Recogida) : (s.contar l).leidas = s.leidas := by
  cases l with
  | error => rfl
  | paquete env msg =>
      unfold contar
      dsimp only
      split_ifs <;> rfl

lemma vPap_contar (l : Lectura) (s : Recogida) : (s.contar l).vPap = s.vPap ++ l.oferta.toList := by
  cases l with
  | error => simp [contar, Lectura.oferta, Lectura.msg]
  | paquete env msg =>
      by_cases hpap : esPap msg
      · simp [contar, Lectura.oferta, Lectura.msg, Option.filter_some, hpap]
      · simp [contar, Lectura.oferta, Lectura.msg, Option.filter_some, hpap]

/-- The node and the vector after a round. -/
lemma leer_eq_some {v : Vuelta} {s s' : Recogida} (h : s.leer v.leida = some s') :
    v.leida.toList.foldlM Lectura.recibir s.node = some s'.node
      ∧ s'.vPap = s.vPap ++ v.oferta.toList := by
  obtain ⟨leida, ahora⟩ := v
  cases leida with
  | none =>
      obtain rfl := Option.some.inj h
      exact ⟨rfl, by simp [Vuelta.oferta]⟩
  | some l =>
      obtain ⟨n, hn, rfl⟩ := Option.map_eq_some_iff.mp h
      refine ⟨?_, vPap_contar l _⟩
      rw [node_contar]
      simp [hn]

/-- A round crashes with the handler. -/
lemma leer_eq_none_iff {leida : Option Lectura} {s : Recogida} :
    s.leer leida = none ↔ leida.toList.foldlM Lectura.recibir s.node = none := by
  cases leida with
  | none => simp [leer]
  | some l => simp [leer]

/-- **After some rounds** the vector holds the proposals that were read, and the handlers of what was read have
run. -/
lemma changes_leer_eq_some {vs : List Vuelta} {s s' : Recogida}
    (h : Loop.changes (fun v s => Recogida.leer v.leida s) vs s = some s') :
    (vs.filterMap Vuelta.leida).foldlM Lectura.recibir s.node = some s'.node
      ∧ s'.vPap = s.vPap ++ vs.filterMap Vuelta.oferta := by
  induction vs generalizing s with
  | nil =>
      obtain rfl := Option.some.inj h
      exact ⟨rfl, by simp⟩
  | cons v vs ih =>
      rw [Loop.changes_cons] at h
      obtain ⟨u, hu, h⟩ := Option.bind_eq_some_iff.mp h
      obtain ⟨hnode, hvec⟩ := leer_eq_some hu
      obtain ⟨hnode', hvec'⟩ := ih h
      constructor
      · rw [← List.singleton_append, List.filterMap_append, List.foldlM_append]
        have hcabeza : [v].filterMap Vuelta.leida = v.leida.toList := by
          cases hv : v.leida <;> simp [hv]
        rw [hcabeza, hnode]
        exact hnode'
      · rw [hvec', hvec, List.append_assoc]
        congr 1
        cases hv : v.oferta <;> simp [hv]

/-- The rounds fail where a handler crashes. -/
lemma isSome_changes_leer_iff (vs : List Vuelta) (s : Recogida) :
    (Loop.changes (fun v s => Recogida.leer v.leida s) vs s).isSome
      ↔ ((vs.filterMap Vuelta.leida).foldlM Lectura.recibir s.node).isSome := by
  induction vs generalizing s with
  | nil => simp
  | cons v vs ih =>
      have hcabeza : [v].filterMap Vuelta.leida = v.leida.toList := by
        cases hv : v.leida <;> simp [hv]
      rw [Loop.changes_cons, ← List.singleton_append, List.filterMap_append, List.foldlM_append, hcabeza]
      cases hu : s.leer v.leida with
      | none => simp [leer_eq_none_iff.mp hu]
      | some u => simpa [(leer_eq_some hu).1] using ih u

end Recogida

/-- When a round leaves the loop. -/
lemma isSome_salida_iff {limite : ℤ} {v : Vuelta} {s : Recogida} :
    (salida limite v s).isSome ↔ v.ahora = limite ∨ maxRcvdPap ≤ s.vPap.length := by
  unfold salida
  split_ifs with hreloj hlleno
  · exact iff_of_true rfl (Or.inl hreloj)
  · exact iff_of_true rfl (Or.inr hlleno)
  · exact iff_of_false (by simp) (not_or.mpr ⟨hreloj, hlleno⟩)

/-- **The collection ends** exactly when some round reads the clock in the second of the deadline, or finds the
vector full, and the handlers of the packets that were read until then have returned. -/
theorem recogida_termina_iff (fijado : ℤ) (vueltas : ℕ → Vuelta) (antopMsg : Option CtrlPkt) (n : Node) :
    Loop.Returns (vueltaRecogida (fijado + tPap)) vueltas (Recogida.vacia antopMsg n) ↔
      ∃ k, ((vueltas k).ahora = fijado + tPap
          ∨ maxRcvdPap ≤ ((Loop.firsts vueltas (k + 1)).filterMap Vuelta.oferta).length)
        ∧ (((Loop.firsts vueltas (k + 1)).filterMap Vuelta.leida).foldlM Lectura.recibir n).isSome := by
  rw [vueltaRecogida, Loop.returns_tryAfter_iff]
  refine exists_congr fun k => ?_
  have hviva := Recogida.isSome_changes_leer_iff (Loop.firsts vueltas (k + 1)) (.vacia antopMsg n)
  have hvector {s : Recogida} (hs : Loop.changes (fun v s => Recogida.leer v.leida s)
      (Loop.firsts vueltas (k + 1)) (.vacia antopMsg n) = some s) :
      s.vPap = (Loop.firsts vueltas (k + 1)).filterMap Vuelta.oferta :=
    (Recogida.changes_leer_eq_some hs).2
  constructor
  · rintro ⟨s, hs, hout⟩
    rw [isSome_salida_iff, hvector hs] at hout
    exact ⟨hout, hviva.mp (by rw [hs]; rfl)⟩
  · rintro ⟨hout, hn⟩
    obtain ⟨s, hs⟩ := Option.isSome_iff_exists.mp (hviva.mpr hn)
    refine ⟨s, hs, ?_⟩
    rw [isSome_salida_iff, hvector hs]
    exact hout

/-- A `FAR` of another network for the null address, which is the `sec_addr` of a joiner: its handler sleeps for
two seconds and returns. -/
def farNulo : CtrlPkt :=
  { CtrlPkt.zero with pktTypeF := .far, adAddr := { CtrlPkt.zero.adAddr with redNumero := 7 } }

/-- The rounds of a joiner that reads it in second 2, with a deadline in second 3, and nothing else. -/
def relojQueSalta (k : ℕ) : Vuelta :=
  { leida := if k = 0 then some (.paquete .zero farNulo) else none, ahora := 4 + k }

/-- The clock passes the deadline while the handler sleeps, and the loop goes on for ever. -/
theorem collection_misses_deadline :
    ¬ ∀ (env : Env) (hcDim : ℕ) (univAddr : String) (src : In6Addr) (fijado : ℤ) (vueltas : ℕ → Vuelta),
      (Monotone fun k => (vueltas k).ahora) → (∀ k, fijado ≤ (vueltas k).ahora) →
      (∃ k, fijado + tPap ≤ (vueltas k).ahora) →
      (∀ k, (((Loop.firsts vueltas k).filterMap Vuelta.leida).foldlM Lectura.recibir
        (Aspirante.nuevo env hcDim univAddr src).node).isSome) →
      Loop.Returns (vueltaRecogida (fijado + tPap)) vueltas
        (Recogida.vacia none (Aspirante.nuevo env hcDim univAddr src).node) := by
  intro h
  have hleidas (k : ℕ) : (Loop.firsts relojQueSalta (k + 1)).filterMap Vuelta.leida
      = [.paquete .zero farNulo] := by
    induction k with
    | zero => rfl
    | succ k ih =>
        rw [Loop.firsts_succ, List.filterMap_append, ih]
        rfl
  have hofertas (k : ℕ) : (Loop.firsts relojQueSalta k).filterMap Vuelta.oferta = [] := by
    rw [List.filterMap_eq_nil_iff]
    intro v hv
    obtain ⟨j, -, rfl⟩ := List.mem_map.mp hv
    unfold relojQueSalta
    split_ifs <;> rfl
  have hends := h .zero 64 "h" .zero 0 relojQueSalta
    (fun i j hij => by simp only [relojQueSalta]; omega) (fun k => by simp only [relojQueSalta]; omega)
    ⟨0, by decide⟩ fun k => by
      cases k with
      | zero => rfl
      | succ k =>
          rw [hleidas]
          rfl
  rw [vueltaRecogida, Loop.returns_tryAfter_iff] at hends
  obtain ⟨k, s, hs, hout⟩ := hends
  rcases isSome_salida_iff.mp hout with hreloj | hlleno
  · simp only [relojQueSalta, tPap] at hreloj
    omega
  · rw [(Recogida.changes_leer_eq_some hs).2, hofertas] at hlleno
    exact absurd hlleno (by decide)

end Antop
