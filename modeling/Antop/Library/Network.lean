import Mathlib.Logic.Function.Basic
import Antop.Library.Transition

/-!
# Nodes that send messages

The nodes of a network change their states on events of their own and on messages, and send messages in
either case.  A message that was ever sent may reach any node, at any time and any number of times, or none:
it can be lost, repeated, overtaken, and read by a node it was not meant for.

* `Handlers`, `step` — what a node does, and what the network does.
* `Preserves` — a property of nodes and one of messages that the handlers keep together.
* `Preserves.holds` — they hold all along a run whose events meet a guard.
* **`provenance`** — what nodes and messages say comes from the facts that the events of the run have
  brought in.
* `Code`, `Handlers.wired` — the messages as they are written and read.
* **`Wired.run`** — when a reader gets what was written, or nothing, a run with written messages is a run of
  the nodes.
-/

namespace Network

open Transition

variable {ι σ μ ε δ φ β η κ : Type*}

/-- The states of the nodes, and all messages that were sent. -/
structure State (ι σ μ : Type*) where
  node : ι → σ
  sent : List μ

/-- Something happens at a node, or the message `k` reaches it. -/
inductive Event (ι ε δ : Type*)
  | act (i : ι) (e : ε)
  | deliver (i : ι) (k : ℕ) (d : δ)

/-- Where it happens. -/
def Event.place : Event ι ε δ → ι
  | .act i _ => i
  | .deliver i _ _ => i

/-- What a node does: its next state, and the messages it sends.  `δ` is what it finds when a message
arrives. -/
structure Handlers (σ ε δ μ : Type*) where
  act : σ → ε → Option (σ × List μ)
  receive : σ → μ → δ → Option (σ × List μ)

variable [DecidableEq ι]

/-- A node goes on to the next state, and its messages are on the way. -/
def State.put (s : State ι σ μ) (i : ι) (r : σ × List μ) : State ι σ μ :=
  ⟨Function.update s.node i r.1, s.sent ++ r.2⟩

/-- One event. -/
def step (h : Handlers σ ε δ μ) (s : State ι σ μ) : Event ι ε δ → Option (State ι σ μ)
  | .act i e => (h.act (s.node i) e).map (s.put i)
  | .deliver i k d => s.sent[k]?.bind fun m => (h.receive (s.node i) m d).map (s.put i)

variable {h : Handlers σ ε δ μ} {s s' : State ι σ μ}

lemma put_node_self (s : State ι σ μ) (i : ι) (r : σ × List μ) : (s.put i r).node i = r.1 :=
  Function.update_self ..

lemma put_node_of_ne (s : State ι σ μ) {i j : ι} (r : σ × List μ) (hij : j ≠ i) :
    (s.put i r).node j = s.node j :=
  Function.update_of_ne hij ..

/-- **What a step is**: one node does what its handler says. -/
lemma step_cases {e : Event ι ε δ} (hstep : step h s e = some s') :
    (∃ i a r, e = .act i a ∧ h.act (s.node i) a = some r ∧ s' = s.put i r)
      ∨ ∃ i k d m r, e = .deliver i k d ∧ m ∈ s.sent ∧ s.sent[k]? = some m
        ∧ h.receive (s.node i) m d = some r ∧ s' = s.put i r := by
  cases e with
  | act i a =>
      obtain ⟨r, hr, rfl⟩ := Option.map_eq_some_iff.mp hstep
      exact Or.inl ⟨i, a, r, rfl, hr, rfl⟩
  | deliver i k d =>
      obtain ⟨m, hm, hrest⟩ := Option.bind_eq_some_iff.mp hstep
      obtain ⟨r, hr, rfl⟩ := Option.map_eq_some_iff.mp hrest
      exact Or.inr ⟨i, k, d, m, r, rfl, List.mem_of_getElem? hm, hm, hr, rfl⟩

/-- A message arrives. -/
lemma step_deliver {i : ι} {k : ℕ} {d : δ} {m : μ} {r : σ × List μ} (hm : s.sent[k]? = some m)
    (hrec : h.receive (s.node i) m d = some r) : step h s (.deliver i k d) = some (s.put i r) := by
  rw [step, hm, Option.bind_some, hrec, Option.map_some]

/-- A node does something of its own. -/
lemma step_act {i : ι} {a : ε} {r : σ × List μ} (hact : h.act (s.node i) a = some r) :
    step h s (.act i a) = some (s.put i r) := by
  rw [step, hact, Option.map_some]

/-- The other nodes stay as they are. -/
lemma node_of_ne {e : Event ι ε δ} (hstep : step h s e = some s') {j : ι} (hj : j ≠ e.place) :
    s'.node j = s.node j := by
  rcases step_cases hstep with ⟨i, a, r, rfl, -, rfl⟩ | ⟨i, k, d, m, r, rfl, -, -, -, rfl⟩
  · exact put_node_of_ne s r hj
  · exact put_node_of_ne s r hj

/-! ## Invariants -/

/-- All nodes have `P`, and all messages `Q`. -/
structure Holds (P : ι → σ → Prop) (Q : μ → Prop) (s : State ι σ μ) : Prop where
  node : ∀ i, P i (s.node i)
  sent : ∀ m ∈ s.sent, Q m

/-- The handlers keep `P` for their node when they are given messages with `Q`, and send only such. -/
structure Preserves (h : Handlers σ ε δ μ) (P : ι → σ → Prop) (Q : μ → Prop) (G : ι → σ → ε → Prop) :
    Prop where
  act : ∀ i a e r, P i a → G i a e → h.act a e = some r → P i r.1 ∧ ∀ m ∈ r.2, Q m
  receive : ∀ i a m d r, P i a → Q m → h.receive a m d = some r → P i r.1 ∧ ∀ m ∈ r.2, Q m

/-- The guard of an event, at its node. -/
def guardAt (G : ι → σ → ε → Prop) (s : State ι σ μ) : Event ι ε δ → Prop
  | .act i e => G i (s.node i) e
  | .deliver _ _ _ => True

variable {P : ι → σ → Prop} {Q : μ → Prop} {G : ι → σ → ε → Prop}

lemma Holds.put (hs : Holds P Q s) {i : ι} {r : σ × List μ} (hr : P i r.1 ∧ ∀ m ∈ r.2, Q m) :
    Holds P Q (s.put i r) where
  node := by
    intro j
    by_cases hj : j = i
    · subst hj
      rw [put_node_self]
      exact hr.1
    · rw [put_node_of_ne s r hj]
      exact hs.node j
  sent := fun m hm => (List.mem_append.mp hm).elim (hs.sent m) (hr.2 m)

/-- One event. -/
lemma Preserves.step (hp : Preserves h P Q G) {e : Event ι ε δ} (hs : Holds P Q s) (hg : guardAt G s e)
    (hstep : Network.step h s e = some s') : Holds P Q s' := by
  rcases step_cases hstep with ⟨i, a, r, rfl, hr, rfl⟩ | ⟨i, k, d, m, r, rfl, hm, -, hr, rfl⟩
  · exact hs.put (hp.act i _ a r (hs.node i) hg hr)
  · exact hs.put (hp.receive i _ m d r (hs.node i) (hs.sent m hm) hr)

/-- **Runs.**  What the handlers keep holds all along a run whose events meet the guard. -/
theorem Preserves.holds (hp : Preserves h P Q G) {es : List (Event ι ε δ)} (hs : Holds P Q s)
    (hg : ∀ t ∈ steps (Network.step h) s es, guardAt G t.1 t.2.1) :
    ∀ u ∈ states (Network.step h) s es, Holds P Q u :=
  invariant_of_guard (fun _ _ _ hu hgu hstep => hp.step hu hgu hstep) hs hg

/-! ## Where facts come from -/

/-- The facts that the events of a run have brought in: `facts` says which, by the node, its state and the
event. -/
def Introduced (h : Handlers σ ε δ μ) (facts : ι → σ → ε → φ → Prop) (s : State ι σ μ)
    (es : List (Event ι ε δ)) (f : φ) : Prop :=
  ∃ t ∈ steps (step h) s es, ∃ i e, t.2.1 = .act i e ∧ facts i (t.1.node i) e f

/-- **Provenance.**  When the handlers keep what nodes and messages may say, whatever the facts are that they
may say it of, as long as the events bring in no others, then in every state of a run it is said of the
facts that its events have brought in. -/
theorem provenance {facts : ι → σ → ε → φ → Prop} {P : (φ → Prop) → ι → σ → Prop} {Q : (φ → Prop) → μ → Prop}
    (hp : ∀ R, Preserves h (P R) (Q R) fun i a e => ∀ f, facts i a e f → R f) {es : List (Event ι ε δ)}
    (hs : Holds (P (Introduced h facts s es)) (Q (Introduced h facts s es)) s) :
    ∀ u ∈ states (step h) s es, Holds (P (Introduced h facts s es)) (Q (Introduced h facts s es)) u := by
  refine (hp _).holds hs fun t ht => ?_
  obtain ⟨a, e, b⟩ := t
  cases e with
  | act i e => exact fun f hf => ⟨_, ht, i, e, rfl, hf⟩
  | deliver i k d => trivial

/-! ## Messages as they are written -/

/-- How messages are written and read.  What is written may depend on memory of the writer, `η`, and what is read
on that of the reader, `κ`; a reader gets a message and what it finds with it, or nothing. -/
structure Code (μ β η κ δ : Type*) where
  write : η → μ → β
  read : κ → β → Option (μ × δ)

/-- Whoever reads something reads the message that was written. -/
def Code.Faithful (c : Code μ β η κ δ) : Prop :=
  ∀ w m r m' d, c.read r (c.write w m) = some (m', d) → m' = m

/-- The messages of a node are written, each over a piece of memory of its own. -/
def Code.writeAll (c : Code μ β η κ δ) (w : ℕ → η) (r : σ × List μ) : σ × List β :=
  (r.1, r.2.mapIdx fun k m => c.write (w k) m)

/-- The nodes with messages as they are written.  A node where nothing is read goes on with `idle`. -/
def Handlers.wired (h : Handlers σ ε δ μ) (c : Code μ β η κ δ) (idle : σ → σ) :
    Handlers σ (ε × (ℕ → η)) (κ × (ℕ → η)) β where
  act a e := (h.act a e.1).map (c.writeAll e.2)
  receive a b r :=
    match c.read r.1 b with
    | some (m, d) => (h.receive a m d).map (c.writeAll r.2)
    | none => some (idle a, [])

/-- The nodes are the same, and what was sent is written. -/
structure Wired (c : Code μ β η κ δ) (s : State ι σ μ) (s' : State ι σ β) : Prop where
  node : s'.node = s.node
  sent : List.Forall₂ (fun m b => ∃ w, b = c.write w m) s.sent s'.sent

/-- The same event; where nothing is read, the node does something of its own. -/
def SameEvent (e : Event ι ε δ) : Event ι (ε × (ℕ → η)) (κ × (ℕ → η)) → Prop
  | .act i a => e = .act i a.1
  | .deliver i k _ => (∃ d, e = .deliver i k d) ∨ ∃ a, e = .act i a

section Wired

variable {c : Code μ β η κ δ} {idle : σ → σ} {t t' : State ι σ β}

/-- What is sent is written. -/
lemma forall₂_writeAll (c : Code μ β η κ δ) (w : ℕ → η) (ms : List μ) :
    List.Forall₂ (fun m b => ∃ w, b = c.write w m) ms (ms.mapIdx fun k m => c.write (w k) m) := by
  induction ms generalizing w with
  | nil => exact List.Forall₂.nil
  | cons m ms ih =>
      rw [List.mapIdx_cons]
      exact List.Forall₂.cons ⟨w 0, rfl⟩ (ih fun k => w (k + 1))

lemma Wired.put (hs : Wired c s t) (i : ι) (w : ℕ → η) (r : σ × List μ) :
    Wired c (s.put i r) (t.put i (c.writeAll w r)) where
  node := by rw [State.put, State.put, hs.node]; rfl
  sent := List.rel_append hs.sent (forall₂_writeAll c w r.2)

/-- What is read is received. -/
lemma Handlers.receive_wired (h : Handlers σ ε δ μ) (idle : σ → σ) {a : σ} {b : β} {r : κ} {m : μ} {d : δ}
    (hread : c.read r b = some (m, d)) (w : ℕ → η) {q : σ × List μ} (hrec : h.receive a m d = some q) :
    (h.wired c idle).receive a b (r, w) = some (c.writeAll w q) := by
  change (match c.read r b with
    | some (m, d) => (h.receive a m d).map (c.writeAll w)
    | none => some (idle a, [])) = _
  rw [hread]
  exact Option.map_eq_some_iff.mpr ⟨q, hrec, rfl⟩

/-- **One event.** -/
lemma Wired.step (hc : c.Faithful) (hidle : ∀ a, ∃ e, h.act a e = some (idle a, [])) (hs : Wired c s t)
    {e' : Event ι (ε × (ℕ → η)) (κ × (ℕ → η))} (hstep : Network.step (h.wired c idle) t e' = some t') :
    ∃ e s', Network.step h s e = some s' ∧ Wired c s' t' ∧ SameEvent e e' := by
  rcases step_cases hstep with ⟨i, ⟨a, w⟩, r', rfl, hr, rfl⟩ | ⟨i, k, ⟨d', w⟩, b, r', rfl, -, hb, hr, rfl⟩
  · obtain ⟨r, hact, rfl⟩ := Option.map_eq_some_iff.mp hr
    rw [hs.node] at hact
    exact ⟨.act i a, s.put i r, step_act hact, hs.put i w r, rfl⟩
  · rw [hs.node] at hr
    change (match c.read d' b with
      | some (m, d) => (h.receive (s.node i) m d).map (c.writeAll w)
      | none => some (idle (s.node i), [])) = some r' at hr
    obtain ⟨m, hm, w', rfl⟩ : ∃ m, s.sent[k]? = some m ∧ ∃ w, b = c.write w m := by
      obtain ⟨hlength, hget⟩ := List.forall₂_iff_get.mp hs.sent
      obtain ⟨hlt, rfl⟩ := List.getElem?_eq_some_iff.mp hb
      have hlt' : k < s.sent.length := hlength ▸ hlt
      exact ⟨s.sent[k], List.getElem?_eq_getElem hlt', hget k hlt' hlt⟩
    cases hread : c.read d' (c.write w' m) with
    | none =>
        rw [hread] at hr
        obtain rfl := Option.some.inj hr
        obtain ⟨e, he⟩ := hidle (s.node i)
        exact ⟨.act i e, s.put i (idle (s.node i), []), step_act he, hs.put i w (idle (s.node i), []), .inr ⟨e, rfl⟩⟩
    | some p =>
        obtain ⟨m', d⟩ := p
        obtain rfl := hc w' m d' m' d hread
        rw [hread] at hr
        obtain ⟨r, hrec, rfl⟩ := Option.map_eq_some_iff.mp hr
        exact ⟨.deliver i k d, s.put i r, step_deliver hm hrec, hs.put i w r, .inl ⟨d, rfl⟩⟩

/-- **Runs.**  A run with messages as they are written is a run of the nodes, with the same events. -/
theorem Wired.run (hc : c.Faithful) (hidle : ∀ a, ∃ e, h.act a e = some (idle a, [])) (hs : Wired c s t)
    {es' : List (Event ι (ε × (ℕ → η)) (κ × (ℕ → η)))}
    (hrun : Transition.run (Network.step (h.wired c idle)) t es' = some t') :
    ∃ es s', Transition.run (Network.step h) s es = some s' ∧ Wired c s' t' ∧ List.Forall₂ SameEvent es es' := by
  induction es' generalizing s t with
  | nil =>
      obtain rfl := Option.some.inj hrun
      exact ⟨[], s, rfl, hs, .nil⟩
  | cons e' es' ih =>
      obtain ⟨u', hstep, hrest⟩ := Option.bind_eq_some_iff.mp hrun
      obtain ⟨e, u, hu, hwired, hsame⟩ := hs.step hc hidle hstep
      obtain ⟨es, s', hes, hend, hall⟩ := ih hwired hrest
      exact ⟨e :: es, s', Option.bind_eq_some_iff.mpr ⟨u, hu, hes⟩, hend, .cons hsame hall⟩

end Wired

end Network
