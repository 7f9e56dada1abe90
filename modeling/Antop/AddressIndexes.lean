import Antop.JoinOutcome
import Antop.Rendezvous
import Antop.Library.Checked

/-!
# The indexes into an address

`send_pap` and `hash_2_hc` compute the word of an address that they change: the one from `prim_mask`, as long
as that is under `hc_dim`, the other from `hc_dim`, together with the entry of its table of eight hashes that
it reads.  `main` accepts every positive dimension, and a joiner takes the one of the `PAP` that it chooses.

* `hash2HcMem`, `sendPapMem` — both with every access checked, and `hash2HcMem_eq`, `sendPapMem_eq`: what
  they compute, and where it is defined.
* `IndicesEnRango` — no access of the two is out of range in a state of the node, for any name.
* `Busca.estados`, `vida` — the states of a node from the call of `get_prim_addr` on.
* `exists_slot_fuera` — a node with more than 64 dimensions can come to a slot that is out of range.
* **`indices_en_rango_iff`** — in all of them the indexes are in range exactly when the dimension on the
  command line is at most 64, and so is that of the `PAP`, if the node joins a network.
-/

namespace Antop

open Checked Transition

/-! ## `hash_2_hc` -/

/-- `a.s6_addr16[i]`. -/
def In6Addr.leer (a : In6Addr) (i : ℕ) : Option Word := only (i < 8) (a.word i)

/-- `a.s6_addr16[i] = w`. -/
def In6Addr.escribir (a : In6Addr) (i : ℕ) (w : Word) : Option In6Addr := only (i < 8) (a.setWord i w)

/-- `*((uint16_t *) (hc + k))`, in the table of `hash_2_hc`. -/
def leerHc (uAddr : List UChar) (k : ℕ) : Option Word := only (k < 8) ((hc uAddr k).setWidth 16)

/-- `hash_2_hc`, with its accesses checked. -/
def hash2HcMem (hcDim : ℕ) (uAddr : List UChar) : Option In6Addr := do
  let addr ← In6Addr.zero.escribir 0 0x0120
  let addr ← addr.escribir 1 0xb80d
  let addr ← (List.range (hcDim / 16)).foldlM (fun addr i => do
    let h ← leerHc uAddr (2 * i)
    addr.escribir (4 + i) h) addr
  let i := hcDim / 16
  (List.range (hcDim % 16)).foldlM (fun addr j => do
    let h ← leerHc uAddr (2 * i)
    let w ← addr.leer (4 + i)
    addr.escribir (4 + i) (w + (htons (pow2 j) &&& h))) addr

/-- **`hash_2_hc` in range.**  The four words of the host part hold 64 bits. -/
theorem hash2HcMem_eq (hcDim : ℕ) (uAddr : List UChar) :
    hash2HcMem hcDim uAddr = only (hcDim ≤ 64) (hash2Hc hcDim uAddr) := by
  have hpalabras (addr : In6Addr) (i : ℕ) :
      ((leerHc uAddr (2 * i)).bind fun h => addr.escribir (4 + i) h)
        = only (2 * i < 8 ∧ 4 + i < 8) (addr.setWord (4 + i) (hcWord uAddr i)) :=
    only_bind_only _ _ _
  have hbits (addr : In6Addr) (i j : ℕ) :
      ((leerHc uAddr (2 * i)).bind fun h => (addr.leer (4 + i)).bind fun w =>
          addr.escribir (4 + i) (w + (htons (pow2 j) &&& h)))
        = only (2 * i < 8 ∧ 4 + i < 8)
          (addr.setWord (4 + i) (addr.word (4 + i) + (htons (pow2 j) &&& hcWord uAddr i))) := by
    simp only [leerHc, In6Addr.leer, In6Addr.escribir, only_bind_only, and_self]
    rfl
  unfold hash2HcMem
  simp only [Option.bind_eq_bind, hpalabras, hbits, foldlM_only]
  simp only [In6Addr.escribir, only_bind_only]
  refine (only_congr ?_ _).trans rfl
  simp only [List.mem_range]
  constructor
  · rintro ⟨-, -, hpal, hbit⟩
    by_contra hgt
    rcases Nat.lt_or_ge hcDim 80 with hlt | hge
    · have := hbit 0 (by omega)
      omega
    · have := hpal 4 (by omega)
      omega
  · intro hdim
    refine ⟨by decide, by decide, fun i hi => by omega, fun j hj => by omega⟩

/-! ## `send_pap` -/

/-- The address `send_pap` computes, with its accesses checked. -/
def slotAddrMem (addr : In6Addr) (primMask : ℕ) : Option In6Addr := do
  let bitIndex := 15 - primMask % 16
  let wordIndex := 4 + primMask / 16
  let mask := htons (pow2 bitIndex)
  let w ← addr.leer wordIndex
  if w &&& mask ≠ 0 then addr.escribir wordIndex (w - mask) else addr.escribir wordIndex (w + mask)

/-- A slot under 64 is in range. -/
lemma slotAddrMem_eq (addr : In6Addr) (primMask : ℕ) :
    slotAddrMem addr primMask = only (primMask < 64) (slotAddr addr primMask) := by
  have hiff : 4 + primMask / 16 < 8 ∧ 4 + primMask / 16 < 8 ↔ primMask < 64 := by omega
  have hescribe (w : Word) :
      (if w &&& htons (pow2 (15 - primMask % 16)) ≠ 0 then
          addr.escribir (4 + primMask / 16) (w - htons (pow2 (15 - primMask % 16)))
        else addr.escribir (4 + primMask / 16) (w + htons (pow2 (15 - primMask % 16))))
      = only (4 + primMask / 16 < 8)
          (if w &&& htons (pow2 (15 - primMask % 16)) ≠ 0 then
            addr.setWord (4 + primMask / 16) (w - htons (pow2 (15 - primMask % 16)))
          else addr.setWord (4 + primMask / 16) (w + htons (pow2 (15 - primMask % 16)))) := by
    split_ifs
    · rfl
    · rfl
  unfold slotAddrMem
  simp only [Option.bind_eq_bind, hescribe]
  rw [In6Addr.leer, only_bind_only, only_congr hiff]
  rfl

namespace Node

/-- `send_pap` changes a bit of its own address: it has no recovered one to offer, and is not full. -/
def ofreceSlot (n : Node) : Prop :=
  (n.rcvdAddr = [] ∨ n.rcvdOffered ≠ none) ∧ n.primMask.toNat < n.hcDim

instance (n : Node) : Decidable n.ofreceSlot := by
  unfold ofreceSlot
  infer_instance

/-- The proposal of `send_pap`, with its accesses checked. -/
def proposalMem (env : Env) (n : Node) : Option (CtrlPkt × Option In6Addr) :=
  let pap := { env.heap with pktTypeF := .pap, primAddr := n.primAddr }
  match n.rcvdAddr.getLast?, n.rcvdOffered with
  | some rcvdAux, none =>
      some ({ pap with
          primAddrLen := BitVec.ofNat 8 n.hcDim
          adAddr := { pap.adAddr with
            addr := rcvdAux.primAddr, redNumero := n.redNumero, mask := rcvdAux.primMask } },
        some rcvdAux.primAddr)
  | _, _ =>
      if n.hcDim ≤ n.primMask.toNat then
        some ({ pap with adAddr := { pap.adAddr with redNumero := n.redNumero, mask := 0 } },
          n.rcvdOffered)
      else
        (slotAddrMem n.primAddr n.primMask.toNat).map fun addr =>
          ({ pap with
              primAddrLen := BitVec.ofNat 8 n.hcDim
              adAddr := { pap.adAddr with
                addr := addr, redNumero := n.redNumero, mask := n.primMask + 1 } },
            n.rcvdOffered)

/-- `send_pap`, with its accesses checked. -/
def sendPapMem (env : Env) (dst : In6Addr) (n : Node) : Option Node :=
  (n.proposalMem env).map fun (pap, rcvdOffered) => { n.send dst pap with rcvdOffered := rcvdOffered }

/-- The two cases without a recovered address, whatever is made of them. -/
lemma proponer_eq {β : Type} (n : Node) (llena : β) (f : In6Addr → β) :
    (if n.hcDim ≤ n.primMask.toNat then some llena
        else (slotAddrMem n.primAddr n.primMask.toNat).map f)
      = only (n.primMask.toNat < n.hcDim → n.primMask.toNat < 64)
        (if n.hcDim ≤ n.primMask.toNat then llena else f (slotAddr n.primAddr n.primMask.toNat)) := by
  by_cases h : n.hcDim ≤ n.primMask.toNat
  · rw [if_pos h, if_pos h, only, if_pos fun hc => absurd hc (not_lt.mpr h)]
  · rw [if_neg h, if_neg h, slotAddrMem_eq, map_only]
    exact only_congr ⟨fun hc _ => hc, fun hc => hc (not_le.mp h)⟩ _

/-- The slot that is changed must be under 64. -/
lemma proposalMem_eq (env : Env) (n : Node) :
    n.proposalMem env = only (n.ofreceSlot → n.primMask.toNat < 64) (n.proposal env) := by
  have hpropia (h : n.rcvdAddr = [] ∨ n.rcvdOffered ≠ none) :
      (n.primMask.toNat < n.hcDim → n.primMask.toNat < 64)
        ↔ (n.ofreceSlot → n.primMask.toNat < 64) :=
    ⟨fun hlt hslot => hlt hslot.2, fun hslot hlt => hslot ⟨h, hlt⟩⟩
  unfold proposalMem proposal
  cases hlast : n.rcvdAddr.getLast? with
  | none =>
      rw [← only_congr (hpropia (Or.inl (List.getLast?_eq_none_iff.mp hlast)))]
      exact n.proponer_eq _ _
  | some rcvdAux =>
      cases hoffered : n.rcvdOffered with
      | some addr =>
          rw [← only_congr (hpropia (Or.inr (by simp [hoffered])))]
          exact n.proponer_eq _ _
      | none =>
          -- a recovered address is offered as it is
          have hlibre : ¬ n.ofreceSlot := by
            rintro ⟨hnil | hne, -⟩
            · simp [hnil] at hlast
            · exact hne hoffered
          rw [only, if_pos fun h => absurd h hlibre]

/-- **`send_pap` in range.** -/
theorem sendPapMem_eq (env : Env) (dst : In6Addr) (n : Node) :
    n.sendPapMem env dst = only (n.ofreceSlot → n.primMask.toNat < 64) (n.sendPap env dst) := by
  rw [sendPapMem, proposalMem_eq, map_only]
  rfl

/-! ## The indexes of a node -/

/-- No access of `send_pap` and, for any name, of `hash_2_hc` is out of range. -/
structure IndicesEnRango (n : Node) : Prop where
  sendPap : ∀ env dst, (n.sendPapMem env dst).isSome
  hash2Hc : ∀ uAddr, (hash2HcMem n.hcDim uAddr).isSome

/-- **One state.**  Its dimension decides. -/
lemma indicesEnRango_iff (n : Node) : n.IndicesEnRango ↔ n.hcDim ≤ 64 := by
  constructor
  · intro h
    simpa [hash2HcMem_eq] using h.hash2Hc []
  · intro hdim
    refine ⟨fun env dst => ?_, fun uAddr => ?_⟩
    · rw [sendPapMem_eq, isSome_only]
      exact fun hslot => hslot.2.trans_le hdim
    · rwa [hash2HcMem_eq, isSome_only]

end Node

/-! ## The life of a node -/

/-- The node as the packets of a pass find it: those of the first wait, and the one of the second. -/
def Busca.pasada (e : Intercambio) (s : Busca) : List Node :=
  (states (fun r v => (vueltaRecogida e.limite v r).getLeft?)
      (Recogida.vacia s.antopMsg (s.asp.start e.envPar).node) e.vueltas).map Recogida.node
    ++ match recoger e s with
      | none => []
      | some (r, n) =>
          let asp := { s.asp.start e.envPar with node := n }
          [r.node, n, (asp.pedirMejor r.vPap).node]

/-- The states of a node in `get_prim_addr`. -/
def Busca.estados : Busca → List Intercambio → List Node
  | s, [] => [s.asp.node]
  | s, e :: es =>
      s.asp.node :: (s.pasada e ++
        match intercambio e s with
        | .inl s' => s'.estados es
        | .inr _ => [])

/-- The states of a node, in `get_prim_addr` and, once that has returned, in the main loop. -/
def vida (hcDim : ℕ) (univAddr : String) (src : In6Addr) (es : List Intercambio) (clock : Timeval)
    (evs : List Event) : List Node :=
  (Busca.inicio hcDim univAddr src).estados es ++
    match getPrimAddr es (.inicio hcDim univAddr src) with
    | none => []
    | some res => states Node.step (res.node.arrancar clock) evs

/-- A packet that is read leaves the dimension. -/
lemma Lectura.hcDim_recibir {l : Lectura} {n n' : Node} (h : l.recibir n = some n') :
    n'.hcDim = n.hcDim := by
  obtain ⟨m, hm, rfl⟩ := Option.map_eq_some_iff.mp h
  have hm' : m.hcDim = n.hcDim := by
    cases l with
    | error => rw [Option.some.inj hm]
    | paquete env p => exact (Node.fijo_eq_iff.mp (Node.fijo_antopProcessPkt hm)).1
  rw [← hm']
  split
  · rfl
  · dsimp only
    split_ifs <;> rfl

lemma Recogida.hcDim_leer {l : Option Lectura} {r r' : Recogida} (h : r.leer l = some r') :
    r'.node.hcDim = r.node.hcDim := by
  cases l with
  | none => rw [Option.some.inj h]
  | some l =>
      obtain ⟨n, hn, rfl⟩ := Option.map_eq_some_iff.mp h
      rw [node_contar]
      exact Lectura.hcDim_recibir hn

lemma hcDim_salida {limite : ℤ} {v : Vuelta} {r : Recogida} {b : Bool × Recogida}
    (h : salida limite v r = some b) : b.2.node.hcDim = r.node.hcDim := by
  unfold salida at h
  split_ifs at h
  · exact Option.some.inj h ▸ rfl
  · exact Option.some.inj h ▸ rfl

/-- A round that goes on. -/
lemma hcDim_vueltaRecogida {limite : ℤ} {v : Vuelta} {r r' : Recogida}
    (h : vueltaRecogida limite v r = .inl r') : r'.node.hcDim = r.node.hcDim :=
  Recogida.hcDim_leer (Loop.tryAfter_eq_inl_iff.mp h).1

lemma hcDim_recoger {e : Intercambio} {s : Busca} {r : Recogida} {n : Node}
    (h : recoger e s = some (r, n)) : r.node.hcDim = s.asp.node.hcDim ∧ n.hcDim = s.asp.node.hcDim := by
  unfold recoger at h
  split at h
  next porReloj r' hrun =>
    obtain ⟨rfl, rfl⟩ := Prod.mk.inj (Option.some.inj h)
    have hrule : (Loop.run (vueltaRecogida e.limite) e.vueltas
        (Recogida.vacia s.antopMsg (s.asp.start e.envPar).node)).elim
        (fun r => r.node.hcDim = s.asp.node.hcDim)
        (fun r => ∀ b, r = some b → b.2.node.hcDim = s.asp.node.hcDim) := by
      refine Loop.run_tryAfter_rule (I := fun r : Recogida => r.node.hcDim = s.asp.node.hcDim)
        (Q := fun b : Bool × Recogida => b.2.node.hcDim = s.asp.node.hcDim)
        (fun v r r' hr hleer => ?_) (fun v r b hr hb => ?_) rfl e.vueltas
      · exact (Recogida.hcDim_leer hleer).trans hr
      · exact (hcDim_salida hb).trans hr
    rw [hrun] at hrule
    have hdim := hrule _ rfl
    refine ⟨hdim, ?_⟩
    split_ifs
    · exact hdim
    · exact hdim
  · exact absurd h (by simp)

/-- **A pass** keeps the dimension. -/
lemma hcDim_pasada (e : Intercambio) (s : Busca) : ∀ n ∈ s.pasada e, n.hcDim = s.asp.node.hcDim := by
  have hleyendo : ∀ r ∈ states (fun r v => (vueltaRecogida e.limite v r).getLeft?)
      (Recogida.vacia s.antopMsg (s.asp.start e.envPar).node) e.vueltas,
      r.node.hcDim = s.asp.node.hcDim :=
    invariant (fun _ _ _ hr hv => (hcDim_vueltaRecogida (Sum.getLeft?_eq_some_iff.mp hv)).trans hr) rfl
  intro n hn
  rcases List.mem_append.mp hn with hn | hn
  · obtain ⟨r, hr, rfl⟩ := List.mem_map.mp hn
    exact hleyendo r hr
  · cases hr : recoger e s with
    | none => simp [hr] at hn
    | some p =>
        obtain ⟨r, m⟩ := p
        obtain ⟨hdim, hm⟩ := hcDim_recoger hr
        rw [hr] at hn
        rcases List.mem_cons.mp hn with rfl | hn
        · exact hdim
        rcases List.mem_cons.mp hn with rfl | hn
        · exact hm
        · rw [List.mem_singleton.mp hn, ← hm]
          cases r.vPap <;> rfl

lemma hcDim_intercambio {e : Intercambio} {s s' : Busca} (h : intercambio e s = .inl s') :
    s'.asp.node.hcDim = s.asp.node.hcDim := by
  obtain ⟨r, n, hr, -, hfijo⟩ := intercambio_otra h
  exact (Node.fijo_eq_iff.mp hfijo).1.trans (hcDim_recoger hr).2

/-- All states of `get_prim_addr` have the dimension it was called with. -/
lemma hcDim_estados (es : List Intercambio) (s : Busca) :
    ∀ n ∈ s.estados es, n.hcDim = s.asp.node.hcDim := by
  induction es generalizing s with
  | nil =>
      intro n hn
      rw [List.mem_singleton.mp hn]
  | cons e es ih =>
      intro n hn
      rcases List.mem_cons.mp hn with rfl | hn
      · rfl
      rcases List.mem_append.mp hn with hn | hn
      · exact hcDim_pasada e s n hn
      · cases he : intercambio e s with
        | inl s' =>
            rw [he] at hn
            exact (ih s' n hn).trans (hcDim_intercambio he)
        | inr b => simp [he] at hn

/-- **The dimension of the main loop**: that of the confirmed choice, and without one that of the command
line. -/
lemma hcDim_getPrimAddr {hcDim : ℕ} {univAddr : String} {src : In6Addr} {es : List Intercambio}
    {res : Resultado} (h : getPrimAddr es (.inicio hcDim univAddr src) = some res) :
    (res.ronda.Confirmada ∧ ∃ pap ∈ res.ronda.elegida, res.node.hcDim = pap.primAddrLen.toNat)
      ∨ ¬ res.ronda.Confirmada ∧ res.node.hcDim = hcDim := by
  refine getPrimAddr_rule (I := fun s => s.asp.node.hcDim = hcDim)
    (Q := fun res => (res.ronda.Confirmada ∧ ∃ pap ∈ res.ronda.elegida, res.node.hcDim = pap.primAddrLen.toNat)
      ∨ ¬ res.ronda.Confirmada ∧ res.node.hcDim = hcDim) ?_ ?_ rfl h
  · clear h res
    intro e s s' hs h
    exact (hcDim_intercambio h).trans hs
  · clear h res
    intro e s res hs h
    obtain ⟨r, n, hr, -, hls, hcaso⟩ := intercambio_fin h
    have hsolo (hneg : cuenta r.leidas ≤ 0) (hfijo : res.node.fijo = n.fijo) :
        ¬ res.ronda.Confirmada ∧ res.node.hcDim = hcDim :=
      ⟨Ronda.not_confirmada (hls ▸ hneg),
        (Node.fijo_eq_iff.mp hfijo).1.trans ((hcDim_recoger hr).2.trans hs)⟩
    rcases hcaso with ⟨-, hconf, pap, hpap, m, hnode⟩ | ⟨hlleno, -, -, hfijo⟩ | ⟨hneg, -, -, hfijo⟩
    · exact Or.inl ⟨hconf, pap, hpap, by rw [hnode]; rfl⟩
    · exact Or.inr (hsolo (by rw [hlleno]; decide) hfijo)
    · exact Or.inr (hsolo hneg hfijo)

/-- **Indexes in range** in the whole life of a node. -/
theorem indices_en_rango_iff (hcDim : ℕ) (univAddr : String) (src : In6Addr) (es : List Intercambio)
    (clock : Timeval) (evs : List Event) :
    (∀ n ∈ vida hcDim univAddr src es clock evs, n.IndicesEnRango) ↔
      hcDim ≤ 64 ∧ ∀ res, getPrimAddr es (.inicio hcDim univAddr src) = some res →
        res.ronda.Confirmada → ∀ pap ∈ res.ronda.elegida, pap.primAddrLen.toNat ≤ 64 := by
  have hestados :
      (Busca.inicio hcDim univAddr src).asp.node ∈ (Busca.inicio hcDim univAddr src).estados es := by
    cases es with
    | nil => exact List.mem_singleton_self _
    | cons e es => exact List.mem_cons_self
  have hdim (res : Resultado) : ∀ u ∈ states Node.step (res.node.arrancar clock) evs,
      u.hcDim = res.node.hcDim :=
    fun u hu => (Node.fijo_eq_iff.mp (Node.fijo_states _ evs u hu)).1
  simp only [Node.indicesEnRango_iff]
  constructor
  · intro h
    refine ⟨h _ (List.mem_append_left _ hestados), fun res hres hconf pap hpap => ?_⟩
    have hres' := h (res.node.arrancar clock) (List.mem_append_right _ ?_)
    · rcases hcDim_getPrimAddr hres with ⟨-, pap', hpap', heq⟩ | ⟨hno, -⟩
      · obtain rfl := Option.mem_unique hpap hpap'
        exact heq ▸ hres'
      · exact absurd hconf hno
    · rw [hres]
      exact mem_states_self _ evs
  · rintro ⟨hlinea, hpap⟩ n hn
    rcases List.mem_append.mp hn with hn | hn
    · rw [hcDim_estados es _ n hn]
      exact hlinea
    · cases hres : getPrimAddr es (.inicio hcDim univAddr src) with
      | none => simp [hres] at hn
      | some res =>
          rw [hres] at hn
          rw [hdim res n hn]
          rcases hcDim_getPrimAddr hres with ⟨hconf, pap, hmem, heq⟩ | ⟨-, heq⟩
          · exact heq ▸ hpap res hres hconf pap hmem
          · exact heq ▸ hlinea

/-! ## The slots that are out of range

Nothing but `hc_dim` keeps the mask of a node from growing, and each slot that is confirmed makes it grow by
one. -/

namespace Node

/-- A node that can give away slots: no handler is due, and it has no recovered address. -/
structure PuedeDar (n : Node) : Prop where
  despierto : n.timers.expiredTQ = []
  sinRecuperadas : n.rcvdAddr = [] ∧ n.rcvdOffered = none

/-- The `PAN` for the next slot of a node. -/
def panPara (n : Node) : Event :=
  .recv .zero (.ctrl { CtrlPkt.zero with
    pktTypeF := .pan, adAddr := { CtrlPkt.zero.adAddr with addr := n.primAddr, redNumero := n.redNumero } })

/-- **One slot** is confirmed. -/
lemma PuedeDar.step {n : Node} (h : n.PuedeDar) (hmask : n.primMask.toNat < 255) :
    ∃ n', n.step n.panPara = some n' ∧ n'.PuedeDar ∧ n'.primMask.toNat = n.primMask.toNat + 1
      ∧ n'.hcDim = n.hcDim ∧ n'.panPara = n.panPara := by
  have hpan : n.step n.panPara
      = some (n.vaciar.sendPanc .zero CtrlPkt.zero.srcAddr n.primAddr CtrlPkt.zero.primAddr) := by
    unfold Node.step
    rw [h.despierto]
    exact (if_neg (not_not.mpr rfl)).trans (if_pos rfl)
  have hslot : n.vaciar.rcvdOffered ≠ some CtrlPkt.zero.primAddr := by
    rw [show n.vaciar.rcvdOffered = n.rcvdOffered from rfl, h.sinRecuperadas.2]
    simp
  refine ⟨_, hpan, ?_⟩
  rw [sendPanc, if_neg hslot]
  refine ⟨⟨h.despierto, h.sinRecuperadas⟩, ?_, rfl, rfl⟩
  show (BitVec.ofInt 8 ((n.primMask.toNat : ℤ) + 1)).toNat = n.primMask.toNat + 1
  rw [BitVec.toNat_ofInt]
  omega

/-- **A slot out of range** is reached by any node whose dimension allows it. -/
lemma PuedeDar.exists_fuera {n : Node} (h : n.PuedeDar) (hdim : 64 < n.hcDim)
    (hmask : n.primMask.toNat ≤ 64) :
    ∃ es, ∃ u ∈ states Node.step n es, ∀ env dst, u.sendPapMem env dst = none := by
  obtain ⟨k, hk⟩ := Nat.exists_eq_add_of_le hmask
  refine ⟨List.replicate k n.panPara, ?_⟩
  induction k generalizing n with
  | zero =>
      refine ⟨n, mem_states_self n _, fun env dst => ?_⟩
      have hslot : n.ofreceSlot := ⟨Or.inl h.sinRecuperadas.1, by omega⟩
      rw [sendPapMem_eq, only, if_neg fun hlt => absurd (hlt hslot) (by omega)]
  | succ k ih =>
      obtain ⟨n', hstep, hn', hmask', hdim', hpan⟩ := h.step (by omega)
      obtain ⟨u, hu, hnone⟩ := ih hn' (by omega) (by omega) (by omega)
      rw [hpan] at hu
      refine ⟨u, ?_, hnone⟩
      rw [List.replicate_succ, states_cons_some _ hstep]
      exact List.mem_cons_of_mem _ hu

end Node

/-- **A founder** with more than 64 dimensions comes to such a slot. -/
theorem exists_slot_fuera {hcDim : ℕ} (hdim : 64 < hcDim) (univAddr : String) (src : In6Addr)
    (clock : Timeval) :
    ∃ es evs, ∃ n ∈ vida hcDim univAddr src es clock evs, ∀ env dst, n.sendPapMem env dst = none := by
  obtain ⟨res, hres, hdim', hmask, htimers, hrec⟩ :
      ∃ res, getPrimAddr [pasaCallado] (.inicio hcDim univAddr src) = some res ∧ res.node.hcDim = hcDim
        ∧ res.node.primMask = 0 ∧ (res.node.arrancar clock).timers.expiredTQ = []
        ∧ res.node.rcvdAddr = [] ∧ res.node.rcvdOffered = none :=
    ⟨_, rfl, rfl, rfl, rfl, rfl, rfl⟩
  have hpuede : (res.node.arrancar clock).PuedeDar := ⟨htimers, hrec⟩
  obtain ⟨evs, u, hu, hnone⟩ := hpuede.exists_fuera (hdim.trans_eq hdim'.symm) (hmask ▸ by decide)
  refine ⟨[pasaCallado], evs, u, List.mem_append_right _ ?_, hnone⟩
  rw [hres]
  exact hu

/-- A node with a hypercube of 80 dimensions founds a network.  For the name `a`, and any other, `hash_2_hc`
writes behind the address. -/
theorem dimension_80_out_of_range :
    ¬ ∀ (hcDim : ℕ) (univAddr : String) (src : In6Addr) (es : List Intercambio) (clock : Timeval)
      (evs : List Event), 0 < hcDim → ∀ n ∈ vida hcDim univAddr src es clock evs, n.IndicesEnRango := by
  intro h
  obtain ⟨res, hres⟩ : ∃ res, getPrimAddr [pasaCallado] (.inicio 80 "a" ifAddrNuevo) = some res := ⟨_, rfl⟩
  have hrango := h 80 "a" ifAddrNuevo [pasaCallado] ⟨0, 0⟩ [] (by decide) (res.node.arrancar ⟨0, 0⟩)
    (List.mem_append_right _ (by rw [hres]; exact mem_states_self _ []))
  have hdim : (res.node.arrancar ⟨0, 0⟩).hcDim = 80 := by
    rw [← Option.some.inj hres]
    rfl
  have hhash := hrango.hash2Hc [97]
  rw [hdim] at hhash
  exact absurd hhash (by decide)

end Antop
