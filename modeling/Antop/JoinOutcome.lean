import Antop.FixedFields
import Antop.PapCollection
import Mathlib.Data.List.DropRight

/-!
# What `get_prim_addr` returns

A run of `get_prim_addr` from its call to its return: between two passes of the label `start` a joiner sends a
`PAR`, collects proposals, and, when it counts any, asks for the one with the lowest mask and reads once
more.  Everything but the expected `PANC` leads back to `start`.

* `Intercambio`, `Ronda` — what a pass gets from outside, and what it has read of that.
* `Busca`, `Resultado`, `intercambio`, `getPrimAddr` — the variables between two passes, what is returned, a
  pass, and the run.
* `intercambio_fin`, `intercambio_otra` — what a pass that returns does, and one that does not.
* **`resultado_fiel_iff`** — the code that is returned agrees with what was read in the last pass exactly
  when that had no `PAP` in it, or enough offers after the last error.
* **`conexion_cerrada_iff`** — `flag_conexion` is 0 on return exactly when no offer was read in any pass, or
  the last one was confirmed.
-/

namespace Antop

/-! ## The run -/

/-- What a pass gets from outside: the rounds of the first wait, with the second of its deadline, and what is
read in the second wait, if `select` reports the socket. -/
structure Intercambio where
  envPar : Env
  limite : ℤ
  vueltas : List Vuelta
  env : Env
  confirmacion : Option Lectura

/-- What a pass has read, in each of its waits. -/
structure Ronda where
  leidas : List Lectura
  confirmacion : Option Lectura

/-- The variables of `get_prim_addr` at `start`.  `rondas`, which is no variable, is what the passes so far
have read. -/
structure Busca where
  asp : Aspirante
  antopMsg : Option CtrlPkt
  rondas : List Ronda

/-- What `get_prim_addr` returns and leaves: `tomada` is the address it has given to `set_if_addr2`, and
`previas` and `ronda` are what the earlier passes and the last one have read. -/
structure Resultado where
  codigo : ℤ
  node : Node
  tomada : Option In6Addr
  previas : List Ronda
  ronda : Ronda

/-- The first wait: what has been collected, and the node after it. -/
def recoger (e : Intercambio) (s : Busca) : Option (Recogida × Node) :=
  match Loop.run (vueltaRecogida e.limite) e.vueltas
      (Recogida.vacia s.antopMsg (s.asp.start e.envPar).node) with
  | .inr (some (porReloj, r)) =>
      some (r, if porReloj ∧ r.recvdPaps = 0 then { r.node with redNumero := e.env.macAddress } else r.node)
  | _ => none

/-- The second wait, for the `PANC` of the node that made the offer `elegida`.  An error leaves `antop_msg`
as it is. -/
def confirmar (e : Intercambio) (elegida : CtrlPkt) (r : Recogida) (s : Busca) :
    Busca ⊕ Option Resultado :=
  let ronda : Ronda := ⟨r.leidas, e.confirmacion⟩
  match e.confirmacion with
  | none => .inl { s with rondas := s.rondas ++ [ronda] }
  | some l =>
      match l.atender s.asp.node with
      | none => .inr none
      | some n =>
          let asp := { s.asp with node := n }
          let antopMsg := l.msg.or r.antopMsg
          if antopMsg.any fun msg => Aspirante.esPanc msg elegida then
            .inr ((asp.adoptar e.env elegida).map fun n =>
              { codigo := addrOk, node := n, tomada := some elegida.adAddr.addr
                previas := s.rondas, ronda := ronda })
          else .inl { asp := asp, antopMsg := antopMsg, rondas := s.rondas ++ [ronda] }

/-- From one `start` to the next, or to the return.  `.inr none` is a wait that does not end, or a crash. -/
def intercambio (e : Intercambio) (s : Busca) : Busca ⊕ Option Resultado :=
  match recoger e s with
  | none => .inr none
  | some (r, n) =>
      let asp := { s.asp.start e.envPar with node := n }
      if 0 < r.recvdPaps then
        match r.vPap with
        | [] => .inr none
        | primera :: resto =>
            let elegida := elegir primera resto
            confirmar e elegida r { s with asp := asp.pedir elegida, antopMsg := r.antopMsg }
      else
        let ronda : Ronda := ⟨r.leidas, none⟩
        if r.recvdPaps = noAddrAvlb then
          .inr (some { codigo := noAddrAvlb, node := n, tomada := none
                       previas := s.rondas, ronda := ronda })
        else
          let n := { n.setIfAddr2 asp.src n.primAddr with primMask := 0, primMaskInicial := 0 }
          .inr (some { codigo := nullAddrSet, node := n, tomada := some n.primAddr
                       previas := s.rondas, ronda := ronda })

/-- `get_prim_addr`: what it returns on the passes of a list, if it does. -/
def getPrimAddr (es : List Intercambio) (s : Busca) : Option Resultado :=
  (Loop.run intercambio es s).elim (fun _ => none) id

/-- A node that calls `get_prim_addr`; `src` is the address of its interface. -/
def Busca.inicio (hcDim : ℕ) (univAddr : String) (src : In6Addr) : Busca :=
  { asp := { src := src, node := { primAddrInit hcDim univAddr with iface := {src} }
             fase := .esperaPap [] }
    antopMsg := none, rondas := [] }

/-! ## What was read -/

namespace Lectura

/-- The read failed. -/
def esError : Lectura → Bool
  | error => true
  | paquete _ _ => false

end Lectura

/-- The `PAP`s that offer an address. -/
def ofertas (ls : List Lectura) : List CtrlPkt := ls.filterMap Lectura.oferta

/-- The offers that were read after the last error. -/
def ofertasFinales (ls : List Lectura) : List CtrlPkt := ofertas (ls.rtakeWhile fun l => !l.esError)

/-- What `recvd_paps` comes to: the offers after the last error, with `NULL_ADDR_SET` added if there was
one. -/
def cuenta (ls : List Lectura) : ℤ :=
  (if ls.any Lectura.esError then nullAddrSet else 0) + (ofertasFinales ls).length

/-- Some `PAP` was read, whether or not it offers an address. -/
def HayPap (ls : List Lectura) : Prop := ∃ l ∈ ls, ∃ msg ∈ l.msg, msg.pktTypeF = .pap

namespace Ronda

/-- The last packet of a pass. -/
def ultimo (r : Ronda) : Option CtrlPkt :=
  ((r.leidas ++ r.confirmacion.toList).filterMap Lectura.msg).getLast?

/-- The offer with the lowest mask. -/
def elegida (r : Ronda) : Option CtrlPkt :=
  match ofertas r.leidas with
  | [] => none
  | primera :: resto => some (elegir primera resto)

/-- The choice is confirmed: `recvd_paps` is positive, something is read in the second wait, and the last packet
is the `PANC` of the node that made the best offer. -/
def Confirmada (r : Ronda) : Prop :=
  0 < cuenta r.leidas ∧ r.confirmacion.isSome
    ∧ ∃ msg ∈ r.ultimo, ∃ pap ∈ r.elegida, Aspirante.esPanc msg pap

end Ronda

/-- The count of a pass tells that `PAP`s were read: there were none, or offers after the last error, and not
just the two that make up for it. -/
def Ronda.BienContada (r : Ronda) : Prop :=
  ¬ HayPap r.leidas
    ∨ ofertasFinales r.leidas ≠ []
      ∧ ¬ (r.leidas.any Lectura.esError ∧ (ofertasFinales r.leidas).length = 2)

/-- The code that is returned agrees with what was read in the last pass. -/
structure ResultadoFiel (res : Resultado) : Prop where
  ok : res.codigo = addrOk → ∃ pap ∈ ofertas res.ronda.leidas,
    (∀ otra ∈ ofertas res.ronda.leidas, pap.adAddr.mask ≤ otra.adAddr.mask)
      ∧ (∃ msg ∈ res.ronda.ultimo, Aspirante.esPanc msg pap)
      ∧ res.node.primAddr = pap.adAddr.addr ∧ res.node.primMask = pap.adAddr.mask
  lleno : HayPap res.ronda.leidas → ofertas res.ronda.leidas = [] →
    res.codigo = noAddrAvlb ∧ res.tomada = none
  funda : res.codigo = nullAddrSet → ¬ HayPap res.ronda.leidas

/-! ## The first wait -/

@[simp] lemma ofertas_concat (ls : List Lectura) (l : Lectura) :
    ofertas (ls ++ [l]) = ofertas ls ++ l.oferta.toList := by
  cases h : l.oferta <;> simp [ofertas, h]

lemma ofertasFinales_concat (ls : List Lectura) (l : Lectura) :
    ofertasFinales (ls ++ [l]) = if l.esError then [] else ofertasFinales ls ++ l.oferta.toList := by
  unfold ofertasFinales
  rw [List.rtakeWhile_concat]
  cases l.esError
  · exact ofertas_concat _ l
  · rfl

@[simp] lemma cuenta_error (ls : List Lectura) : cuenta (ls ++ [.error]) = nullAddrSet := by
  rw [cuenta, ofertasFinales_concat]
  simp [Lectura.esError]

@[simp] lemma cuenta_paquete (ls : List Lectura) (env : Env) (msg : CtrlPkt) :
    cuenta (ls ++ [.paquete env msg]) = cuenta ls + if esPap msg then 1 else 0 := by
  rw [cuenta, cuenta, ofertasFinales_concat, List.any_append]
  by_cases hpap : esPap msg
  · simp [Lectura.esError, Lectura.oferta, Lectura.msg, Option.filter_some, hpap, add_assoc]
  · simp [Lectura.esError, Lectura.oferta, Lectura.msg, Option.filter_some, hpap]

/-- A read sets the flag when it is an offer. -/
lemma Lectura.flagConexion_recibir {l : Lectura} {n n' : Node} (h : l.recibir n = some n') :
    n'.flagConexion ↔ n.flagConexion ∨ l.oferta ≠ none := by
  obtain ⟨m, hm, rfl⟩ := Option.map_eq_some_iff.mp h
  cases l with
  | error =>
      obtain rfl := Option.some.inj hm
      simp [msg, oferta]
  | paquete env p =>
      have hkeep := (Node.fijo_eq_iff.mp (Node.fijo_antopProcessPkt hm)).2.2
      by_cases hpap : esPap p
      · simp [msg, oferta, Option.filter_some, hpap]
      · simp [msg, oferta, Option.filter_some, hpap, hkeep]

/-- The variables of the collection agree with what has been read; `n` is the node at `start`. -/
structure Recogida.Fiel (antopMsg : Option CtrlPkt) (n : Node) (r : Recogida) : Prop where
  vPap : r.vPap = ofertas r.leidas
  recvdPaps : r.recvdPaps = cuenta r.leidas
  antopMsg : r.antopMsg = (r.leidas.filterMap Lectura.msg).getLast?.or antopMsg
  flagConexion : r.node.flagConexion ↔ n.flagConexion ∨ ofertas r.leidas ≠ []

namespace Recogida.Fiel

variable {antopMsg : Option CtrlPkt} {n : Node} {r : Recogida}

lemma vacia (antopMsg : Option CtrlPkt) (n : Node) : (Recogida.vacia antopMsg n).Fiel antopMsg n :=
  ⟨rfl, rfl, rfl, by simp [Recogida.vacia, ofertas]⟩

/-- A round keeps the agreement. -/
lemma leer (h : r.Fiel antopMsg n) {leida : Option Lectura} {r' : Recogida} (hr : r.leer leida = some r') :
    r'.Fiel antopMsg n := by
  cases leida with
  | none => exact Option.some.inj hr ▸ h
  | some l =>
      obtain ⟨m, hm, rfl⟩ := Option.map_eq_some_iff.mp hr
      have hflag : m.flagConexion ↔ n.flagConexion ∨ ofertas (r.leidas ++ [l]) ≠ [] := by
        rw [Lectura.flagConexion_recibir hm, h.flagConexion, ofertas_concat]
        cases l.oferta <;> simp
      refine ⟨?_, ?_, ?_, by rw [node_contar, leidas_contar]; exact hflag⟩
      · rw [vPap_contar, leidas_contar, ofertas_concat, ← h.vPap]
      · cases l with
        | error => simp [contar]
        | paquete env msg =>
            by_cases hpap : esPap msg
            · simpa [contar, hpap] using h.recvdPaps
            · simpa [contar, hpap] using h.recvdPaps
      · cases l with
        | error => simpa [contar, Lectura.msg] using h.antopMsg
        | paquete env msg =>
            by_cases hpap : esPap msg
            · simp [contar, hpap, Lectura.msg]
            · simp [contar, hpap, Lectura.msg]

end Recogida.Fiel

/-- **What the first wait ends with.** -/
lemma fiel_of_run {limite : ℤ} {vs : List Vuelta} {antopMsg : Option CtrlPkt} {n : Node}
    {b : Bool × Recogida}
    (h : Loop.run (vueltaRecogida limite) vs (Recogida.vacia antopMsg n) = .inr (some b)) :
    b.2.Fiel antopMsg n := by
  have hrule : (Loop.run (vueltaRecogida limite) vs (Recogida.vacia antopMsg n)).elim
      (fun r => r.Fiel antopMsg n) (fun b => ∀ x, b = some x → x.2.Fiel antopMsg n) := by
    refine Loop.run_tryAfter_rule (fun v s s' hs hr => hs.leer hr) ?_ (.vacia antopMsg n) vs
    intro v s b hs hb
    unfold salida at hb
    split_ifs at hb
    · exact Option.some.inj hb ▸ hs
    · exact Option.some.inj hb ▸ hs
  rw [h] at hrule
  exact hrule b rfl

/-- **The first wait.** -/
lemma recoger_eq_some {e : Intercambio} {s : Busca} {r : Recogida} {n : Node}
    (h : recoger e s = some (r, n)) :
    r.Fiel s.antopMsg (s.asp.start e.envPar).node
      ∧ (n.flagConexion ↔ s.asp.node.flagConexion ∨ ofertas r.leidas ≠ []) := by
  unfold recoger at h
  split at h
  next porReloj r' hrun =>
    obtain ⟨rfl, rfl⟩ := Prod.mk.inj (Option.some.inj h)
    have hfiel : r'.Fiel s.antopMsg (s.asp.start e.envPar).node := fiel_of_run hrun
    refine ⟨hfiel, ?_⟩
    rw [← show (s.asp.start e.envPar).node.flagConexion = s.asp.node.flagConexion from rfl,
      ← hfiel.flagConexion]
    split_ifs
    · rfl
    · rfl
  · exact absurd h (by simp)

/-! ## A pass -/

/-- The last packet, when the first wait has read one. -/
lemma ultimo_eq {antopMsg : Option CtrlPkt} {n : Node} {r : Recogida} (h : r.Fiel antopMsg n) (hne : r.vPap ≠ [])
    (l : Lectura) : Ronda.ultimo ⟨r.leidas, some l⟩ = l.msg.or r.antopMsg := by
  have hleidas : r.leidas.filterMap Lectura.msg ≠ [] := by
    intro hnil
    apply hne
    rw [h.vPap, ofertas, List.filterMap_eq_nil_iff]
    intro x hx
    rw [Lectura.oferta, List.filterMap_eq_nil_iff.mp hnil x hx]
    rfl
  have hlast : r.antopMsg = (r.leidas.filterMap Lectura.msg).getLast? := by
    rw [h.antopMsg, List.getLast?_eq_some_getLast hleidas]
    rfl
  rw [hlast, Ronda.ultimo]
  cases hl : l.msg with
  | none => simp [hl]
  | some msg => simp [hl]

/-- The second wait ends with the confirmation. -/
lemma confirmar_fin {e : Intercambio} {elegida : CtrlPkt} {r : Recogida} {s : Busca} {res : Resultado}
    (h : confirmar e elegida r s = .inr (some res)) :
    ∃ l msg m, e.confirmacion = some l ∧ l.msg.or r.antopMsg = some msg
      ∧ Aspirante.esPanc msg elegida
      ∧ res = { codigo := addrOk, node := Aspirante.tomarPap elegida m
                tomada := some elegida.adAddr.addr
                previas := s.rondas, ronda := ⟨r.leidas, some l⟩ } := by
  unfold confirmar at h
  split at h
  · exact absurd h (by simp)
  next l hl =>
    split at h
    · exact absurd h (by simp)
    · dsimp only at h
      split_ifs at h with hpanc
      obtain ⟨n, hn, rfl⟩ := Option.map_eq_some_iff.mp (Sum.inr.inj h)
      obtain ⟨m, -, rfl⟩ := Option.map_eq_some_iff.mp hn
      obtain ⟨msg, hmsg, hes⟩ := (Option.any_eq_true _ _).mp hpanc
      exact ⟨l, msg, m, hl, hmsg, hes, by rw [hl]⟩

/-- Everything else goes back to `start`. -/
lemma confirmar_otra {e : Intercambio} {elegida : CtrlPkt} {r : Recogida} {s s' : Busca}
    (h : confirmar e elegida r s = .inl s') :
    s'.rondas = s.rondas ++ [⟨r.leidas, e.confirmacion⟩]
      ∧ s'.asp.node.fijo = s.asp.node.fijo := by
  unfold confirmar at h
  split at h
  next hno =>
    obtain rfl := Sum.inl.inj h
    exact ⟨by rw [hno], rfl⟩
  next l hl =>
    split at h
    · exact absurd h (by simp)
    next n hn =>
      dsimp only at h
      split_ifs at h
      obtain rfl := Sum.inl.inj h
      refine ⟨by rw [hl], ?_⟩
      cases l with
      | error =>
          obtain rfl := Option.some.inj hn
          rfl
      | paquete env msg => exact Node.fijo_antopProcessPkt hn

/-- **What a pass that returns does.**  It has a confirmed choice, or `recvd_paps` is not positive. -/
lemma intercambio_fin {e : Intercambio} {s : Busca} {res : Resultado}
    (h : intercambio e s = .inr (some res)) :
    ∃ r n, recoger e s = some (r, n) ∧ res.previas = s.rondas ∧ res.ronda.leidas = r.leidas
      ∧ ((res.codigo = addrOk ∧ res.ronda.Confirmada
            ∧ ∃ pap ∈ res.ronda.elegida, ∃ m, res.node = Aspirante.tomarPap pap m)
        ∨ (cuenta r.leidas = noAddrAvlb ∧ res.codigo = noAddrAvlb ∧ res.tomada = none
            ∧ res.node.fijo = n.fijo)
        ∨ (cuenta r.leidas ≤ 0 ∧ cuenta r.leidas ≠ noAddrAvlb ∧ res.codigo = nullAddrSet
            ∧ res.node.fijo = n.fijo)) := by
  unfold intercambio at h
  split at h
  · exact absurd h (by simp)
  next r n hr =>
    obtain ⟨hfiel, -⟩ := recoger_eq_some hr
    refine ⟨r, n, hr, ?_⟩
    dsimp only at h
    split_ifs at h with hpos hlleno
    · split at h
      · exact absurd h (by simp)
      next primera resto hvec =>
        obtain ⟨l, msg, m, hl, hmsg, hes, rfl⟩ := confirmar_fin h
        have helegida : Ronda.elegida ⟨r.leidas, some l⟩ = some (elegir primera resto) := by
          rw [Ronda.elegida, ← hfiel.vPap, hvec]
        have hultimo := ultimo_eq hfiel (by simp [hvec]) l
        refine ⟨rfl, rfl, Or.inl ⟨rfl, ⟨hfiel.recvdPaps ▸ hpos, rfl, msg, ?_, _, helegida, hes⟩, ?_⟩⟩
        · exact hultimo.trans hmsg
        · exact ⟨_, helegida, m, rfl⟩
    · obtain rfl := Option.some.inj (Sum.inr.inj h)
      exact ⟨rfl, rfl, Or.inr (Or.inl ⟨hfiel.recvdPaps ▸ hlleno, rfl, rfl, rfl⟩)⟩
    · obtain rfl := Option.some.inj (Sum.inr.inj h)
      rw [hfiel.recvdPaps] at hpos hlleno
      exact ⟨rfl, rfl, Or.inr (Or.inr ⟨not_lt.mp hpos, hlleno, rfl, rfl⟩)⟩

/-- A pass whose count is not positive has no confirmed choice. -/
lemma Ronda.not_confirmada {r : Ronda} (h : cuenta r.leidas ≤ 0) : ¬ r.Confirmada :=
  fun hc => absurd hc.1 (not_lt.mpr h)

/-- What a pass that does not return leaves. -/
lemma intercambio_otra {e : Intercambio} {s s' : Busca} (h : intercambio e s = .inl s') :
    ∃ r n, recoger e s = some (r, n) ∧ s'.rondas = s.rondas ++ [⟨r.leidas, e.confirmacion⟩]
      ∧ s'.asp.node.fijo = n.fijo := by
  unfold intercambio at h
  split at h
  · exact absurd h (by simp)
  next r n hr =>
    refine ⟨r, n, hr, ?_⟩
    dsimp only at h
    split_ifs at h
    split at h
    · exact absurd h (by simp)
    · exact confirmar_otra h

/-- **The rule for runs**: what each pass that goes back to `start` keeps gives what is returned. -/
lemma getPrimAddr_rule {I : Busca → Prop} {Q : Resultado → Prop}
    (hotra : ∀ e s s', I s → intercambio e s = .inl s' → I s')
    (hfin : ∀ e s res, I s → intercambio e s = .inr (some res) → Q res)
    {es : List Intercambio} {s : Busca} {res : Resultado} (hs : I s) (h : getPrimAddr es s = some res) :
    Q res := by
  have hrule := Loop.run_rule (Q := fun r : Option Resultado => ∀ res, r = some res → Q res) hotra
    (fun e s r hs hr res hres => hfin e s res hs (hres ▸ hr)) hs es
  unfold getPrimAddr at h
  cases hrun : Loop.run intercambio es s with
  | inl s' =>
      rw [hrun] at h
      exact absurd h (by simp)
  | inr r =>
      rw [hrun] at h hrule
      exact hrule res h

/-! ## The code that is returned -/

/-- The count is positive, or tells of a full parent, when there are offers after the last error and not just
the two that make up for it. -/
lemma cuenta_util_iff (ls : List Lectura) :
    (ofertasFinales ls ≠ [] ∧ ¬ (ls.any Lectura.esError ∧ (ofertasFinales ls).length = 2))
      ↔ 0 < cuenta ls ∨ cuenta ls = noAddrAvlb := by
  have hnil : ofertasFinales ls ≠ [] ↔ 0 < (ofertasFinales ls).length := List.length_pos_iff.symm
  rw [hnil, cuenta, nullAddrSet, noAddrAvlb]
  by_cases herr : ls.any Lectura.esError
  · rw [if_pos herr]
    simp only [herr, true_and]
    omega
  · rw [if_neg herr]
    simp only [herr, Bool.false_eq_true, false_and, not_false_eq_true, and_true]
    omega

/-- The choice of a pass is one of its offers, and none of the others has a lower mask. -/
lemma Ronda.elegida_mejor {r : Ronda} {pap : CtrlPkt} (h : pap ∈ r.elegida) :
    pap ∈ ofertas r.leidas ∧ ∀ otra ∈ ofertas r.leidas, pap.adAddr.mask ≤ otra.adAddr.mask := by
  unfold elegida at h
  cases hls : ofertas r.leidas with
  | nil =>
      rw [hls] at h
      exact absurd h (by simp)
  | cons primera resto =>
      rw [hls] at h
      obtain rfl := Option.some.inj h
      exact ⟨elegir_mem primera resto, elegir_le primera resto⟩

/-- **The code agrees with the last pass** exactly when that is counted well. -/
theorem resultado_fiel_iff (hcDim : ℕ) (univAddr : String) (src : In6Addr) (es : List Intercambio)
    (res : Resultado) (h : getPrimAddr es (.inicio hcDim univAddr src) = some res) :
    ResultadoFiel res ↔ res.ronda.BienContada := by
  refine getPrimAddr_rule (I := fun _ => True) (Q := fun res => ResultadoFiel res ↔ res.ronda.BienContada)
    (fun _ _ _ _ _ => trivial) ?_ trivial h
  clear h res
  intro e s res _ h
  obtain ⟨r, n, -, -, hls, hcaso⟩ := intercambio_fin h
  rw [← hls] at hcaso
  rw [Ronda.BienContada, cuenta_util_iff]
  rcases hcaso with ⟨hcod, hconf, pap, hpap, m, hnode⟩ | ⟨hlleno, hcod, htomada, -⟩ | ⟨hneg, hne, hcod, -⟩
  · -- confirmed
    obtain ⟨hmem, hmin⟩ := Ronda.elegida_mejor hpap
    obtain ⟨hpos, -, msg, hmsg, pap', hpap', hes⟩ := hconf
    obtain rfl := Option.mem_unique hpap hpap'
    refine iff_of_true ⟨fun _ => ?_, fun _ hno => ?_, fun hc => ?_⟩ (Or.inr (Or.inl hpos))
    · exact ⟨pap, hmem, hmin, ⟨msg, hmsg, hes⟩, by rw [hnode]; rfl, by rw [hnode]; rfl⟩
    · exact absurd (hno ▸ hmem) List.not_mem_nil
    · exact absurd (hcod.symm.trans hc) (by decide)
  · -- an error and one offer after it
    refine iff_of_true ⟨fun hc => ?_, fun _ _ => ⟨hcod, htomada⟩, fun hc => ?_⟩ (Or.inr (Or.inr hlleno))
    · exact absurd (hcod.symm.trans hc) (by decide)
    · exact absurd (hcod.symm.trans hc) (by decide)
  · -- the node founds a network
    have hno : ¬ (0 < cuenta res.ronda.leidas ∨ cuenta res.ronda.leidas = noAddrAvlb) :=
      not_or.mpr ⟨not_lt.mpr hneg, hne⟩
    rw [or_iff_left hno]
    refine ⟨fun hf => hf.funda hcod, fun hno => ⟨fun hc => ?_, fun hp => absurd hp hno, fun _ => hno⟩⟩
    exact absurd (hcod.symm.trans hc) (by decide)

/-- The joiner's interface at the start of the runs below. -/
def ifAddrNuevo : In6Addr := slotAddr root 5

/-- A pass in which one packet is read before the deadline, and `confirmacion` after it. -/
def pasaCon (msg : CtrlPkt) (confirmacion : Option Lectura) : Intercambio :=
  { envPar := .zero, limite := 3, vueltas := [⟨some (.paquete .zero msg), 1⟩, ⟨none, 3⟩], env := .zero
    confirmacion := confirmacion }

/-- The `PAP` of a parent that has nothing to offer. -/
def papLleno : CtrlPkt := { CtrlPkt.zero with pktTypeF := .pap, primAddr := root, primAddrLen := 64 }

/-- The root's `PAP` with its first slot. -/
def papRoot : CtrlPkt :=
  { papLleno with adAddr := { papLleno.adAddr with addr := slotAddr root 0, mask := 1 } }

/-- The root's `PANC`. -/
def pancRoot : CtrlPkt :=
  { CtrlPkt.zero with pktTypeF := .panc, adAddr := { CtrlPkt.zero.adAddr with addr := root } }

/-- A joiner that takes the root's offer. -/
theorem resultado_fiel_papRoot :
    ∃ res, getPrimAddr [pasaCon papRoot (some (.paquete .zero pancRoot))] (.inicio 64 "h" ifAddrNuevo)
        = some res ∧ (ResultadoFiel res ↔ res.ronda.BienContada) :=
  ⟨_, rfl, resultado_fiel_iff 64 "h" ifAddrNuevo
    [pasaCon papRoot (some (.paquete .zero pancRoot))] _ rfl⟩

/-- A full parent is taken for none: the joiner founds a network of its own. -/
theorem full_parent_not_told :
    ¬ ∀ (hcDim : ℕ) (univAddr : String) (src : In6Addr) (es : List Intercambio) (res : Resultado),
      getPrimAddr es (.inicio hcDim univAddr src) = some res → ResultadoFiel res := by
  intro h
  have hf := h 64 "h" ifAddrNuevo [pasaCon papLleno none] _ rfl
  exact hf.funda rfl ⟨_, List.mem_singleton_self _, papLleno, rfl, rfl⟩

/-! ## The flag -/

/-- **The flag is 0 on return** exactly when no pass has read an offer, or the last one was confirmed. -/
theorem conexion_cerrada_iff (hcDim : ℕ) (univAddr : String) (src : In6Addr) (es : List Intercambio)
    (res : Resultado) (h : getPrimAddr es (.inicio hcDim univAddr src) = some res) :
    res.node.flagConexion = false ↔
      (∀ r ∈ res.previas ++ [res.ronda], ofertas r.leidas = []) ∨ res.ronda.Confirmada := by
  refine getPrimAddr_rule (I := fun s => s.asp.node.flagConexion ↔ ∃ r ∈ s.rondas, ofertas r.leidas ≠ [])
    (Q := fun res => res.node.flagConexion = false ↔
      (∀ r ∈ res.previas ++ [res.ronda], ofertas r.leidas = []) ∨ res.ronda.Confirmada) ?_ ?_ ?_ h
  · clear h res
    intro e s s' hs h
    obtain ⟨r, n, hr, hrondas, hfijo⟩ := intercambio_otra h
    rw [(Node.fijo_eq_iff.mp hfijo).2.2, (recoger_eq_some hr).2, hs, hrondas]
    simp [or_and_right, exists_or]
  · clear h res
    intro e s res hs h
    obtain ⟨r, n, hr, hprevias, hls, hcaso⟩ := intercambio_fin h
    have hn : n.flagConexion = false ↔ ∀ r ∈ res.previas ++ [res.ronda], ofertas r.leidas = [] := by
      rw [← Bool.not_eq_true, (recoger_eq_some hr).2, hs, hprevias, ← hls]
      simp [or_imp, forall_and]
    have hsolo (hneg : cuenta r.leidas ≤ 0) (hfijo : res.node.fijo = n.fijo) :
        res.node.flagConexion = false ↔
          (∀ r ∈ res.previas ++ [res.ronda], ofertas r.leidas = []) ∨ res.ronda.Confirmada := by
      rw [or_iff_left (Ronda.not_confirmada (hls ▸ hneg)), (Node.fijo_eq_iff.mp hfijo).2.2, hn]
    rcases hcaso with ⟨-, hconf, pap, -, m, hnode⟩ | ⟨hlleno, -, -, hfijo⟩ | ⟨hneg, -, -, hfijo⟩
    · exact iff_of_true (by rw [hnode]; rfl) (Or.inr hconf)
    · exact hsolo (by rw [hlleno]; decide) hfijo
    · exact hsolo hneg hfijo
  · simp [Busca.inicio, primAddrInit]

/-- A joiner whose exchange is confirmed. -/
theorem conexion_cerrada_papRoot :
    ∃ res, getPrimAddr [pasaCon papRoot (some (.paquete .zero pancRoot))] (.inicio 64 "h" ifAddrNuevo)
        = some res
      ∧ (res.node.flagConexion = false ↔
        (∀ r ∈ res.previas ++ [res.ronda], ofertas r.leidas = []) ∨ res.ronda.Confirmada) :=
  ⟨_, rfl, conexion_cerrada_iff 64 "h" ifAddrNuevo
    [pasaCon papRoot (some (.paquete .zero pancRoot))] _ rfl⟩

/-- A pass in which nothing is read. -/
def pasaCallado : Intercambio :=
  { envPar := .zero, limite := 3, vueltas := [⟨none, 3⟩], env := .zero, confirmacion := none }

/-- An offer that is not confirmed, and then silence: the node founds a network with the flag set. -/
theorem joining_flag_leaks :
    ¬ ∀ (hcDim : ℕ) (univAddr : String) (src : In6Addr) (es : List Intercambio) (res : Resultado),
      getPrimAddr es (.inicio hcDim univAddr src) = some res → res.node.flagConexion = false := by
  intro h
  have hf := h 64 "h" ifAddrNuevo [pasaCon papRoot none, pasaCallado] _ rfl
  exact absurd hf (by decide)

end Antop
