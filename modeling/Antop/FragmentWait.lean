import Antop.FarOnce

/-!
# What a fragmentation waits for

A node whose `flag_fragmentacion` is set neither sends nor reads heartbeats; it waits for the `FAN`
of a neighbour it has sent a `FAR` to.  `process_far` clears the flag again when it has sent none.
`fragmentacion` has no such test.

* `Node.mandaFar` — a `FAR` was sent between two states.
* `mandaFar_fragmentacion_iff` — the neighbours that are sent one.
* **`espera_respuesta_iff`** — when the initiator of a fragmentation has an answer to wait for.
* `processFarPrimaria_espera` — the receiver always has one, or is done.
-/

namespace Antop

namespace Node

/-- A `FAR` was sent on the way from `n` to `n'`. -/
def mandaFar (n n' : Node) : Prop := ∃ m ∈ n'.out.drop n.out.length, m.2.pktTypeF = .far

instance (n n' : Node) : Decidable (n.mandaFar n') :=
  inferInstanceAs (Decidable (∃ m ∈ n'.out.drop n.out.length, m.2.pktTypeF = .far))

lemma mandaFar_of_append {n n' : Node} {sent : List (In6Addr × CtrlPkt)} (h : n'.out = n.out ++ sent) :
    n.mandaFar n' ↔ ∃ m ∈ sent, m.2.pktTypeF = .far := by
  rw [mandaFar, h, List.drop_left]

/-- `fragmentacion` sends a `FAR` exactly when some neighbour is not next to the secondary
address. -/
lemma mandaFar_fragmentacion_iff (env : Env) (n : Node) :
    n.mandaFar (n.fragmentacion env) ↔
      ∃ it ∈ n.neighTable, ¬ (n.secAddrFlag ∧ dist n.secAddr it.primAddr = 1) := by
  rw [mandaFar_of_append (congrArg Node.out (fragmentacion_eq env n))]
  constructor
  · rintro ⟨m, hm, -⟩
    obtain ⟨it, hit, hm⟩ := List.mem_flatMap.mp hm
    refine ⟨it, hit, fun hsec => ?_⟩
    rw [if_pos hsec] at hm
    exact List.not_mem_nil hm
  · rintro ⟨it, hit, hsec⟩
    refine ⟨(it.primAddr, { n with redNumero := env.macAddress }.farPkt env
      (shift n.hcDim 1 n.primMaskInicial.toNat root n.primAddr) it.primAddr n.primAddr),
      List.mem_flatMap.mpr ⟨it, hit, ?_⟩, rfl⟩
    rw [if_neg hsec]
    exact List.mem_singleton_self _

/-- **When a fragmentation has something to wait for.**  `fragmentacion` always returns with the flag
set; a `FAR` is out for it exactly when some neighbour is not next to the secondary address. -/
theorem espera_respuesta_iff (env : Env) (n : Node) :
    ((n.fragmentacion env).flagFragmentacion = true → n.mandaFar (n.fragmentacion env)) ↔
      ∃ it ∈ n.neighTable, ¬ (n.secAddrFlag ∧ dist n.secAddr it.primAddr = 1) := by
  have hflag : (n.fragmentacion env).flagFragmentacion = true := by rw [fragmentacion_eq]
  rw [← mandaFar_fragmentacion_iff env n]
  exact ⟨fun h => h hflag, fun h _ => h⟩

/-! ## The receiver -/

/-- Before its loop `process_far` sends a `FAN` and nothing else. -/
lemma out_processFarCambio {env : Env} {p : CtrlPkt} {n n' : Node}
    (h : n.processFarCambio env p = some n') : ∃ fan, n'.out = n.out ++ [fan] := by
  simp only [processFarCambio, Option.bind_eq_bind, Option.bind_eq_some_iff, addNeighbor_eq_some] at h
  obtain ⟨_, ⟨t, -, rfl⟩, h⟩ := h
  rw [← Option.some.inj h]
  exact ⟨_, rfl⟩

/-- The loop of `process_far` returns 1 only when it has sent a `FAR`. -/
lemma out_processFarEnvios (env : Env) (p : CtrlPkt) (aux3 : In6Addr) (mask : UChar) (n : Node) :
    ∃ sent, (n.processFarEnvios env p aux3 mask).1.out = n.out ++ sent
      ∧ ((n.processFarEnvios env p aux3 mask).2 = true → ∃ m ∈ sent, m.2.pktTypeF = .far) := by
  unfold processFarEnvios
  split_ifs
  · obtain ⟨t, rv, h⟩ := foldl_processFarEnvio env p n.primAddr aux3 n.neighTable n false
    refine ⟨_, congrArg (fun r => r.1.out) h, fun hany => ?_⟩
    rw [h, Bool.false_or, List.any_eq_true] at hany
    obtain ⟨it, hit, hfar⟩ := hany
    refine ⟨(it.primAddr, n.farPkt env n.primAddr it.primAddr aux3),
      List.mem_flatMap.mpr ⟨it, hit, ?_⟩, rfl⟩
    rw [if_pos (of_decide_eq_true hfar)]
    exact List.mem_singleton_self _
  · exact ⟨[], (List.append_nil _).symm, fun h => absurd h (by simp)⟩

/-- **The receiver of a `FAR`** without a secondary address sends one itself, or has cleared the
flag when it returns. -/
theorem processFarPrimaria_espera {env : Env} {p : CtrlPkt} {n n' : Node}
    (h : n.processFarPrimaria env p = some n') (hsec : n.secAddrFlag = false)
    (hflag : n'.flagFragmentacion = true) : n.mandaFar n' := by
  simp only [processFarPrimaria, Option.bind_eq_bind, Option.bind_eq_some_iff] at h
  obtain ⟨n₁, h₁, h⟩ := h
  obtain ⟨fan, hfan⟩ := out_processFarCambio h₁
  obtain ⟨sent, hout, hsent⟩ := out_processFarEnvios env p n.primAddr n.primMaskInicial n₁
  have hsec₁ : (n₁.processFarEnvios env p n.primAddr n.primMaskInicial).1.secAddrFlag = false := by
    obtain ⟨t, rv, o, heq⟩ := processFarEnvios_eq env p n.primAddr n.primMaskInicial n₁
    obtain ⟨t', o', -, rfl⟩ := processFarCambio_eq h₁
    rw [heq]
    exact hsec
  cases hr : (n₁.processFarEnvios env p n.primAddr n.primMaskInicial).2 with
  | true =>
      have hn' : n'.out = n.out ++ ([fan] ++ sent) := by
        rw [← Option.some.inj h, if_neg (by simp [hr]), ← List.append_assoc, ← hfan, ← hout]
        rfl
      obtain ⟨m, hm, hfar⟩ := hsent hr
      exact (mandaFar_of_append hn').mpr ⟨m, List.mem_append_right _ hm, hfar⟩
  | false =>
      -- no `FAR` was sent, so the fragmentation is over
      rw [← Option.some.inj h, if_pos (by simp [hr, processFarMascaras, storePrimMask, hsec₁]),
        finFragmentacion, registerRv_eq] at hflag
      exact absurd hflag Bool.false_ne_true

/-- A node below the root whose only neighbour hangs from its secondary address. -/
def soloSecundario : Node :=
  { nieto with
    secAddrFlag := true, secAddr := slotAddr root 1
    neighTable := [{ primAddr := slotAddr (slotAddr root 1) 2, secAddrConn := true, count := 0
                     primMask := 3, primMaskInicial := 3, available := true }] }

/-- Its fragmentation sends no `FAR`, and the flag stays set. -/
theorem espera_sin_far :
    ¬ ∀ (env : Env) (n : Node),
      (n.fragmentacion env).flagFragmentacion = true → n.mandaFar (n.fragmentacion env) := by
  intro h
  have hfar := h .zero soloSecundario
  rw [imp_iff_right (by rw [fragmentacion_eq]), mandaFar_fragmentacion_iff] at hfar
  revert hfar
  decide +kernel

end Node

end Antop
