import Antop.FromAddress
import Antop.Rendezvous

/-!
# The buffers of the names

A name enters the daemon on the command line or in a DNS query, and is copied from buffer to buffer, at one
node and at the next: `register_rv` and `solve_name` copy it into a packet of 50 characters, `rv_table_add`
into two buffers of 20, `answer_dns_query` into one of 150, and `answer_rv_query` into a packet again.  None
of them asks how long it is.

* `RegistroCabe`, `ConsultaCabe` — the copies of a registration fit, and those of a query.
* `registroCabe_iff`, `consultaCabe_iff` — when they do.
* **`nombres_caben_iff`** — both, in every state of the node that asks.
-/

namespace Antop

open CString Transition

/-- The copies of a registration fit: that of `register_rv`, and at the server those of `rv_table_add`. -/
structure RegistroCabe (m : Memoria) (registrado : In6Addr) (univAddr : List UChar)
    (rvTable : List EntradaRv) : Prop where
  registerRv : (m.reg.univAddr.strcpy univAddr).isSome
  rvTableAdd : ∀ p, registerRvPkt m.reg registrado univAddr = some p →
    (entradaGuardada m.entrada m.strAux p m.trasReg rvTable).isSome

/-- The copies of a query fit: those of `answer_dns_query`, that of `solve_name` for a name that is not in the
cache, and at the server, when a lookup is sent, that of `answer_rv_query`. -/
structure ConsultaCabe (m : Memoria) (auxStr : Buffer UChar 150) (sin : SinIniciar) (data : List UChar)
    (s : Rendezvous) : Prop where
  answerDnsQuery : (decodificar auxStr data).isSome
  solveName : ∀ uaddr, decodificar auxStr data = some uaddr →
    (¬ s.cachedTable.any fun e => e.coincide uaddr) → (m.lookup.univAddr.strcpy uaddr).isSome
  answerRvQuery : ∀ uaddr s' q, decodificar auxStr data = some uaddr →
    Rendezvous.step s (.answerDnsQuery auxStr sin data) = some s' → Rendezvous.enviado s s' ≠ [] →
    solveNamePkt m.lookup s.node.primAddr uaddr = some q →
    ∃ nombre, q.leerNombre m.trasLookup = some nombre ∧ (m.solve.univAddr.strcpy nombre).isSome

/-- Fresh memory has a zero behind the name, before the character `k`. -/
def CeroAntes (heap : RvCtrlPktMem) (nombre : List UChar) (k : ℕ) : Prop :=
  0 ∈ (heap.univAddr.units.take k).drop nombre.length

/-! ## A registration -/

lemma CeroAntes.length_lt {heap : RvCtrlPktMem} {nombre : List UChar} {k : ℕ} (h : CeroAntes heap nombre k) :
    nombre.length < k := by
  have hne := List.length_pos_of_mem h
  rw [List.length_drop, List.length_take] at hne
  omega

/-- **A registration fits** when fresh memory ends the name within 20 characters. -/
theorem registroCabe_iff {m : Memoria} {registrado : In6Addr} {univAddr : List UChar}
    {rvTable : List EntradaRv} (hu : CStr univAddr) :
    RegistroCabe m registrado univAddr rvTable ↔ CeroAntes m.reg univAddr 20 := by
  have hcopia {p : RvCtrlPktMem} (hp : registerRvPkt m.reg registrado univAddr = some p) :
      m.reg.univAddr.memcpy univAddr = some p.univAddr := by
    obtain ⟨u, hu, rfl⟩ := Option.map_eq_some_iff.mp hp
    exact hu
  constructor
  · intro h
    have hlt := Buffer.isSome_strcpy_iff.mp h.registerRv
    obtain ⟨u, hmem, -⟩ := m.reg.univAddr.exists_memcpy univAddr hlt.le
    have hp : registerRvPkt m.reg registrado univAddr
        = some { m.reg with type := .rvReg, primAddr := registrado, univAddr := u } := by
      rw [registerRvPkt, hmem, Option.map_some]
    obtain ⟨e, he⟩ := Option.isSome_iff_exists.mp (h.rvTableAdd _ hp)
    exact (Buffer.exists_cstr_memcpy_lt_iff hu (hcopia hp) (by decide) m.trasReg).mp
      ⟨e.nombre, (entradaGuardada_nombre he).1, e.length_nombre⟩
  · intro h
    have hlt := h.length_lt
    refine ⟨Buffer.isSome_strcpy_iff.mpr (by omega), fun p hp => ?_⟩
    obtain ⟨nombre, hleido, hcorto⟩ :=
      (Buffer.exists_cstr_memcpy_lt_iff hu (hcopia hp) (by decide) m.trasReg).mpr h
    obtain ⟨e, he⟩ := exists_entradaGuardada m.entrada m.strAux p rvTable hleido (Nat.le_of_lt_succ hcorto)
    rw [he]
    rfl

/-! ## A query -/

/-- What is looked up is the string at the question without its first octet. -/
lemma cstr_of_decodificar {auxStr : Buffer UChar 150} {data uaddr : List UChar}
    (h : decodificar auxStr data = some uaddr) :
    ∃ largo, cstr (data.drop ipv6MdnsQueryOff) = some (largo :: uaddr) := by
  have hpasos := h
  simp only [decodificar, Option.bind_eq_bind, Option.bind_eq_some_iff] at hpasos
  obtain ⟨qname, hq, aux, haux, _, hne, -⟩ := hpasos
  cases qname with
  | nil => simp [guard] at hne
  | cons largo resto =>
      have hlt : (largo :: resto).length < 150 :=
        Buffer.isSome_strcpy_iff.mp (Option.isSome_iff_exists.mpr ⟨aux, haux⟩)
      rw [List.length_cons] at hlt
      rw [decodificar_cons hq (by omega), Option.some.injEq] at h
      exact ⟨largo, h ▸ hq⟩

/-- There are no servers for the empty name. -/
lemma distributeInHc_nil (hcDim : ℕ) (rvServers : List In6Addr) :
    distributeInHc hcDim nserverRv [] rvServers = none := by
  rw [distributeInHc_eq]
  rfl

/-- For the empty name no lookup is sent. -/
lemma enviado_nil {auxStr : Buffer UChar 150} {sin : SinIniciar} {data : List UChar} {s s' : Rendezvous}
    (hdec : decodificar auxStr data = some [])
    (h : Rendezvous.step s (.answerDnsQuery auxStr sin data) = some s') : Rendezvous.enviado s s' = [] := by
  rw [Rendezvous.step, Rendezvous.answerDnsQuery, hdec, Option.bind_some, Rendezvous.solveName,
    distributeInHc_nil] at h
  split_ifs at h
  · obtain rfl := Option.some.inj h
    exact List.drop_length
  · exact absurd h (by simp)

/-- **A query fits** when its string is not empty, and fresh memory ends the name without the first octet
within 50 characters, or nothing is left of it. -/
theorem consultaCabe_iff {m : Memoria} {auxStr : Buffer UChar 150} {sin : SinIniciar} {data : List UChar}
    {hcDim : ℕ} {propio : List UChar} {s : Rendezvous} (hs : Rendezvous.Coherente hcDim propio s) :
    ConsultaCabe m auxStr sin data s ↔
      ∃ largo uaddr, cstr (data.drop ipv6MdnsQueryOff) = some (largo :: uaddr)
        ∧ (uaddr = [] ∨ CeroAntes m.lookup uaddr 50) := by
  have hcopia {uaddr : List UChar} {q : RvCtrlPktMem}
      (hq : solveNamePkt m.lookup s.node.primAddr uaddr = some q) :
      m.lookup.univAddr.memcpy uaddr = some q.univAddr := by
    obtain ⟨u, hu, rfl⟩ := Option.map_eq_some_iff.mp hq
    exact hu
  constructor
  · intro h
    obtain ⟨uaddr, hdec⟩ := Option.isSome_iff_exists.mp h.answerDnsQuery
    obtain ⟨largo, hq⟩ := cstr_of_decodificar hdec
    have hstr : CStr uaddr := fun b hb => CStr.of_cstr hq b (List.mem_cons_of_mem _ hb)
    refine ⟨largo, uaddr, hq, ?_⟩
    by_cases hne : uaddr = []
    · exact Or.inl hne
    · -- the lookup is sent, and read at the server
      obtain ⟨servers, main, -, -, hstep⟩ := Rendezvous.solveName_eq sin hstr hne hs
      have hlt := Buffer.isSome_strcpy_iff.mp (h.solveName uaddr hdec (hs.not_cached hstr hne))
      obtain ⟨u, hmem, -⟩ := m.lookup.univAddr.exists_memcpy uaddr hlt.le
      have hpkt : solveNamePkt m.lookup s.node.primAddr uaddr = some { m.lookup with
          type := .rvAddrLookup, primAddr := s.node.primAddr, univAddr := u, srcAddr := s.node.primAddr } := by
        rw [solveNamePkt, hmem, Option.map_some]
      have hrun : Rendezvous.step s (.answerDnsQuery auxStr sin data) = s.solveName sin uaddr := by
        rw [Rendezvous.step, Rendezvous.answerDnsQuery, hdec, Option.bind_some]
      obtain ⟨nombre, hleido, hcabe⟩ := h.answerRvQuery uaddr _ _ hdec (hrun.trans hstep)
        (by simp [Rendezvous.enviado]) hpkt
      exact Or.inr ((Buffer.exists_cstr_memcpy_lt_iff hstr (hcopia hpkt) le_rfl m.trasLookup).mp
        ⟨nombre, hleido, Buffer.isSome_strcpy_iff.mp hcabe⟩)
  · rintro ⟨largo, uaddr, hq, hcero⟩
    have hstr : CStr uaddr := fun b hb => CStr.of_cstr hq b (List.mem_cons_of_mem _ hb)
    have hlt : uaddr.length < 50 := by
      rcases hcero with rfl | hcero
      · decide
      · exact hcero.length_lt
    have hdec : decodificar auxStr data = some uaddr := decodificar_cons hq (by omega) auxStr
    refine ⟨hdec ▸ rfl, fun u hu _ => ?_, fun u s' q hu hstep hsend hpkt => ?_⟩
    · obtain rfl := Option.some.inj (hdec.symm.trans hu)
      exact Buffer.isSome_strcpy_iff.mpr hlt
    · obtain rfl := Option.some.inj (hdec.symm.trans hu)
      rcases hcero with rfl | hcero
      · exact absurd (enviado_nil hdec hstep) hsend
      · obtain ⟨nombre, hleido, hcorto⟩ :=
          (Buffer.exists_cstr_memcpy_lt_iff hstr (hcopia hpkt) le_rfl m.trasLookup).mpr hcero
        exact ⟨nombre, hleido, Buffer.isSome_strcpy_iff.mpr hcorto⟩

/-! ## Every name -/

/-- A query for an address, to the port 53, with the question `qname`. -/
def consultaDns (qname : List UChar) : List UChar :=
  List.replicate 75 0 ++ [53] ++ List.replicate 6 0 ++ [1, 0, 0, 1] ++ List.replicate 6 0 ++
    (qname ++ 0 :: [0, 28, 0, 1])

/-- **No question is too long** for `print_pkt`. -/
theorem esConsulta_consultaDns {qname : List UChar} (h : CStr qname) :
    esConsulta (consultaDns qname) ∧ cstr ((consultaDns qname).drop ipv6MdnsQueryOff) = some qname := by
  have hdrop : (consultaDns qname).drop 92 = qname ++ 0 :: [0, 28, 0, 1] := rfl
  have hleido : cstr ((consultaDns qname).drop 92) = some qname := by
    rw [hdrop]
    exact cstr_append_zero h _
  have htake : ((consultaDns qname).drop 92).takeWhile (· ≠ 0) = qname := by
    rw [hdrop, List.takeWhile_append_of_pos fun b hb => by simpa using h b hb]
    simp
  refine ⟨⟨?_, ?_, rfl, rfl, ?_⟩, hleido⟩
  · rw [campo16, show byte (consultaDns qname) 72 = 0 from rfl,
      show byte (consultaDns qname) (72 + 1) = 0 from rfl]
    decide
  · rw [campo16, show byte (consultaDns qname) 74 = 0 from rfl,
      show byte (consultaDns qname) (74 + 1) = 53 from rfl]
    decide
  · rw [htake, byte, List.getD_eq_getElem?_getD,
      show 80 + 12 + qname.length + 2 = 92 + (qname.length + 2) by omega, ← List.getElem?_drop, hdrop,
      List.getElem?_append_right (by omega), Nat.add_sub_cancel_left]
    rfl

/-- **The names fit.**  In every state of the node that asks, the copies of a registration and of a query fit
exactly when fresh memory ends the registered name within 20 characters and the name that is asked for within
50, and there is a name in the question. -/
theorem nombres_caben_iff (n : Node) (propio : List UChar) (hcAddr main : In6Addr) (dir : ℕ)
    (es : List Rendezvous.Evento) {s : Rendezvous}
    (hs : s ∈ states Rendezvous.step (Rendezvous.rvTablesInit n propio hcAddr main dir) es)
    (m : Memoria) (registrado : In6Addr) {univAddr : List UChar} (hu : CStr univAddr)
    (rvTable : List EntradaRv) (auxStr : Buffer UChar 150) (sin : SinIniciar) (data : List UChar) :
    (RegistroCabe m registrado univAddr rvTable ∧ ConsultaCabe m auxStr sin data s) ↔
      CeroAntes m.reg univAddr 20 ∧ ∃ largo uaddr, cstr (data.drop ipv6MdnsQueryOff) = some (largo :: uaddr)
        ∧ (uaddr = [] ∨ CeroAntes m.lookup uaddr 50) := by
  have hcoh : Rendezvous.Coherente n.hcDim propio s :=
    invariant (fun _ _ _ hs h => hs.step h) (Rendezvous.coherente_rvTablesInit n propio hcAddr main dir) s hs
  exact and_congr (registroCabe_iff hu) (consultaCabe_iff hcoh)

/-- A packet filled with zeros. -/
def paqueteCero : RvCtrlPktMem where
  type := .rvReg
  flags := 0
  id := 0
  n := 0
  primAddr := .zero
  univAddr := ⟨List.replicate 50 0, rfl⟩
  srcAddr := .zero

/-- Memory that is filled with zeros. -/
def memoriaCero : Memoria :=
  ⟨paqueteCero, [], .filled 20 0, .filled 20 0, paqueteCero, [], paqueteCero, []⟩

/-- The node `b` asks for the name `a`. -/
theorem nombres_caben_a : CStr ([97] : List UChar) ∧
    ((RegistroCabe memoriaCero root [97] []
        ∧ ConsultaCabe memoriaCero ⟨List.replicate 150 0, rfl⟩ .zero (consultaDns [1, 97])
          (Rendezvous.arranque [98])) ↔
      CeroAntes memoriaCero.reg [97] 20
        ∧ ∃ largo uaddr, cstr ((consultaDns [1, 97]).drop ipv6MdnsQueryOff) = some (largo :: uaddr)
          ∧ (uaddr = [] ∨ CeroAntes memoriaCero.lookup uaddr 50)) := by
  have h : CStr ([97] : List UChar) := by simp [CStr]
  exact ⟨h, nombres_caben_iff (primAddrInit 64 (texto [98])) [98] .zero .zero 4096 [] (mem_states_self _ _)
    memoriaCero root h [] _ .zero _⟩

/-- A name of 20 characters, in memory that is filled with zeros: its final zero does not fit any more into
`str_aux`. -/
theorem name_of_20_does_not_fit :
    ¬ ∀ (n : Node) (propio : List UChar) (hcAddr main : In6Addr) (dir : ℕ) (es : List Rendezvous.Evento)
      (s : Rendezvous), s ∈ states Rendezvous.step (Rendezvous.rvTablesInit n propio hcAddr main dir) es →
      ∀ (m : Memoria) (registrado : In6Addr) (univAddr : List UChar), CStr univAddr →
      ∀ (rvTable : List EntradaRv) (auxStr : Buffer UChar 150) (sin : SinIniciar) (data : List UChar),
        esConsulta data → RegistroCabe m registrado univAddr rvTable ∧ ConsultaCabe m auxStr sin data s := by
  intro h
  have hu : CStr (List.replicate 20 (97 : UChar)) := by
    intro b hb
    rw [List.eq_of_mem_replicate hb]
    decide
  have hquery : CStr ([1, 97] : List UChar) := by simp [CStr]
  obtain ⟨hregistro, -⟩ := h (primAddrInit 64 (texto [98])) [98] .zero .zero 4096 [] _ (mem_states_self _ _)
    memoriaCero root (List.replicate 20 97) hu [] ⟨List.replicate 150 0, rfl⟩ .zero (consultaDns [1, 97])
    (esConsulta_consultaDns hquery).1
  have hcero := (registroCabe_iff hu).mp hregistro
  exact absurd hcero (by simp [CeroAntes, memoriaCero, paqueteCero])

end Antop
