import Antop.Dispatch
import Antop.NameTransport

/-!
# Who answers for a rendezvous address

`rv_route` looks whether the destination of a rendezvous packet lies in the address space of the node,
in a recovered one, or in that of its secondary address.  If so, the packet is processed and dropped;
otherwise it is left to the routing.

* `rvRoute`, `procesarRv` — the function, and what it does with a packet of its own.
* `responde` — the spaces the node answers for.
* `veredicto_rv_iff` — the verdict is right unless a destination in a recovered space is lost on the
  test for the secondary address.
-/

namespace Antop

open CString

/-! ## The function -/

/-- `RV_ACCEPT`. -/
def rvAccept : ℤ := 1

/-- `RV_DROP`. -/
def rvDrop : ℤ := 2

lemma rvAccept_ne_rvDrop : rvAccept ≠ rvDrop := by decide

/-- What lies at `UDP_PKT_OFF_aux`: the byte of the type, the packet that begins there, and the memory
behind it. -/
structure TramaRv where
  tipo : UChar
  rvPkt : RvCtrlPktMem
  detras : List UChar

/-- A packet as `rv_route` reads it: its addresses, and what lies behind the UDP header, with and without
the option header. -/
structure PaqueteRv where
  src : In6Addr
  dst : In6Addr
  conOpcion : TramaRv
  sinOpcion : TramaRv

/-- A packet of another node has no option header. -/
def PaqueteRv.trama (primAddr : In6Addr) (pkt : PaqueteRv) : TramaRv :=
  if pkt.src ≠ primAddr then pkt.sinOpcion else pkt.conOpcion

/-- Memory that `rv_table_add` and `answer_rv_query` find. -/
structure MemoriaRv where
  entrada : Buffer UChar 20
  strAux : Buffer UChar 20
  rvMsg : RvCtrlPktMem

/-- The variables of the rendezvous: the table, what has been sent and, which is no variable of the
daemon, the packets that were processed. -/
structure EstadoRv where
  rvTable : List EntradaRv
  enviados : List (In6Addr × RvCtrlPktMem)
  procesados : List TramaRv

/-- `RV_REG` and `RV_ADDR_LOOKUP`, the packets that are processed. -/
def TramaRv.seProcesa (t : TramaRv) : Bool := decide (t.tipo = 9 ∨ t.tipo = 10)

/-- The `switch` of `rv_route`.  It is `none` where a name runs over the end of the memory it is read
from or copied to. -/
def procesarRv (m : MemoriaRv) (t : TramaRv) (s : EstadoRv) : Option EstadoRv :=
  if t.tipo = 9 then
    (rvTableAddMem m.entrada m.strAux t.rvPkt t.detras s.rvTable).map fun rvTable =>
      { s with rvTable := rvTable, procesados := s.procesados ++ [t] }
  else if t.tipo = 10 then
    (answerRvQuery m.rvMsg t.rvPkt t.detras s.rvTable).map fun rvMsg =>
      { s with enviados := s.enviados ++ [(t.rvPkt.srcAddr, rvMsg)], procesados := s.procesados ++ [t] }
  else some s

/-- `rv_route`. -/
def rvRoute (m : MemoriaRv) (n : Node) (pkt : PaqueteRv) (s : EstadoRv) : Option (ℤ × EstadoRv) :=
  let procesar := (procesarRv m (pkt.trama n.primAddr) s).map fun s => (rvDrop, s)
  if checkAddrSpace pkt.dst n.primAddr n.primMask ≠ 0 then
    let rcvdAddrAux := n.rcvdAddr.find? fun r => checkAddrSpace pkt.dst r.primAddr r.primMask = 0
    if rcvdAddrAux = none ∧ ¬ n.secAddrFlag then some (rvAccept, s)
    else if n.secAddrFlag ∧ checkAddrSpace pkt.dst n.secAddr n.secMask ≠ 0 then some (rvAccept, s)
    else procesar
  else procesar

/-! ## The spaces of a node -/

namespace Node

/-- The address lies in a recovered space. -/
def recupera (dst : In6Addr) (n : Node) : Prop :=
  ∃ r ∈ n.rcvdAddr, checkAddrSpace dst r.primAddr r.primMask = 0

instance (dst : In6Addr) (n : Node) : Decidable (n.recupera dst) :=
  inferInstanceAs (Decidable (∃ r ∈ n.rcvdAddr, _))

/-- The node answers for the address. -/
def responde (dst : In6Addr) (n : Node) : Prop :=
  checkAddrSpace dst n.primAddr n.primMask = 0 ∨ n.recupera dst
    ∨ n.secAddrFlag ∧ checkAddrSpace dst n.secAddr n.secMask = 0

instance (dst : In6Addr) (n : Node) : Decidable (n.responde dst) :=
  inferInstanceAs (Decidable (_ ∨ _ ∨ _))

/-- The address lies in a recovered space only, and the node has a secondary address. -/
def soloRecupera (dst : In6Addr) (n : Node) : Prop :=
  n.recupera dst ∧ checkAddrSpace dst n.primAddr n.primMask ≠ 0
    ∧ n.secAddrFlag ∧ checkAddrSpace dst n.secAddr n.secMask ≠ 0

instance (dst : In6Addr) (n : Node) : Decidable (n.soloRecupera dst) :=
  inferInstanceAs (Decidable (_ ∧ _ ∧ _ ∧ _))

lemma find?_rcvdAddr_eq_none_iff (dst : In6Addr) (n : Node) :
    (n.rcvdAddr.find? fun r => checkAddrSpace dst r.primAddr r.primMask = 0) = none ↔ ¬ n.recupera dst := by
  simp [recupera]

end Node

/-! ## The verdict -/

variable {m : MemoriaRv} {n : Node} {pkt : PaqueteRv} {s s' : EstadoRv} {t : TramaRv}

/-- A packet that the function processes is processed once. -/
lemma procesados_procesarRv (h : procesarRv m t s = some s') :
    s'.procesados = s.procesados ++ if t.seProcesa then [t] else [] := by
  unfold procesarRv at h
  split_ifs at h with h9 h10
  · obtain ⟨rvTable, -, rfl⟩ := Option.map_eq_some_iff.mp h
    simp [TramaRv.seProcesa, h9]
  · obtain ⟨rvMsg, -, rfl⟩ := Option.map_eq_some_iff.mp h
    simp [TramaRv.seProcesa, h10]
  · obtain rfl := Option.some.inj h
    rw [TramaRv.seProcesa, decide_eq_false (not_or.mpr ⟨h9, h10⟩)]
    simp

/-- **What `rv_route` does**: it processes the packet of a destination in its spaces, but for one that is
only in a recovered space while there is a secondary address. -/
lemma rvRoute_eq (m : MemoriaRv) (n : Node) (pkt : PaqueteRv) (s : EstadoRv) :
    rvRoute m n pkt s =
      if n.responde pkt.dst ∧ ¬ n.soloRecupera pkt.dst then
        (procesarRv m (pkt.trama n.primAddr) s).map fun s => (rvDrop, s)
      else some (rvAccept, s) := by
  unfold rvRoute
  simp only [Node.find?_rcvdAddr_eq_none_iff]
  by_cases hprim : checkAddrSpace pkt.dst n.primAddr n.primMask = 0
  · rw [if_neg (not_not.mpr hprim), if_pos ⟨Or.inl hprim, fun h => h.2.1 hprim⟩]
  rw [if_pos hprim]
  by_cases hsec : n.secAddrFlag ∧ checkAddrSpace pkt.dst n.secAddr n.secMask ≠ 0
  · -- the test for the secondary address is the last word
    rw [if_neg fun h => h.2 hsec.1, if_pos hsec, if_neg]
    rintro ⟨hresp, hsolo⟩
    rcases hresp with h | h | h
    · exact hprim h
    · exact hsolo ⟨h, hprim, hsec⟩
    · exact hsec.2 h.2
  · have hsolo : ¬ n.soloRecupera pkt.dst := fun h => hsec h.2.2
    by_cases hnadie : ¬ n.recupera pkt.dst ∧ ¬ n.secAddrFlag
    · rw [if_pos hnadie, if_neg]
      rintro ⟨hresp, -⟩
      rcases hresp with h | h | h
      · exact hprim h
      · exact hnadie.1 h
      · exact hnadie.2 h.1
    · rw [if_neg hnadie, if_neg hsec, if_pos]
      refine ⟨?_, hsolo⟩
      by_cases hrec : n.recupera pkt.dst
      · exact Or.inr (Or.inl hrec)
      · have hflag : n.secAddrFlag := by
          by_contra hno
          exact hnadie ⟨hrec, hno⟩
        exact Or.inr (Or.inr ⟨hflag, by_contra fun hne => hsec ⟨hflag, hne⟩⟩)

/-- The verdict on a packet: it is processed, once if it is one of those that are, and dropped when the
node answers for its destination; otherwise it is accepted and nothing changes. -/
structure VeredictoRv (m : MemoriaRv) (n : Node) (pkt : PaqueteRv) (s : EstadoRv) : Prop where
  drop : n.responde pkt.dst →
    rvRoute m n pkt s = (procesarRv m (pkt.trama n.primAddr) s).map fun s => (rvDrop, s)
  unaVez : ∀ s', rvRoute m n pkt s = some (rvDrop, s') → n.responde pkt.dst
    ∧ s'.procesados = s.procesados
      ++ if (pkt.trama n.primAddr).seProcesa then [pkt.trama n.primAddr] else []
  accept : ¬ n.responde pkt.dst → rvRoute m n pkt s = some (rvAccept, s)

/-- **Rendezvous ownership**: the verdict is right exactly when the destination is not one that the node
answers for by a recovered space only, with a secondary address that the test is then made for. -/
theorem veredicto_rv_iff (m : MemoriaRv) (n : Node) (pkt : PaqueteRv) (s : EstadoRv) :
    VeredictoRv m n pkt s ↔ ¬ n.soloRecupera pkt.dst := by
  constructor
  · rintro h hsolo
    have hdrop := h.drop (Or.inr (Or.inl hsolo.1))
    rw [rvRoute_eq, if_neg fun h => h.2 hsolo] at hdrop
    obtain ⟨s', -, heq⟩ := Option.map_eq_some_iff.mp hdrop.symm
    exact rvAccept_ne_rvDrop (congrArg Prod.fst heq).symm
  · intro hsolo
    have heq := rvRoute_eq m n pkt s
    refine ⟨fun hresp => by rw [heq, if_pos ⟨hresp, hsolo⟩], ?_,
      fun hresp => by rw [heq, if_neg fun h => hresp h.1]⟩
    intro s' hs'
    rw [heq] at hs'
    split_ifs at hs' with hresp
    · obtain ⟨u, hu, hus'⟩ := Option.map_eq_some_iff.mp hs'
      obtain rfl : u = s' := congrArg Prod.snd hus'
      exact ⟨hresp.1, procesados_procesarRv hu⟩
    · exact absurd (congrArg Prod.fst (Option.some.inj hs')) rvAccept_ne_rvDrop

/-- A node with the second half of its block recovered, and a secondary address under the root. -/
def recuperadora : Node :=
  { Node.hijo with
    primMask := 2, rcvdAddr := [{ primMask := 2, primAddr := slotAddr (slotAddr root 0) 1 }]
    secAddr := slotAddr root 2, secMask := 3, secAddrFlag := true }

/-- A registration of the name `xx` for an address in the recovered half, from the root. -/
def registroRecuperado : PaqueteRv :=
  { src := root, dst := slotAddr (slotAddr root 0) 1, conOpcion := ⟨0, paqueteUsado, []⟩
    sinOpcion := ⟨9, paqueteUsado, []⟩ }

/-- The registration is not processed. -/
theorem recovered_space_lost :
    ¬ ∀ (m : MemoriaRv) (n : Node) (pkt : PaqueteRv) (s : EstadoRv), VeredictoRv m n pkt s := by
  intro h
  have hdrop := (h ⟨⟨List.replicate 20 0, rfl⟩, ⟨List.replicate 20 0, rfl⟩, paqueteUsado⟩ recuperadora
    registroRecuperado ⟨[], [], []⟩).drop (by decide)
  have hverdict := congrArg (Option.map Prod.fst) hdrop
  revert hverdict
  decide

end Antop
