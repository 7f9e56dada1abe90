import Antop.State
import Antop.Library.Transition

/-!
# The copy of the routing table

`rt_table_dump` asks the kernel for its routes and writes them into the list at `route_t`, which it keeps
from one call to the next: `data_cb` is called with each route, writes into the entry at `rt_ptr` and moves
on to the next entry, behind the last one to a new one.

* `attributesShowIpv6`, `dataCb`, `rtTableDump` — the functions, on the list with the place of `rt_ptr`.
* `entradas_rtTableDump` — what stands in the entries that are written.
* **`volcado_de_mas`** — there is always one more, so that the list is never the table.
-/

namespace Antop

open Transition

/-! ## Routes -/

/-- `struct route`, but for the field `metric`, which is never set. -/
structure Route where
  dst : In6Addr
  gtw : In6Addr
  dstMask : ℤ
  distance : ℤ
  table : UChar
deriving DecidableEq

/-- A route as the kernel sends it: the length of the prefix and the table of its header, and its
attributes. -/
structure RutaKernel where
  rtmDstLen : UChar
  rtmTable : UChar
  table : Option (BitVec 32)
  dst : Option In6Addr
  priority : Option (BitVec 32)
  gateway : Option In6Addr

/-- What an entry says about a route.  The null address stands for a gateway that is not there. -/
structure Entrada where
  dst : In6Addr
  mask : ℤ
  gtw : In6Addr
  distance : ℤ
deriving DecidableEq

def Route.entrada (rt : Route) : Entrada :=
  { dst := rt.dst, mask := rt.dstMask, gtw := rt.gtw, distance := rt.distance }

/-- The fields of an entry that a route need not set. -/
structure Restos where
  dst : In6Addr
  gtw : In6Addr
  distance : ℤ
deriving DecidableEq

def Route.restos (rt : Route) : Restos := { dst := rt.dst, gtw := rt.gtw, distance := rt.distance }

/-- The entry with the attributes of a route, where it has them. -/
def RutaKernel.sobre (r : RutaKernel) (e : Restos) : Entrada where
  dst := r.dst.getD e.dst
  mask := r.rtmDstLen.toNat
  gtw := r.gateway.getD e.gtw
  distance := (r.priority.map BitVec.toInt).getD e.distance

/-- The entry that says what the route is. -/
def RutaKernel.entrada (r : RutaKernel) : Entrada := r.sobre ⟨.zero, .zero, 0⟩

/-- The route is in the main table. -/
def RutaKernel.EnMain (r : RutaKernel) : Prop := (r.table.map BitVec.toNat).getD r.rtmTable.toNat = 254

instance : DecidablePred RutaKernel.EnMain :=
  fun r => inferInstanceAs (Decidable ((r.table.map BitVec.toNat).getD r.rtmTable.toNat = 254))

/-! ## The list -/

/-- The list at `route_t`: the entries before `rt_ptr`, the one at it, and those behind it. -/
structure ListaRutas where
  pasadas : List Route
  rtPtr : Route
  siguientes : List Route

/-- All entries. -/
def ListaRutas.todas (l : ListaRutas) : List Route := l.pasadas ++ l.rtPtr :: l.siguientes

/-- What `malloc` returns: the first entry, with what its field `next` leads to, which is not set, and the
entries with other positions. -/
structure MemRutas where
  primera : Route
  tras : List Route
  fresca : ℕ → Route

/-- `rt_ptr = rt_ptr->next`, with a new entry where there is none. -/
def avanzar (fresca : ℕ → Route) (l : ListaRutas) : ListaRutas :=
  let pasadas := l.pasadas ++ [l.rtPtr]
  match l.siguientes with
  | [] => { pasadas := pasadas, rtPtr := fresca pasadas.length, siguientes := [] }
  | rt :: siguientes => { pasadas := pasadas, rtPtr := rt, siguientes := siguientes }

/-- `attributes_show_ipv6`.  The number of the table is stored in a byte before it is compared. -/
def attributesShowIpv6 (fresca : ℕ → Route) (r : RutaKernel) (l : ListaRutas) : ListaRutas :=
  let l := { l with rtPtr := { l.rtPtr with table := (r.table.map (BitVec.setWidth 8)).getD l.rtPtr.table } }
  if r.table.isSome ∧ l.rtPtr.table ≠ 254 then l
  else
    avanzar fresca { l with rtPtr := { l.rtPtr with
      dst := r.dst.getD l.rtPtr.dst
      distance := (r.priority.map BitVec.toInt).getD l.rtPtr.distance
      gtw := r.gateway.getD l.rtPtr.gtw } }

/-- `data_cb`, for a route of the family `AF_INET6`. -/
def dataCb (fresca : ℕ → Route) (l : ListaRutas) (r : RutaKernel) : ListaRutas :=
  attributesShowIpv6 fresca r { l with rtPtr := { l.rtPtr with dstMask := r.rtmDstLen.toNat } }

/-- `rt_ptr = route_t`, with a first entry where there is none. -/
def alPrincipio (m : MemRutas) : List Route → ListaRutas
  | [] => { pasadas := [], rtPtr := m.primera, siguientes := m.tras }
  | rt :: siguientes => { pasadas := [], rtPtr := rt, siguientes := siguientes }

/-- `rt_table_dump`: the list that it returns, when the kernel answers. -/
def rtTableDump (m : MemRutas) (tabla : List RutaKernel) (routeT : List Route) : List Route :=
  (tabla.foldl (dataCb m.fresca) (alPrincipio m routeT)).todas

/-! ## What is written -/

/-- The route is not skipped: its table has no attribute, or its number ends in 254. -/
def RutaKernel.Aceptada (r : RutaKernel) : Prop := ∀ t ∈ r.table, t.setWidth 8 = (254 : UChar)

instance : DecidablePred RutaKernel.Aceptada :=
  fun r => inferInstanceAs (Decidable (∀ t ∈ r.table, t.setWidth 8 = (254 : UChar)))

lemma RutaKernel.EnMain.aceptada {r : RutaKernel} (h : r.EnMain) : r.Aceptada := by
  intro t ht
  rw [RutaKernel.EnMain, Option.mem_def.mp ht] at h
  have ht : t.toNat = 254 := h
  exact BitVec.eq_of_toNat_eq (by rw [BitVec.toNat_setWidth, ht]; rfl)

variable {fresca : ℕ → Route}

/-- A route that is skipped leaves nothing behind but the fields that each route sets. -/
lemma dataCb_of_not_aceptada {r : RutaKernel} (h : ¬ r.Aceptada) (l : ListaRutas) :
    ∃ rt, rt.restos = l.rtPtr.restos ∧ dataCb fresca l r = { l with rtPtr := rt } := by
  obtain ⟨t, ht, hne⟩ : ∃ t, r.table = some t ∧ t.setWidth 8 ≠ (254 : UChar) := by
    simpa [RutaKernel.Aceptada] using h
  refine ⟨{ l.rtPtr with dstMask := r.rtmDstLen.toNat, table := t.setWidth 8 }, rfl, ?_⟩
  rw [dataCb, attributesShowIpv6, ht]
  exact if_pos ⟨rfl, hne⟩

/-- One that is not skipped is written over what stands in the entry. -/
lemma dataCb_of_aceptada {r : RutaKernel} (h : r.Aceptada) (l : ListaRutas) :
    ∃ rt, rt.entrada = r.sobre l.rtPtr.restos ∧ dataCb fresca l r = avanzar fresca { l with rtPtr := rt } := by
  have hno : ¬ (r.table.isSome ∧ (r.table.map (BitVec.setWidth 8)).getD l.rtPtr.table ≠ 254) := by
    rintro ⟨hsome, hne⟩
    obtain ⟨t, ht⟩ := Option.isSome_iff_exists.mp hsome
    exact hne (by simpa [ht] using h t ht)
  refine ⟨_, ?_, if_neg hno⟩
  rfl

/-- What stands in the entry with the position `i` before it is written: what is in the list, or in new
memory. -/
def ListaRutas.vieja (fresca : ℕ → Route) (l : ListaRutas) (i : ℕ) : Restos :=
  (l.todas[i]?.getD (fresca i)).restos

lemma vieja_rtPtr (l : ListaRutas) : l.vieja fresca l.pasadas.length = l.rtPtr.restos := by
  simp [ListaRutas.vieja, ListaRutas.todas]

/-- Behind `rt_ptr` the list is not touched. -/
lemma vieja_of_restos {l : ListaRutas} {rt : Route} (h : rt.restos = l.rtPtr.restos) {i : ℕ}
    (hi : l.pasadas.length ≤ i) : ListaRutas.vieja fresca { l with rtPtr := rt } i = l.vieja fresca i := by
  rcases hi.eq_or_lt with rfl | hlt
  · rw [vieja_rtPtr l, ← h]
    exact vieja_rtPtr { l with rtPtr := rt }
  · obtain ⟨k, rfl⟩ := Nat.exists_eq_add_of_lt hlt
    simp [ListaRutas.vieja, ListaRutas.todas, List.getElem?_append_right, Nat.add_assoc]

lemma vieja_avanzar (l : ListaRutas) (rt : Route) {i : ℕ} (hi : l.pasadas.length < i) :
    (avanzar fresca { l with rtPtr := rt }).vieja fresca i = l.vieja fresca i := by
  obtain ⟨k, rfl⟩ := Nat.exists_eq_add_of_lt hi
  rcases hsig : l.siguientes with _ | ⟨rt', siguientes⟩
  · cases k with
    | zero => simp [ListaRutas.vieja, ListaRutas.todas, avanzar, hsig]
    | succ k => simp [ListaRutas.vieja, ListaRutas.todas, avanzar, hsig, Nat.add_assoc]
  · simp [ListaRutas.vieja, ListaRutas.todas, avanzar, hsig, List.getElem?_append_right, Nat.add_assoc]

lemma pasadas_avanzar (l : ListaRutas) : (avanzar fresca l).pasadas = l.pasadas ++ [l.rtPtr] := by
  unfold avanzar
  dsimp only
  split <;> rfl

/-- **The entries that are written**: each route that is not skipped is written over what an earlier
call has left in the next entry. -/
lemma foldl_dataCb (tabla : List RutaKernel) (l : ListaRutas) :
    (tabla.foldl (dataCb fresca) l).pasadas.map Route.entrada = l.pasadas.map Route.entrada
      ++ (tabla.filter fun r => r.Aceptada).mapIdx fun i r => r.sobre (l.vieja fresca (l.pasadas.length + i)) := by
  induction tabla generalizing l with
  | nil => simp
  | cons r tabla ih =>
      rw [List.foldl_cons, ih]
      by_cases hr : r.Aceptada
      · obtain ⟨rt, hrt, heq⟩ := @dataCb_of_aceptada fresca r hr l
        have hlen : (avanzar fresca { l with rtPtr := rt }).pasadas = l.pasadas ++ [rt] := pasadas_avanzar _
        rw [heq, hlen, List.filter_cons_of_pos (by simpa using hr), List.mapIdx_cons, List.map_append,
          List.append_assoc, List.map_singleton, hrt, Nat.add_zero, vieja_rtPtr, List.singleton_append]
        refine congrArg (_ ++ _ :: ·) (List.mapIdx_eq_mapIdx_iff.mpr fun i hi => ?_)
        rw [List.length_append, List.length_singleton, Nat.add_assoc, Nat.add_comm 1 i]
        exact congrArg _ (vieja_avanzar l rt (by omega))
      · obtain ⟨rt, hrt, heq⟩ := @dataCb_of_not_aceptada fresca r hr l
        rw [heq, List.filter_cons_of_neg (by simpa using hr)]
        refine congrArg (_ ++ ·) (List.mapIdx_eq_mapIdx_iff.mpr fun i hi => ?_)
        exact congrArg _ (vieja_of_restos hrt (Nat.le_add_right ..))

/-! ## What is returned -/

/-- The list says what the main table is. -/
def VolcadoFiel (tabla : List RutaKernel) (lista : List Route) : Prop :=
  lista.map Route.entrada = (tabla.filter fun r => r.EnMain).map RutaKernel.entrada

instance (tabla : List RutaKernel) (lista : List Route) : Decidable (VolcadoFiel tabla lista) :=
  inferInstanceAs (Decidable (lista.map Route.entrada = (tabla.filter fun r => r.EnMain).map RutaKernel.entrada))

/-- The routes that are not skipped. -/
def aceptadas (tabla : List RutaKernel) : List RutaKernel := tabla.filter fun r => r.Aceptada

/-- What an earlier call has left in the entry `i`. -/
def resto (m : MemRutas) (routeT : List Route) (i : ℕ) : Restos := (alPrincipio m routeT).vieja m.fresca i

lemma pasadas_alPrincipio (m : MemRutas) (routeT : List Route) : (alPrincipio m routeT).pasadas = [] := by
  cases routeT <;> rfl

/-- **The list that is returned**: an entry for each route that is not skipped, and behind them the one
at `rt_ptr` and those that are left from earlier calls. -/
theorem entradas_rtTableDump (m : MemRutas) (tabla : List RutaKernel) (routeT : List Route) :
    ∃ cells rt tras, rtTableDump m tabla routeT = cells ++ rt :: tras
      ∧ cells.map Route.entrada = (aceptadas tabla).mapIdx fun i r => r.sobre (resto m routeT i) := by
  refine ⟨_, _, _, rfl, ?_⟩
  rw [foldl_dataCb, pasadas_alPrincipio, List.map_nil, List.nil_append]
  simp [aceptadas, resto]

/-- The routes of the main table are not skipped. -/
lemma filter_enMain (tabla : List RutaKernel) :
    (tabla.filter fun r => r.EnMain) = (aceptadas tabla).filter fun r => r.EnMain := by
  rw [aceptadas, List.filter_filter]
  refine List.filter_congr fun r _ => ?_
  by_cases h : r.EnMain
  · simp [h, h.aceptada]
  · simp [h]

lemma length_enMain_le (tabla : List RutaKernel) :
    (tabla.filter fun r => r.EnMain).length ≤ (aceptadas tabla).length := by
  rw [filter_enMain]
  exact List.length_filter_le ..

/-- A call of `rt_table_dump`. -/
def volcar (routeT : List Route) (e : MemRutas × List RutaKernel) : Option (List Route) :=
  some (rtTableDump e.1 e.2 routeT)

/-- **There is one entry too many**, at least, after each call of every run. -/
theorem volcado_de_mas (routeT : List Route) (es : List (MemRutas × List RutaKernel)) :
    ∀ t ∈ steps volcar routeT es, ¬ VolcadoFiel t.2.1.2 t.2.2 := by
  intro t ht hfiel
  obtain ⟨routeT', ⟨m, tabla⟩, lista⟩ := t
  obtain rfl : rtTableDump m tabla routeT' = lista := Option.some.inj (step_of_mem_steps ht)
  obtain ⟨cells, rt, tras, heq, hcells⟩ := entradas_rtTableDump m tabla routeT'
  have hlen := congrArg List.length hfiel
  have hk := congrArg List.length hcells
  have hle := length_enMain_le tabla
  simp only [heq, List.length_map, List.length_append, List.length_cons, List.length_mapIdx] at hlen hk
  omega

/-- The entry of `rt_info_init`. -/
def rutaVacia : Route := { dst := .zero, gtw := .zero, dstMask := 0, distance := 0, table := 0 }

/-- A host route of the main table with a gateway. -/
def rutaConGtw : RutaKernel :=
  { rtmDstLen := 128, rtmTable := 254, table := some 254, priority := some 1
    dst := some (.ofWords 0x0120 0xb80d 0 0 0x0080 0 0 0x0100), gateway := some root }

/-- After one route the list has two entries. -/
theorem dump_keeps_empty_entry : ¬ ∀ es : List (MemRutas × List RutaKernel),
    ∀ t ∈ steps volcar [rutaVacia] es, VolcadoFiel t.2.1.2 t.2.2 := by
  intro h
  have hbad := h [(⟨rutaVacia, [], fun _ => rutaVacia⟩, [rutaConGtw])]
  exact absurd hbad (by decide)

/-- The empty entry is still there behind the route. -/
theorem volcado_de_mas_rutaConGtw :
    ¬ VolcadoFiel [rutaConGtw] (rtTableDump ⟨rutaVacia, [], fun _ => rutaVacia⟩ [rutaConGtw] [rutaVacia]) :=
  volcado_de_mas [rutaVacia] [(⟨rutaVacia, [], fun _ => rutaVacia⟩, [rutaConGtw])]
    ([rutaVacia], (⟨rutaVacia, [], fun _ => rutaVacia⟩, [rutaConGtw]), _) (List.mem_singleton_self _)

/-! ## Without the entries that are too many -/

/-- A route shows all of its entry when the attributes that it does not have are null in the entry. -/
lemma sobre_eq_entrada_iff (r : RutaKernel) (e : Restos) :
    r.sobre e = r.entrada ↔ (r.dst = none → e.dst = .zero) ∧ (r.gateway = none → e.gtw = .zero)
      ∧ (r.priority = none → e.distance = 0) := by
  obtain ⟨len, rtm, table, dst, priority, gateway⟩ := r
  cases dst <;> cases priority <;> cases gateway <;>
    simp [RutaKernel.sobre, RutaKernel.entrada]

/-- **Apart from these entries** a call returns the main table exactly when no other table has a number
that ends in 254, and each route that lacks an attribute meets an entry where it is null. -/
theorem volcado_sin_sobrantes_iff (m : MemRutas) (tabla : List RutaKernel) (routeT : List Route) :
    VolcadoFiel tabla ((rtTableDump m tabla routeT).take (aceptadas tabla).length) ↔
      (∀ r ∈ aceptadas tabla, r.EnMain) ∧ ∀ i r, (aceptadas tabla)[i]? = some r →
        (r.dst = none → (resto m routeT i).dst = .zero) ∧ (r.gateway = none → (resto m routeT i).gtw = .zero)
          ∧ (r.priority = none → (resto m routeT i).distance = 0) := by
  obtain ⟨cells, rt, tras, heq, hcells⟩ := entradas_rtTableDump m tabla routeT
  have hk : cells.length = (aceptadas tabla).length := by simpa using congrArg List.length hcells
  rw [VolcadoFiel, heq, ← hk, List.take_left, hcells, filter_enMain]
  have hpoint : ((aceptadas tabla).mapIdx fun i r => r.sobre (resto m routeT i))
      = (aceptadas tabla).map RutaKernel.entrada ↔
        ∀ (i : ℕ) (r : RutaKernel), (aceptadas tabla)[i]? = some r → r.sobre (resto m routeT i) = r.entrada := by
    rw [List.ext_getElem?_iff]
    refine forall_congr' fun i => ?_
    rw [List.getElem?_mapIdx, List.getElem?_map]
    cases (aceptadas tabla)[i]? <;> simp
  simp only [← sobre_eq_entrada_iff]
  constructor
  · intro h
    have hlen : ((aceptadas tabla).filter fun r => r.EnMain).length = (aceptadas tabla).length := by
      simpa using (congrArg List.length h).symm
    have hall : ∀ r ∈ aceptadas tabla, r.EnMain := by
      simpa using List.length_filter_eq_length_iff.mp hlen
    rw [List.filter_eq_self.mpr (by simpa using hall)] at h
    exact ⟨hall, hpoint.mp h⟩
  · rintro ⟨hall, h⟩
    rw [List.filter_eq_self.mpr (by simpa using hall)]
    exact hpoint.mpr h

end Antop
