import Antop.RouteDump
import Antop.Library.Loop

/-!
# The routes of an old address

When a node is renumbered, `fragmentacion`, `process_far`, `process_mar1` and `process_mar2` call
`borrar_tabla_de_rutas` with the list at `route_t`, so that no route to an old address is left.  The parts
of its `for` stand in the wrong places: the condition is `rt->next, i++`, the value of the counter before
it is incremented, and the step is `rt!=NULL`, which changes nothing.

* `vueltaBorrar`, `borrarTablaDeRutas`, `borrarRutas` — one round of the loop, the function, and the call
  that all four make.
* **`rutas_borradas_iff`** — the routes are deleted exactly when there are none.
-/

namespace Antop

/-- One round of the loop over `rt`, with the counter and the calls of `del_rt_route` so far: the
condition, then the body, and then the step, after which `rt` is the same.  The condition reads `rt->next`,
which for `NULL` is a crash. -/
def vueltaBorrar (rt : List Route) (_ : Unit) (s : ℤ × List Entrada) :
    (ℤ × List Entrada) ⊕ Option (List Entrada) :=
  match rt with
  | [] => .inr none
  | r :: _ => if s.1 ≠ 0 then .inl (s.1 + 1, s.2 ++ [r.entrada]) else .inr (some s.2)

/-- `borrar_tabla_de_rutas` after some rounds: the calls of `del_rt_route`, when it has returned. -/
def borrarTablaDeRutas (rondas : ℕ) (rt : List Route) : (ℤ × List Entrada) ⊕ Option (List Entrada) :=
  Loop.run (vueltaBorrar rt) (List.replicate rondas ()) (0, [])

/-- What its callers do: `if(route_t!=NULL) borrar_tabla_de_rutas(route_t)`. -/
def borrarRutas (rondas : ℕ) (routeT : List Route) : (ℤ × List Entrada) ⊕ Option (List Entrada) :=
  if routeT ≠ [] then borrarTablaDeRutas rondas routeT else .inr (some [])

/-- The call returns, and `del_rt_route` has been called once for each entry, with what the entry says. -/
def RutasBorradas (routeT : List Route) : Prop :=
  ∃ rondas, borrarRutas rondas routeT = .inr (some (routeT.map Route.entrada))

/-- The counter is 0 when the condition is evaluated for the first time: the loop has no round. -/
lemma borrarTablaDeRutas_cons (rondas : ℕ) (r : Route) (rt : List Route) :
    borrarTablaDeRutas (rondas + 1) (r :: rt) = .inr (some []) := rfl

/-- **Old routes are deleted** exactly when there are none. -/
theorem rutas_borradas_iff (routeT : List Route) : RutasBorradas routeT ↔ routeT = [] := by
  cases routeT with
  | nil => exact iff_of_true ⟨0, rfl⟩ rfl
  | cons r rt =>
      refine iff_of_false ?_ (List.cons_ne_nil r rt)
      rintro ⟨rondas, h⟩
      rw [borrarRutas, if_pos (List.cons_ne_nil r rt)] at h
      cases rondas with
      | zero => exact absurd h (by simp [borrarTablaDeRutas, Loop.run])
      | succ rondas =>
          rw [borrarTablaDeRutas_cons] at h
          simp at h

/-- The route of one entry stays. -/
theorem borrar_tabla_keeps_routes : ¬ ∀ routeT : List Route, RutasBorradas routeT := by
  intro h
  obtain ⟨rondas, hbad⟩ := h [rutaVacia]
  cases rondas with
  | zero => exact absurd hbad (by decide)
  | succ rondas =>
      have hnada : borrarRutas (rondas + 1) [rutaVacia] = .inr (some []) := rfl
      rw [hnada] at hbad
      simp at hbad

/-! ## After a dump -/

/-- `rt_table_dump` returns at least one entry. -/
lemma rtTableDump_ne_nil (m : MemRutas) (tabla : List RutaKernel) (routeT : List Route) :
    rtTableDump m tabla routeT ≠ [] := by
  obtain ⟨cells, rt, tras, heq, -⟩ := entradas_rtTableDump m tabla routeT
  simp [heq]

/-- **No route of a dumped table is deleted**: the call returns at once. -/
theorem borrarRutas_rtTableDump (m : MemRutas) (tabla : List RutaKernel) (routeT : List Route)
    (rondas : ℕ) : borrarRutas (rondas + 1) (rtTableDump m tabla routeT) = .inr (some []) := by
  cases hvolcado : rtTableDump m tabla routeT with
  | nil => exact absurd hvolcado (rtTableDump_ne_nil m tabla routeT)
  | cons r rt => rfl

end Antop
