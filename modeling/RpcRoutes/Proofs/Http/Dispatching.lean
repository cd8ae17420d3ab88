import Mathlib.Data.List.Induction
import RpcRoutes.Http.Dispatch
import RpcRoutes.Proofs.Routing.Resolution

/-!
# Dispatching to several tables

Tables are asked one after another, and each gathers the methods it allows. What comes out is a
plain scan of all routes: the tables' boundaries cannot be seen.

* `scan` answers a request from a list of routes, and `Route.answers` holds of the routes that it
  looks for.
* `Resolution.foldl_addMethod`: the gathered methods are all that were seen, each at its first
  place.
* `dispatch_eq_scan`: several tables answer as one table with all of their routes does, and that
  is as a scan does.
-/

namespace RpcRoutes

variable {H : Type}

/-- The route's method is that of the request, and its template fits the path. -/
def Route.answers (req : Request) (route : Route H) : Bool :=
  route.method == req.method && (route.template.params? req.path).isSome

/-- A request answered from a list of routes. The first route that answers runs, with what its
template captures. When there is none, the methods of the routes whose templates fit are allowed,
each named once, where it comes first; and when no template fits, nothing is found. -/
def scan (run : H → Handler) (routes : List (Route H)) : Handler := fun req x =>
  match routes.find? (Route.answers req), Route.fitting req.path routes with
  | some route, _ => run route.handler { req with params := route.template.params? req.path } x
  | none, [] =>
    (⟨404, [("content-type", "text/plain; charset=utf-8")], "No matching route found"⟩, x)
  | none, methods =>
    let allowed := ", ".intercalate methods.eraseDups
    (⟨405, if isHeaderValue allowed then [("allow", allowed)] else [], ""⟩, x)

/-! ### Gathered methods -/

/-- Methods that are added one by one stand each at its first place. -/
theorem Resolution.foldl_addMethod (methods : List String) :
    methods.foldl addMethod [] = methods.eraseDups := by
  induction methods using List.reverseRecOn with
  | nil => rfl
  | append_singleton methods method ih =>
      rw [List.foldl_append, ih, List.eraseDups_append]
      by_cases seen : method ∈ methods
      · have old : addMethod methods.eraseDups method = methods.eraseDups :=
          addMethod_of_mem (List.mem_eraseDups.mpr seen)
        simpa [List.removeAll, seen] using old
      · have new : method ∉ methods.eraseDups := by rwa [List.mem_eraseDups]
        simp [List.removeAll, seen, addMethod, new, List.eraseDups_cons]

/-! ### The first route that answers -/

theorem Route.captures_of_answers {req : Request} {route : Route H}
    (answers : route.answers req = true) :
    ∃ params, route.template.params? req.path = some params :=
  Option.isSome_iff_exists.mp (Bool.and_eq_true_iff.mp answers).2

theorem Route.match?_eq (req : Request) (route : Route H) :
    route.match? req.method req.path =
      if route.answers req then (route.template.params? req.path).map (⟨route, ·⟩) else none := by
  rw [match?, params?_key, answers]
  by_cases own : route.method = req.method
  · cases fits : route.template.params? req.path <;> simp [own]
  · simp [own]

/-- Searching the routes for an answer is searching for a route that answers. -/
theorem Route.findSome?_match? (req : Request) (routes : List (Route H)) :
    routes.findSome? (Route.match? req.method req.path) =
      (routes.find? (Route.answers req)).bind fun route =>
        (route.template.params? req.path).map (⟨route, ·⟩) := by
  induction routes with
  | nil => rfl
  | cons route routes ih =>
      rw [List.findSome?_cons, List.find?_cons, match?_eq]
      cases answers : route.answers req with
      | false => exact ih
      | true =>
          obtain ⟨params, captured⟩ := captures_of_answers answers
          simp [captured]

/-- What routes resolve to is answered as a scan of them is. -/
theorem answer_ofRoutes (run : H → Handler) (routes : List (Route H)) (req : Request)
    (x : Exchange) :
    answer run (.ofRoutes req.method req.path [] routes) req x = scan run routes req x := by
  rw [Resolution.ofRoutes, Route.findSome?_match?, Resolution.foldl_addMethod, scan]
  cases found : routes.find? (Route.answers req) with
  | some route =>
      have answers : route.answers req = true := List.find?_some found
      obtain ⟨params, captured⟩ := Route.captures_of_answers answers
      simp only [Option.bind_some, captured, Option.map_some, answer]
  | none =>
      cases fitting : Route.fitting req.path routes with
      | nil => rfl
      | cons method methods =>
          simp only [Option.bind_none, List.eraseDups_cons, Resolution.refusal, answer,
            methodNotAllowed]

/-! ### Several tables -/

/-- Several tables answer a request as one table with all of their routes does, whatever becomes
of duplicates in it, and that is as a scan of the routes does. So a route that answers is found in
whichever table it is: the methods that the tables before it allow do not hide it. -/
theorem dispatch_eq_scan (run : H → Handler) (tables : List (Table H)) (policy : DuplicatePolicy)
    (req : Request) (x : Exchange) :
    dispatch run tables req x =
        answer run
          ((⟨policy, tables.flatMap Table.routes⟩ : Table H).resolve req.method req.path) req x ∧
      dispatch run tables req x = scan run (tables.flatMap Table.routes) req x ∧
      ∀ t ∈ tables, ∀ route ∈ t.routes, route.answers req = true →
        ∃ first ∈ tables.flatMap Table.routes, first.answers req = true ∧
          dispatch run tables req x =
            run first.handler { req with params := first.template.params? req.path } x := by
  have scanned : dispatch run tables req x = scan run (tables.flatMap Table.routes) req x := by
    rw [dispatch, Table.resolveAll_eq, answer_ofRoutes]
  refine ⟨?_, scanned, ?_⟩
  · rw [scanned, Table.resolve, Table.resolveFrom_eq, answer_ofRoutes]
  · intro t known route mem answers
    have mem : route ∈ tables.flatMap Table.routes := List.mem_flatMap.mpr ⟨t, known, mem⟩
    have some_answers : ((tables.flatMap Table.routes).find? (Route.answers req)).isSome :=
      List.find?_isSome.mpr ⟨route, mem, answers⟩
    obtain ⟨first, found⟩ := Option.isSome_iff_exists.mp some_answers
    refine ⟨first, List.mem_of_find?_eq_some found, List.find?_some found, ?_⟩
    rw [scanned, scan, found]

end RpcRoutes
