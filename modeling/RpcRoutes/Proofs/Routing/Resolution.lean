import RpcRoutes.Proofs.Routing.Answering

/-!
# Resolving requests

Resolution is a search for the first route whose key answers. Only when there is none do the
other routes that fit the path matter, and then only the methods they have.

* `Table.resolveFrom_eq` says so for a list of routes.
* `Table.resolveAll_eq`: several tables resolve a request as one table with all of their routes
  does.
-/

namespace RpcRoutes

variable {H : Type}

/-- A route with the parameters with which its key answers a request. -/
def Route.match? (method path : String) (route : Route H) : Option (RouteMatch H) :=
  (route.key.params? method path).map fun params => ⟨route, params⟩

/-- The key of a route answers its own method with what the template captures. -/
theorem Route.params?_key (route : Route H) (method path : String) :
    route.key.params? method path =
      if route.method = method then route.template.params? path else none := by
  rw [RouteKey.params?, key, Template.params?_eq]

/-- The methods of the routes that fit a path, one for each route. -/
def Route.fitting (path : String) (routes : List (Route H)) : List String :=
  (routes.filter fun route => (route.template.params? path).isSome).map Route.method

/-! ### Lists of methods -/

namespace Resolution

variable {allowed more methods : List String} {method : String}

theorem addMethod_of_mem (mem : method ∈ allowed) : addMethod allowed method = allowed :=
  if_pos mem

theorem mem_addMethod_iff {other : String} :
    method ∈ addMethod allowed other ↔ method ∈ allowed ∨ method = other := by
  by_cases seen : other ∈ allowed
  · rw [addMethod_of_mem seen]
    exact (or_iff_left_of_imp fun same => same ▸ seen).symm
  · rw [addMethod, if_neg seen, List.mem_append, List.mem_singleton]

/-- Adding methods keeps those that are allowed and allows each of them. -/
theorem mem_foldl_addMethod_iff :
    method ∈ methods.foldl addMethod allowed ↔ method ∈ allowed ∨ method ∈ methods := by
  induction methods generalizing allowed with
  | nil => exact (or_iff_left List.not_mem_nil).symm
  | cons other methods ih => rw [List.foldl_cons, ih, mem_addMethod_iff, List.mem_cons, or_assoc]

/-- Methods that were collected on their own are added as if they came one by one. -/
theorem foldl_addMethod_foldl : (methods.foldl addMethod more).foldl addMethod allowed =
    methods.foldl addMethod (more.foldl addMethod allowed) := by
  induction methods generalizing more with
  | nil => rfl
  | cons method methods ih =>
      have one : (addMethod more method).foldl addMethod allowed =
          addMethod (more.foldl addMethod allowed) method := by
        by_cases seen : method ∈ more
        · rw [addMethod_of_mem seen, addMethod_of_mem (mem_foldl_addMethod_iff.mpr (Or.inr seen))]
        · rw [addMethod, if_neg seen, List.foldl_append]
          rfl
      rw [List.foldl_cons, List.foldl_cons, ih, one]

/-- What routes answer from the first, when methods were seen before. -/
def ofRoutes (method path : String) (allowed : List String) (routes : List (Route H)) :
    Resolution H :=
  match routes.findSome? (Route.match? method path) with
  | some found => .matched found
  | none => .refusal ((Route.fitting path routes).foldl addMethod allowed)

end Resolution

/-! ### Tables -/

namespace Table

open Resolution

variable {method path : String} {allowed : List String}

/-- Resolution is a search for the first route that answers. -/
theorem resolveFrom_eq (routes : List (Route H)) :
    resolveFrom method path allowed routes = ofRoutes method path allowed routes := by
  induction routes generalizing allowed with
  | nil => rfl
  | cons route routes ih =>
      have key_eq := route.params?_key method path
      cases fits : route.template.params? path with
      | none =>
          have silent : route.match? method path = none := by
            simp [Route.match?, key_eq, fits]
          have unfit : Route.fitting path (route :: routes) = Route.fitting path routes := by
            simp [Route.fitting, fits]
          rw [resolveFrom, fits, ofRoutes, List.findSome?_cons, silent, unfit]
          exact ih
      | some params =>
          rw [resolveFrom, fits]
          dsimp only
          by_cases own : route.method = method
          · have answers : route.match? method path = some ⟨route, params⟩ := by
              simp [Route.match?, key_eq, fits, own]
            rw [if_pos own, ofRoutes, List.findSome?_cons, answers]
          · have silent : route.match? method path = none := by
              simp [Route.match?, key_eq, own]
            have fit : Route.fitting path (route :: routes) =
                route.method :: Route.fitting path routes := by
              simp [Route.fitting, fits]
            rw [if_neg own, ofRoutes, List.findSome?_cons, silent, fit]
            exact ih

theorem resolveAllFrom_eq (tables : List (Table H)) : resolveAllFrom method path allowed tables =
    ofRoutes method path allowed (tables.flatMap Table.routes) := by
  induction tables generalizing allowed with
  | nil => rfl
  | cons t tables ih =>
      rw [resolveAllFrom, resolve, resolveFrom_eq, ofRoutes, ofRoutes, List.flatMap_cons,
        List.findSome?_append]
      cases found : t.routes.findSome? (Route.match? method path) with
      | some found => rfl
      | none =>
          have fitting_eq : Route.fitting path (t.routes ++ tables.flatMap Table.routes) =
              Route.fitting path t.routes ++ Route.fitting path (tables.flatMap Table.routes) := by
            simp [Route.fitting]
          have folded : ((Route.fitting path t.routes).foldl addMethod []).foldl addMethod allowed =
              (Route.fitting path t.routes).foldl addMethod allowed := foldl_addMethod_foldl
          rw [fitting_eq, List.foldl_append, ← folded]
          generalize (Route.fitting path t.routes).foldl addMethod [] = more
          cases more with
          | nil => exact ih
          | cons method more => exact ih

/-- Several tables resolve a request as one table with all of their routes does. -/
theorem resolveAll_eq (tables : List (Table H)) (method path : String) :
    resolveAll tables method path = ofRoutes method path [] (tables.flatMap Table.routes) :=
  resolveAllFrom_eq tables

end Table

end RpcRoutes
