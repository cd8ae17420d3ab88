import RpcRoutes.Proofs.Path.Rooted
import RpcRoutes.Proofs.Routing.Admission
import RpcRoutes.Routing.Group

/-!
# Registrations

What one registration can do to a site, and what a series of them does.

* `Group.Registers` lists the five outcomes of a registration with the condition of each;
  `Group.registers` says that registering follows it. A route is mounted only when it has a
  method, its full pattern is a template and its text is unclaimed, and then its text is claimed.
* `Site.Grows` is a series of mounted routes and counted duplicates. It adds its routes at the
  end of the table and their texts to the registry, and counts each of them once
  (`Site.Grows.table_eq`, `Site.Grows.texts_eq`, `Site.Grows.registered_eq`); no text is mounted
  twice (`Site.Grows.fresh`).
-/

namespace RpcRoutes

variable {H : Type}

/-! ### One registration -/

/-- The engine accepts the pattern. -/
def Template.Compiles [PatternEngine] (pattern : String) : Prop :=
  (Template.compile? pattern).isSome

instance [PatternEngine] (pattern : String) : Decidable (Template.Compiles pattern) :=
  inferInstanceAs (Decidable (_ = _))

/-- A route with the compiled pattern of a key, and with its method, has this key. -/
theorem Route.key_of_compile? [PatternEngine] {key : RouteKey} {t : Template} {handler : H}
    (compiled : Template.compile? key.pattern = some t) :
    Route.key ⟨key.method, t, handler⟩ = key := by
  rw [Route.key, Template.pattern_of_compile? compiled]

namespace Site

/-- The site after a duplicate of a key was counted. -/
def refused (s : Site H) (key : RouteKey) : Site H :=
  { s with counters := s.counters.addDuplicate key.method }

/-- The site after a route was claimed and mounted. -/
def mounted (s : Site H) (route : Route H) : Site H :=
  ({ s with registry := (s.registry.claim route.key).1 } : Site H).insert route

section Fields

variable (s : Site H) (key : RouteKey) (route : Route H)

@[simp] theorem table_refused : (s.refused key).table = s.table := rfl

@[simp] theorem registry_mounted :
    (s.mounted route).registry = (s.registry.claim route.key).1 := rfl

@[simp] theorem table_mounted : (s.mounted route).table = s.table.insert route := rfl

@[simp] theorem registered_mounted :
    (s.mounted route).counters.registered = s.counters.registered.add route.method := rfl

end Fields

section Claim

variable {s : Site H} {key : RouteKey}

theorem claim_of_reject (held : s.registry.Holds key) (policy : s.table.policy = .reject) :
    s.claim key = (s.refused key, .error (.duplicateRoute key)) := by
  simp [claim, Registry.claim_of_holds held, policy, refused]

theorem claim_of_warn (held : s.registry.Holds key) (policy : s.table.policy = .warn) :
    s.claim key = (s.refused key, .ok false) := by
  simp [claim, Registry.claim_of_holds held, policy, refused]

theorem claim_of_new (new : ¬ s.registry.Holds key) :
    s.claim key = ({ s with registry := (s.registry.claim key).1 }, .ok true) := by
  simp [claim, Registry.claim_of_not_holds new]

end Claim

end Site

namespace Group

/-- The key that a pattern has in the group. -/
def fullKey (g : Group H) (method pattern : String) : RouteKey :=
  ⟨method, Path.join g.base pattern⟩

/-- The outcomes of registering a route at a site: the site afterwards and the answer. -/
inductive Registers [PatternEngine] (g : Group H) (s : Site H) (method pattern : String)
    (handler : H) (own : List (Middleware H)) (outcome : Site H × Except RouteError Registration) :
    Prop where
  | unnamed (empty : method = "") (eq : outcome = (s, .error (.emptyMethod pattern)))
  | uncompiled (named : method ≠ "")
      (fails : ¬ Template.Compiles (g.fullKey method pattern).pattern)
      (eq : outcome = (s, .error (.invalidPattern (g.fullKey method pattern).pattern)))
  | rejected (named : method ≠ "") (compiles : Template.Compiles (g.fullKey method pattern).pattern)
      (held : s.registry.Holds (g.fullKey method pattern)) (policy : s.table.policy = .reject)
      (eq : outcome = (s.refused (g.fullKey method pattern),
        .error (.duplicateRoute (g.fullKey method pattern))))
  | ignored (named : method ≠ "") (compiles : Template.Compiles (g.fullKey method pattern).pattern)
      (held : s.registry.Holds (g.fullKey method pattern)) (policy : s.table.policy = .warn)
      (eq : outcome = (s.refused (g.fullKey method pattern),
        .ok (.ignored (g.fullKey method pattern))))
  | mounted (named : method ≠ "") (t : Template)
      (compiled : Template.compile? (g.fullKey method pattern).pattern = some t)
      (new : ¬ s.registry.Holds (g.fullKey method pattern))
      (eq : outcome = (s.mounted ⟨method, t, Middleware.compose handler g.stack own⟩,
        .ok (.mounted (g.fullKey method pattern))))

section Registers

variable (g : Group H) (s : Site H) (method pattern : String) (handler : H)
  (own : List (Middleware H))

/-- Registering a route has one of the listed outcomes. -/
theorem registers [PatternEngine] :
    Registers g s method pattern handler own (g.register s method pattern handler own) := by
  by_cases empty : method = ""
  · exact .unnamed empty (by simp [register, Group.key, empty])
  have found : g.key method pattern = .ok (g.fullKey method pattern) := if_neg empty
  cases compiled : Template.compile? (g.fullKey method pattern).pattern with
  | none =>
      refine .uncompiled empty (by simp [Template.Compiles, compiled]) ?_
      simp [register, found, template, compiled]
  | some t =>
      have compiles : Template.Compiles (g.fullKey method pattern).pattern :=
        Option.isSome_iff_exists.mpr ⟨t, compiled⟩
      by_cases held : s.registry.Holds (g.fullKey method pattern)
      · cases policy : s.table.policy with
        | reject =>
            refine .rejected empty compiles held policy ?_
            simp [register, found, template, compiled, Site.claim_of_reject held policy]
        | warn =>
            refine .ignored empty compiles held policy ?_
            simp [register, found, template, compiled, Site.claim_of_warn held policy]
      · have key_eq : Route.key ⟨method, t, Middleware.compose handler g.stack own⟩ =
            g.fullKey method pattern := Route.key_of_compile? compiled
        refine .mounted empty t compiled held ?_
        simp [register, found, template, compiled, Site.claim_of_new held, Site.mounted, key_eq]
        rfl

end Registers

end Group

/-! ### A series of registrations -/

/-- A route that can be reached: it has a method, and its pattern starts with a slash. -/
def Route.WellFormed (route : Route H) : Prop :=
  route.method ≠ "" ∧ Path.IsRooted route.template.pattern

/-- From one site to another by mounting these routes in order, among counted duplicates. -/
inductive Site.Grows : Site H → List (Route H) → Site H → Prop where
  | done (s : Site H) : Grows s [] s
  | mount {s after : Site H} {route : Route H} {routes : List (Route H)}
      (wellFormed : route.WellFormed) (new : ¬ s.registry.Holds route.key)
      (rest : Grows (s.mounted route) routes after) : Grows s (route :: routes) after
  | refuse {s after : Site H} {routes : List (Route H)} (key : RouteKey)
      (rest : Grows (s.refused key) routes after) : Grows s routes after

namespace Site.Grows

variable {s middle after : Site H} {routes more : List (Route H)}

theorem trans (first : Grows s routes middle) (second : Grows middle more after) :
    Grows s (routes ++ more) after := by
  induction first with
  | done => exact second
  | mount wellFormed new _ ih => exact .mount wellFormed new (ih second)
  | refuse key _ ih => exact .refuse key (ih second)

/-- The routes come at the end of the table. -/
theorem table_eq (grows : Grows s routes after) :
    after.table = { s.table with routes := s.table.routes ++ routes } := by
  induction grows with
  | done => simp
  | mount _ _ _ ih => simp [ih, Table.insert]
  | refuse _ _ ih => exact ih

/-- The texts of the routes are claimed, and no others. -/
theorem texts_eq (grows : Grows s routes after) : after.registry.texts =
    (routes.map fun route => route.key.text).reverse ++ s.registry.texts := by
  induction grows with
  | done => rfl
  | mount _ new _ ih => simp [ih, Registry.claim_of_not_holds new]
  | refuse _ _ ih => exact ih

/-- No route has a text that was claimed before, and no two have one text. -/
theorem fresh (grows : Grows s routes after) : s.registry.Fresh (routes.map Route.key) := by
  induction grows with
  | done => exact ⟨List.nodup_nil, nofun⟩
  | mount _ new _ ih =>
      rw [List.map_cons, Registry.fresh_cons]
      exact ⟨new, ih⟩
  | refuse _ _ ih => exact ih

theorem wellFormed (grows : Grows s routes after) : ∀ route ∈ routes, route.WellFormed := by
  induction grows with
  | done => exact nofun
  | mount wellFormed _ _ ih => exact List.forall_mem_cons.mpr ⟨wellFormed, ih⟩
  | refuse _ _ ih => exact ih

/-- Each route is counted once, for its method. -/
theorem registered_eq (grows : Grows s routes after) (method : String) :
    after.counters.registered.count method =
      s.counters.registered.count method + (routes.map Route.method).count method := by
  induction grows with
  | done => simp
  | mount _ _ _ ih =>
      rw [ih, registered_mounted, Tally.count_add, List.map_cons, List.count_cons]
      simp only [beq_iff_eq]
      omega
  | refuse _ _ ih => exact ih

end Site.Grows

/-- A registration in a group with a proper base is a series of one route or none. -/
theorem Group.Registers.grows [PatternEngine] {g : Group H} {s : Site H} {method pattern : String}
    {handler : H} {own : List (Middleware H)} {outcome : Site H × Except RouteError Registration}
    (isBase : Path.IsBase g.base) (spec : g.Registers s method pattern handler own outcome) :
    ∃ routes, Site.Grows s routes outcome.1 := by
  cases spec with
  | unnamed _ eq => exact ⟨[], eq ▸ .done s⟩
  | uncompiled _ _ eq => exact ⟨[], eq ▸ .done s⟩
  | rejected _ _ _ _ eq => exact ⟨[], eq ▸ .refuse _ (.done _)⟩
  | ignored _ _ _ _ eq => exact ⟨[], eq ▸ .refuse _ (.done _)⟩
  | mounted named t compiled new eq =>
      have key_eq : Route.key ⟨method, t, Middleware.compose handler g.stack own⟩ =
          g.fullKey method pattern := Route.key_of_compile? compiled
      rw [eq]
      refine ⟨[_], .mount ⟨named, ?_⟩ (key_eq ▸ new) (.done _)⟩
      rw [Template.pattern_of_compile? compiled]
      exact Path.isRooted_join isBase pattern

end RpcRoutes
