import RpcRoutes.Binding.Tree
import RpcRoutes.Routing.Group

/-!
# Mounting bindings

All rules of a binding tree are mounted in one call. A plan is made first, which finds methods
without a handler, rules without an HTTP method and, where duplicates are errors, rules whose
text is claimed or whose key the tree holds twice; then the plan is carried out rule by rule. The
plan compares keys and does not read patterns, so carrying it out may still end in an error.

* `Mount.plan` makes the plan, `Mount.execute` carries it out.
* `Group.mount` does both.
-/

namespace RpcRoutes

/-- The handler of a method of a service, if it has one. -/
abbrev HandlerResolver (H : Type) := (service : String) → MethodBinding → Option H

/-- What became of the rules of a tree. -/
structure MountReport where
  /-- The keys that were mounted, in order. -/
  mounted : List RouteKey
  /-- The keys that were left out as duplicates, in order. -/
  ignored : List RouteKey
  deriving DecidableEq, Repr

namespace MountReport

def empty : MountReport := ⟨[], []⟩

def add (report : MountReport) : Registration → MountReport
  | .mounted key => { report with mounted := report.mounted ++ [key] }
  | .ignored key => { report with ignored := report.ignored ++ [key] }

end MountReport

namespace Mount

variable {H : Type}

/-- A rule that is about to be registered. -/
structure Planned (H : Type) where
  method : String
  /-- The pattern, without the group's base. -/
  pattern : String
  /-- The handler of the rule's method. -/
  handler : H

/-- Plans the rules of one method; `seen` holds the keys that were planned before. -/
def planRules (g : Group H) (s : Site H) (handler : H) :
    (seen : List RouteKey) → List Rule → Except RouteError (List RouteKey × List (Planned H))
  | seen, [] => .ok (seen, [])
  | seen, rule :: rules =>
    match g.key rule.method rule.pattern with
    | .error e => .error e
    | .ok key =>
      if s.table.policy = .reject ∧ (s.registry.Holds key ∨ key ∈ seen) then
        .error (.duplicateRoute key)
      else
        match planRules g s handler (key :: seen) rules with
        | .error e => .error e
        | .ok (seen, planned) => .ok (seen, ⟨rule.method, rule.pattern, handler⟩ :: planned)

/-- Plans methods in order, each with the name of its service. -/
def planMethods (g : Group H) (s : Site H) (resolver : HandlerResolver H) :
    (seen : List RouteKey) → List (String × MethodBinding) → Except RouteError (List (Planned H))
  | _, [] => .ok []
  | seen, (service, method) :: methods =>
    match resolver service method with
    | none => .error (.missingHandler service method.name)
    | some handler =>
      match planRules g s handler seen method.rules with
      | .error e => .error e
      | .ok (seen, planned) =>
        match planMethods g s resolver seen methods with
        | .error e => .error e
        | .ok rest => .ok (planned ++ rest)

/-- The methods of a tree, each with the name of its service. -/
def methodsOf (bindings : List ServiceBinding) : List (String × MethodBinding) :=
  bindings.flatMap fun service => service.methods.map fun method => (service.name, method)

/-- Plans all rules of a tree, in order of service, method and rule. -/
def plan (g : Group H) (s : Site H) (bindings : List ServiceBinding)
    (resolver : HandlerResolver H) : Except RouteError (List (Planned H)) :=
  planMethods g s resolver [] (methodsOf bindings)

/-- Registers planned rules in order; an error ends it and leaves what was mounted before. -/
def execute [PatternEngine] (g : Group H) :
    Site H → MountReport → List (Planned H) → Site H × Except RouteError MountReport
  | s, report, [] => (s, .ok report)
  | s, report, p :: ps =>
    match g.register s p.method p.pattern p.handler [] with
    | (s, .error e) => (s, .error e)
    | (s, .ok done) => execute g s (report.add done) ps

/-- Counts the duplicate for which a plan was refused. -/
def countRefusal (s : Site H) : RouteError → Site H
  | .duplicateRoute key => { s with counters := s.counters.addDuplicate key.method }
  | _ => s

end Mount

/-- Mounts all rules of a tree in the group. -/
def Group.mount [PatternEngine] {H : Type} (g : Group H) (s : Site H)
    (bindings : List ServiceBinding)
    (resolver : HandlerResolver H) : Site H × Except RouteError MountReport :=
  match Mount.plan g s bindings resolver with
  | .error e => (Mount.countRefusal s e, .error e)
  | .ok planned => Mount.execute g s .empty planned

end RpcRoutes
