import RpcRoutes.Binding.Tree
import RpcRoutes.Json.Printer
import RpcRoutes.Routing.Table
import RpcRoutes.Routing.Tally

/-!
# Manifests

A manifest lists routes without mounting them: for each rule the service and method, the verb,
the full pattern and the parameters. A rule whose text was listed before is a duplicate, which is
an error or is left out, as the policy says.

* `Manifest.list` lists the rules of a binding tree.
* `Manifest.render` writes a list as text.
-/

namespace RpcRoutes

structure ManifestEntry where
  service : String
  method : String
  verb : String
  pattern : String
  /-- The body selector as written; empty when there is none. -/
  body : String
  /-- The placeholder names of the rule's pattern. -/
  pathParams : List String
  deriving DecidableEq, Repr

/-- The JSON form of an entry; an empty body is left out. -/
def ManifestEntry.toJson (e : ManifestEntry) : Json :=
  .object
    ([("service", .string e.service), ("method", .string e.method), ("verb", .string e.verb),
        ("pattern", .string e.pattern)]
      ++ (if e.body = "" then [] else [("body", .string e.body)])
      ++ [("path_params", .array (e.pathParams.map Json.string))])

inductive ManifestError where
  /-- A route of this text was listed before. -/
  | duplicateRoute (key : RouteKey)
  deriving DecidableEq, Repr

def ManifestError.message : ManifestError → String
  | .duplicateRoute key => "duplicate route: " ++ key.text

namespace Manifest

/-- What listing reads and writes: the registry of the texts listed so far and the counters. -/
structure State where
  registry : Registry
  counters : Counters
  deriving DecidableEq, Repr

/-- Lists rules in order. An error ends it, and the texts listed before stay claimed. -/
def listRules (base : String) (policy : DuplicatePolicy) :
    State → List OwnedRule → State × Except ManifestError (List ManifestEntry)
  | s, [] => (s, .ok [])
  | s, r :: rs =>
    let key : RouteKey := ⟨r.rule.method, Path.join base r.rule.pattern⟩
    let (registry, new) := s.registry.claim key
    if new then
      let entry : ManifestEntry :=
        ⟨r.service, r.method.name, key.method, key.pattern, r.rule.body, r.rule.pathParams⟩
      match listRules base policy { s with registry := registry } rs with
      | (s, .error e) => (s, .error e)
      | (s, .ok entries) => (s, .ok (entry :: entries))
    else
      let s := { s with counters := s.counters.addDuplicate key.method }
      match policy with
      | .reject => (s, .error (.duplicateRoute key))
      | .warn => listRules base policy s rs

/-- Lists the rules of a tree under a base. -/
def list (base : String) (policy : DuplicatePolicy) (s : State) (bindings : List ServiceBinding) :
    State × Except ManifestError (List ManifestEntry) :=
  listRules base policy s (bindings.flatMap ServiceBinding.rules)

def render (entries : List ManifestEntry) : String :=
  (Json.array (entries.map ManifestEntry.toJson)).pretty

end Manifest

end RpcRoutes
