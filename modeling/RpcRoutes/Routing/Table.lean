import RpcRoutes.Path.Template
import RpcRoutes.Routing.Registry

/-!
# Route tables

A table holds routes in mounting order. A request is resolved against its routes from the first:
the first whose method and template both fit answers it. When only templates fit, the request is
refused with the methods of those routes; when none fits, nothing is found.

A table does not depend on what a handler is: `H` is the type of handlers.

* `Table.resolve` resolves a method and a path, `Table.lookup` finds a route by its own pattern.
* `Table.resolveAll` resolves against several tables in turn.
-/

namespace RpcRoutes

/-- What becomes of a duplicate. -/
inductive DuplicatePolicy where
  | reject
  /-- It is left out, and the first route stays. -/
  | warn
  deriving DecidableEq, Repr

structure Route (H : Type) where
  method : String
  /-- The template of the full pattern. -/
  template : Template
  handler : H

def Route.key {H : Type} (r : Route H) : RouteKey := ⟨r.method, r.template.pattern⟩

/-- Routes in mounting order. -/
structure Table (H : Type) where
  policy : DuplicatePolicy
  routes : List (Route H)

/-- A route that fits a request, with the captured parameters. -/
structure RouteMatch (H : Type) where
  route : Route H
  params : PathParams

/-- What a method and a path resolve to. -/
inductive Resolution (H : Type) where
  | matched (found : RouteMatch H)
  /-- Only routes of other methods fit the path. -/
  | methodNotAllowed (allowed : List String)
  | notFound

namespace Resolution

/-- A list of methods with one more at its end, unless it is there already. -/
def addMethod (allowed : List String) (method : String) : List String :=
  if method ∈ allowed then allowed else allowed ++ [method]

/-- The resolution when no route answers: a refusal, unless no method was seen. -/
def refusal {H : Type} : List String → Resolution H
  | [] => .notFound
  | allowed => .methodNotAllowed allowed

end Resolution

namespace Table

variable {H : Type}

def empty (policy : DuplicatePolicy) : Table H := ⟨policy, []⟩

def keys (t : Table H) : List RouteKey := t.routes.map Route.key

def insert (t : Table H) (route : Route H) : Table H := { t with routes := t.routes ++ [route] }

@[simp] theorem keys_empty (policy : DuplicatePolicy) :
    (empty policy : Table H).keys = [] := rfl

@[simp] theorem keys_insert (t : Table H) (route : Route H) :
    (t.insert route).keys = t.keys ++ [route.key] := List.map_append

/-- The first route with this method and this pattern. -/
def lookup (t : Table H) (method pattern : String) : Option (Route H) :=
  t.routes.find? fun r => r.method == method && r.template.pattern == pattern

/-- Resolves against routes from the first; `allowed` holds the methods seen before. -/
def resolveFrom (method path : String) : List String → List (Route H) → Resolution H
  | allowed, [] => .refusal allowed
  | allowed, r :: rs =>
    match r.template.params? path with
    | none => resolveFrom method path allowed rs
    | some params =>
      if r.method = method then .matched ⟨r, params⟩
      else resolveFrom method path (Resolution.addMethod allowed r.method) rs

def resolve (t : Table H) (method path : String) : Resolution H :=
  resolveFrom method path [] t.routes

/-- Resolves against tables from the first; `allowed` holds the methods seen before. -/
def resolveAllFrom (method path : String) : List String → List (Table H) → Resolution H
  | allowed, [] => .refusal allowed
  | allowed, t :: ts =>
    match t.resolve method path with
    | .matched found => .matched found
    | .methodNotAllowed more =>
      resolveAllFrom method path (more.foldl Resolution.addMethod allowed) ts
    | .notFound => resolveAllFrom method path allowed ts

/-- Resolves a method and a path against several tables: the first table with a route that fits
answers, whatever methods the tables before it allow. -/
def resolveAll (tables : List (Table H)) (method path : String) : Resolution H :=
  resolveAllFrom method path [] tables

/-- The keys that an earlier table or an earlier place of the same table holds already, each with
the index of its table. `served` holds the texts seen before, `index` counts the tables. -/
def shadowedFrom (served : Registry) (index : Nat) : List (Table H) → List (Nat × RouteKey)
  | [] => []
  | t :: ts =>
    let (served, found) :=
      t.keys.foldl
        (fun (served, found) key =>
          let (served, new) := served.claim key
          (served, if new then found else found ++ [(index, key)]))
        (served, [])
    found ++ shadowedFrom served (index + 1) ts

/-- The routes that no request reaches because a route of their text comes before them, each with
the index of its table. -/
def shadowed (tables : List (Table H)) : List (Nat × RouteKey) :=
  shadowedFrom .empty 0 tables

end Table

end RpcRoutes
