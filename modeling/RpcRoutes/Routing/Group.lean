import RpcRoutes.Routing.Middleware
import RpcRoutes.Routing.Table
import RpcRoutes.Routing.Tally

/-!
# Groups

A group is a place to register routes at: a base that all of its patterns get and layers that all
of its handlers get. Groups are values; changing one leaves every other as it is.

Registering writes to a site: a table, the registry it claims in, and the counters. A route is
claimed and then inserted; a claim that fails inserts nothing.

* `Group.key` is the key of a pattern inside a group.
* `Group.register` registers a route, by `Site.claim` and `Site.insert`.
-/

namespace RpcRoutes

/-- What registering reads and writes. -/
structure Site (H : Type) where
  /-- The registry that the table claims in. -/
  registry : Registry
  table : Table H
  counters : Counters

/-- What became of a registration that is no error. -/
inductive Registration where
  | mounted (key : RouteKey)
  /-- The route is a duplicate and was left out. -/
  | ignored (key : RouteKey)
  deriving DecidableEq, Repr

namespace Registration

def key : Registration → RouteKey
  | .mounted key => key
  | .ignored key => key

def isMounted : Registration → Bool
  | .mounted _ => true
  | .ignored _ => false

end Registration

namespace Site

variable {H : Type}

/-- Claims a key for the table: true when its text was new. A duplicate is counted and is then an
error or not, as the table's policy says. -/
def claim (s : Site H) (key : RouteKey) : Site H × Except RouteError Bool :=
  let (registry, new) := s.registry.claim key
  if new then ({ s with registry := registry }, .ok true)
  else
    ({ s with counters := s.counters.addDuplicate key.method },
      match s.table.policy with
      | .reject => .error (.duplicateRoute key)
      | .warn => .ok false)

/-- Mounts a route whose key is claimed. -/
def insert (s : Site H) (route : Route H) : Site H :=
  { s with
    table := s.table.insert route
    counters := s.counters.addRegistered route.method }

end Site

/-- A base with the layers of its routes, outermost first. -/
structure Group (H : Type) where
  /-- The base: empty, or a path that does not end in a slash. -/
  base : String
  stack : List (Middleware H)

namespace Group

variable {H : Type}

/-- A group without layers at a base. The empty base gives the root. -/
def root (base : String) : Group H := ⟨Path.nest "" base, []⟩

/-- A group inside another one: its base is nested, and its layers come inside the parent's. -/
def child (g : Group H) (fragment : String) (middleware : List (Middleware H)) : Group H :=
  ⟨Path.nest g.base fragment, g.stack ++ middleware⟩

/-- The group with further layers inside those it has. -/
def install (g : Group H) (middleware : List (Middleware H)) : Group H :=
  { g with stack := g.stack ++ middleware }

def key (g : Group H) (method pattern : String) : Except RouteError RouteKey :=
  if method = "" then .error (.emptyMethod pattern)
  else .ok ⟨method, Path.join g.base pattern⟩

def template [PatternEngine] (pattern : String) : Except RouteError Template :=
  match Template.compile? pattern with
  | none => .error (.invalidPattern pattern)
  | some t => .ok t

/-- Registers a route with layers of its own. An error or an ignored duplicate mounts nothing. -/
def register [PatternEngine] (g : Group H) (s : Site H) (method pattern : String) (handler : H)
    (own : List (Middleware H)) : Site H × Except RouteError Registration :=
  match g.key method pattern with
  | .error e => (s, .error e)
  | .ok key =>
    match template key.pattern with
    | .error e => (s, .error e)
    | .ok t =>
      match s.claim key with
      | (s, .error e) => (s, .error e)
      | (s, .ok false) => (s, .ok (.ignored key))
      | (s, .ok true) =>
        (s.insert ⟨key.method, t, Middleware.compose handler g.stack own⟩, .ok (.mounted key))

end Group

end RpcRoutes
