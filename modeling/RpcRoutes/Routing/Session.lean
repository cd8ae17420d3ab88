import RpcRoutes.Routing.Mount

/-!
# Sessions

A session is a set of registries, tables and groups that change together: several tables may
claim in one registry, several groups register in one table, and all count in the same counters.
Registries, tables and groups are numbered in the order of their creation and never go away.

* `Session.step` carries out one action, `Session.run` a list of them from nothing.
* `Session.site?` is what a registration at a table reads, `Session.putSite` what it writes.
-/

namespace RpcRoutes

/-- A table and the number of the registry that it claims in. -/
structure TableSlot (H : Type) where
  registry : Nat
  table : Table H

/-- A group and the number of the table that it registers in. -/
structure GroupSlot (H : Type) where
  table : Nat
  group : Group H

/-- Registries, tables and groups by their numbers, and the counters. -/
structure Session (H : Type) where
  registries : List Registry
  tables : List (TableSlot H)
  groups : List (GroupSlot H)
  counters : Counters

inductive Action (H : Type) where
  | openRegistry
  /-- Opens a table that claims in a registry, or in a new one of its own. -/
  | openTable (registry : Option Nat) (policy : DuplicatePolicy)
  /-- Claims a key in a registry. -/
  | claim (registry : Nat) (key : RouteKey)
  /-- Opens a group at a base of a table. -/
  | openRoot (table : Nat) (base : String)
  /-- Opens a group inside another one. -/
  | openChild (parent : Nat) (fragment : String) (middleware : List (Middleware H))
  | copyGroup (group : Nat)
  /-- Installs further layers in a group. -/
  | install (group : Nat) (middleware : List (Middleware H))
  /-- Registers a route in a group. -/
  | register (group : Nat) (method pattern : String) (handler : H) (own : List (Middleware H))
  /-- Mounts a binding tree in a group. -/
  | mount (group : Nat) (bindings : List ServiceBinding) (resolver : HandlerResolver H)

inductive Outcome where
  /-- A registry, table or group of this number was opened. -/
  | opened (number : Nat)
  /-- A claim, and whether its text was new. -/
  | claimed (new : Bool)
  | installed
  | registered (result : Except RouteError Registration)
  | mounted (result : Except RouteError MountReport)
  /-- The action named a number that the session does not have; nothing changed. -/
  | unknown

namespace Session

variable {H : Type}

def empty : Session H := ⟨[], [], [], .zero⟩

/-- What a registration at a table reads. -/
def site? (s : Session H) (table : Nat) : Option (Site H) := do
  let slot ← s.tables[table]?
  let registry ← s.registries[slot.registry]?
  pure ⟨registry, slot.table, s.counters⟩

/-- What a registration at a table writes: its registry, the table and the counters. -/
def putSite (s : Session H) (table : Nat) (site : Site H) : Session H :=
  match s.tables[table]? with
  | none => s
  | some slot =>
    { s with
      registries := s.registries.set slot.registry site.registry
      tables := s.tables.set table { slot with table := site.table }
      counters := site.counters }

def addGroup (s : Session H) (slot : GroupSlot H) : Session H × Outcome :=
  ({ s with groups := s.groups ++ [slot] }, .opened s.groups.length)

/-- Applies a change to the site that a group registers in. -/
def atGroup {α : Type} (s : Session H) (group : Nat) (change : Group H → Site H → Site H × α)
    (answer : α → Outcome) : Session H × Outcome :=
  match s.groups[group]? with
  | none => (s, .unknown)
  | some slot =>
    match s.site? slot.table with
    | none => (s, .unknown)
    | some site =>
      let (site, result) := change slot.group site
      (s.putSite slot.table site, answer result)

variable [PatternEngine]

def step (s : Session H) : Action H → Session H × Outcome
  | .openRegistry =>
    ({ s with registries := s.registries ++ [.empty] }, .opened s.registries.length)
  | .openTable none policy =>
    ({ s with
        registries := s.registries ++ [.empty]
        tables := s.tables ++ [⟨s.registries.length, .empty policy⟩] },
      .opened s.tables.length)
  | .openTable (some registry) policy =>
    if registry < s.registries.length then
      ({ s with tables := s.tables ++ [⟨registry, .empty policy⟩] }, .opened s.tables.length)
    else (s, .unknown)
  | .claim registry key =>
    match s.registries[registry]? with
    | none => (s, .unknown)
    | some r =>
      let (r, new) := r.claim key
      ({ s with registries := s.registries.set registry r }, .claimed new)
  | .openRoot table base =>
    if table < s.tables.length then s.addGroup ⟨table, Group.root base⟩ else (s, .unknown)
  | .openChild parent fragment middleware =>
    match s.groups[parent]? with
    | none => (s, .unknown)
    | some slot => s.addGroup { slot with group := slot.group.child fragment middleware }
  | .copyGroup group =>
    match s.groups[group]? with
    | none => (s, .unknown)
    | some slot => s.addGroup slot
  | .install group middleware =>
    match s.groups[group]? with
    | none => (s, .unknown)
    | some slot =>
      ({ s with
          groups := s.groups.set group { slot with group := slot.group.install middleware } },
        .installed)
  | .register group method pattern handler own =>
    s.atGroup group (fun g site => g.register site method pattern handler own) .registered
  | .mount group bindings resolver =>
    s.atGroup group (fun g site => g.mount site bindings resolver) .mounted

def runFrom (s : Session H) (actions : List (Action H)) : Session H :=
  actions.foldl (fun s action => (s.step action).1) s

/-- The session that a list of actions makes from nothing. -/
def run (actions : List (Action H)) : Session H := runFrom empty actions

end Session

end RpcRoutes
