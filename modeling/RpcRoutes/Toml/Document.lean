import RpcRoutes.Config.Setting

/-!
# TOML documents

A document is built from its statements: pairs of a key and a value, headers that open a table,
and headers that open one more table of a list. A table is defined once. It comes into being by
its own header, by the header of a table inside it, by a dotted key, or as a value in braces, and
how it came into being decides which later statements may still reach into it.

* `Toml.insertPair` puts a pair into a table, `Toml.Builder.add` adds a statement to a document.
* `Toml.build` makes the document of a list of statements.
-/

namespace RpcRoutes.Toml

/-- How a table came into being. -/
inductive TableKind where
  /-- By a header of its own. -/
  | opened
  /-- By the header of a table inside it. -/
  | implied
  | dotted
  | closed
  deriving DecidableEq, Repr

/-- A dotted key may reach into the table. -/
def TableKind.admitsKeys : TableKind → Bool
  | .implied => true
  | .dotted => true
  | _ => false

inductive Node where
  | text (s : String)
  | moment
  /-- A number or a truth value. -/
  | other
  | array (items : List Node)
  /-- A table with its members in order. -/
  | table (kind : TableKind) (members : List (String × Node))
  /-- A list of tables that headers have opened. -/
  | tables (earlier : List (List (String × Node))) (latest : List (String × Node))
  deriving Repr, Inhabited

abbrev Members := List (String × Node)

/-- Members with the value of a name changed. -/
def replaceMember (members : Members) (name : String) (value : Node) : Members :=
  members.map fun m => if m.1 == name then (name, value) else m

/-- Changes the table that a path of names leads to, from a table of a kind with some members;
tables that are missing on the way are made. `byKey` says that the path is that of a dotted key
and not that of a header. None when the path leads through something else than a table or when
`change` refuses. -/
def changeAt {α : Type} (byKey : Bool) (change : TableKind → Members → Option (α × Members)) :
    (path : List String) → TableKind → Members → Option (α × Members)
  | [], kind, members => change kind members
  | name :: path, _, members =>
    match members.lookup name with
    | none => do
      let kind := if byKey then .dotted else .implied
      let (a, inner) ← changeAt byKey change path kind []
      pure (a, members ++ [(name, .table kind inner)])
    | some (.table kind inner) =>
      if kind = .closed ∨ (byKey = true ∧ kind.admitsKeys = false) then none
      else do
        let (a, inner) ← changeAt byKey change path kind inner
        pure (a, replaceMember members name (.table kind inner))
    | some (.tables earlier latest) => do
      let (a, latest) ← changeAt byKey change path .opened latest
      pure (a, replaceMember members name (.tables earlier latest))
    | some _ => none

/-- A pair: the names before the last one of its key, the last one, and the value. -/
structure Pair where
  /-- The names before the last one. -/
  path : List String
  name : String
  value : Node

/-- Members with a pair put in. A key of several names ends in a table that dotted keys made, and
no name is given twice. -/
def insertPair (members : Members) (pair : Pair) : Option Members :=
  (changeAt true
    (fun kind members =>
      if decide (kind = .dotted) = pair.path.isEmpty then none
      else if (members.lookup pair.name).isSome then none
      else some ((), members ++ [(pair.name, pair.value)]))
    pair.path .opened members).map Prod.snd

inductive Statement where
  | pair (p : Pair)
  /-- A header that opens a table inside the one at `path`. -/
  | header (path : List String) (name : String)
  /-- A header that opens one more table of the list of a name. -/
  | listHeader (path : List String) (name : String)

/-- The table that a header has opened and that pairs go to. -/
structure OpenTable where
  path : List String
  name : String
  /-- Whether it is one of a list. -/
  listed : Bool
  members : Members

structure Builder where
  /-- The top level without the table that is open. -/
  root : Members
  /-- The table that is open; before the first header, none is. -/
  current : Option OpenTable

namespace Builder

def empty : Builder := ⟨[], none⟩

/-- Puts the open table into its place. -/
def close (b : Builder) : Option Members :=
  match b.current with
  | none => some b.root
  | some t =>
    (changeAt false
      (fun _ members =>
        match members.lookup t.name, t.listed with
        | none, false => some ((), members ++ [(t.name, .table .opened t.members)])
        | none, true => some ((), members ++ [(t.name, .tables [] t.members)])
        | some (.tables earlier latest), true =>
          some ((), replaceMember members t.name (.tables (earlier ++ [latest]) t.members))
        | _, _ => none)
      t.path .opened b.root).map Prod.snd

/-- Opens a table. One that is there already must have been made by the header of a table inside
it, and keeps its members. -/
def openTable (root : Members) (path : List String) (name : String) : Option Builder := do
  let (members, root) ← changeAt false
    (fun _ members =>
      match members.lookup name with
      | none => some ([], members)
      | some (.table .implied inner) => some (inner, members.filter (·.1 != name))
      | some _ => none)
    path .opened root
  pure ⟨root, some ⟨path, name, false, members⟩⟩

/-- Opens one more table of a list. -/
def openListed (root : Members) (path : List String) (name : String) : Option Builder := do
  let (_, root) ← changeAt false
    (fun _ members =>
      match members.lookup name with
      | none => some ((), members)
      | some (.tables _ _) => some ((), members)
      | some _ => none)
    path .opened root
  pure ⟨root, some ⟨path, name, true, []⟩⟩

def add (b : Builder) : Statement → Option Builder
  | .pair p =>
    match b.current with
    | none => (insertPair b.root p).map fun root => { b with root := root }
    | some t =>
      (insertPair t.members p).map fun members => { b with current := some { t with members } }
  | .header path name => do openTable (← b.close) path name
  | .listHeader path name => do openListed (← b.close) path name

end Builder

/-- The top level of the document of a list of statements. -/
def build (statements : List Statement) : Option Members := do
  (← statements.foldlM Builder.add Builder.empty).close

mutual

def Node.toSetting : Node → Setting
  | .text s => .text s
  | .moment => .moment
  | .other => .other
  | .array items => .list (toSettings items)
  | .table _ members => .section (toSections members)
  | .tables earlier latest => .list (toLists earlier ++ [.section (toSections latest)])

def toSettings : List Node → List Setting
  | [] => []
  | v :: vs => v.toSetting :: toSettings vs

def toSections : List (String × Node) → List (String × Setting)
  | [] => []
  | (name, v) :: ms => (name, v.toSetting) :: toSections ms

def toLists : List (List (String × Node)) → List Setting
  | [] => []
  | t :: ts => .section (toSections t) :: toLists ts

end

end RpcRoutes.Toml
