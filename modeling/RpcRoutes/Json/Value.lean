/-!
# JSON values

A JSON value as its text gives it: an object keeps its members in order and keeps a name that
occurs twice, and a number keeps its text, because nothing here computes with it. A value that
cannot be used is kept as its text.

* `Json.depth` is the number of arrays and objects around the innermost value.
* `Json.isUsable` says that nothing in a value is kept as text.
* `Json.record?` reads an object or an array as a record with known fields.
-/

namespace RpcRoutes

inductive Json where
  | null
  | bool (b : Bool)
  | number (text : String)
  | string (s : String)
  | array (items : List Json)
  /-- An object, its members in order. -/
  | object (members : List (String × Json))
  /-- A value that cannot be used, as its text. -/
  | raw (text : String)
  deriving Repr, Inhabited

namespace Json

mutual

/-- How deeply arrays and objects nest in a value. -/
def depth : Json → Nat
  | .array items => depthItems items + 1
  | .object members => depthMembers members + 1
  | _ => 0

def depthItems : List Json → Nat
  | [] => 0
  | v :: vs => max v.depth (depthItems vs)

def depthMembers : List (String × Json) → Nat
  | [] => 0
  | (_, v) :: ms => max v.depth (depthMembers ms)

end

mutual

/-- Nothing in a value is kept as text. -/
def isUsable : Json → Bool
  | .array items => areUsable items
  | .object members => haveUsable members
  | .raw _ => false
  | _ => true

def areUsable : List Json → Bool
  | [] => true
  | v :: vs => v.isUsable && areUsable vs

def haveUsable : List (String × Json) → Bool
  | [] => true
  | (_, v) :: ms => v.isUsable && haveUsable ms

end

/-- The fields of a record, each under any of its names, in the order of `fields`; a field that
is not given is `none`. A record is an object, in which a field occurs once at most and unknown
names count for nothing, or an array of its fields from the first, which may end early. -/
def record? (fields : List (List String)) : Json → Option (List (Option Json))
  | .object members =>
    fields.mapM fun names =>
      match members.filter fun m => names.contains m.1 with
      | [] => some none
      | [m] => some (some m.2)
      | _ => none
  | .array items =>
    if items.length ≤ fields.length then
      some (items.map some ++ List.replicate (fields.length - items.length) none)
    else none
  | _ => none

def string? : Json → Option String
  | .string s => some s
  | _ => none

def items? : Json → Option (List Json)
  | .array items => some items
  | _ => none

end Json

end RpcRoutes
