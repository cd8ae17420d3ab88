import RpcRoutes.Path.Placeholder
import RpcRoutes.Descriptor.Schema

/-!
# Rules

A rule binds a method of a service to an HTTP method and a path pattern. The five standard verbs
give their own token; a custom pattern gives its kind as the method and its path as the pattern,
and counts only when neither is empty.

* `Rule.normalize` turns a verb and the raw texts beside it into a rule.
* `Rule.IsBound` holds of the rules that have a method.
* `Rule.pathParams_eq`: the names that a rule holds are the placeholders of its pattern.
-/

namespace RpcRoutes

inductive Verb where
  | get
  | put
  | post
  | delete
  | patch
  /-- A custom pattern, with its payload if it has one. -/
  | custom (payload : Option CustomPattern)
  deriving DecidableEq, Repr

/-- The HTTP method of a standard verb. -/
def Verb.token? : Verb → Option String
  | .get => some "GET"
  | .put => some "PUT"
  | .post => some "POST"
  | .delete => some "DELETE"
  | .patch => some "PATCH"
  | .custom _ => none

/-- The part of the request message that the body maps to. -/
inductive BodySelector where
  | none
  | whole
  | field (path : String)
  deriving DecidableEq, Repr

/-- The placeholder names of a pattern, read from it once. -/
class PatternNames (pattern : String) where
  names : List String
  names_eq : names = Path.placeholders pattern
  deriving DecidableEq, Repr

instance (pattern : String) : PatternNames pattern := ⟨Path.placeholders pattern, rfl⟩

/-- A binding to an HTTP method and a path pattern. -/
structure Rule where
  /-- The HTTP method; empty in a rule that is not bound. -/
  method : String
  pattern : String
  body : String
  /-- Filled in from the pattern when a rule is made. -/
  [params : PatternNames pattern]
  deriving DecidableEq, Repr

namespace Rule

def unbound : Rule := ⟨"", "", ""⟩

def pathParams (r : Rule) : List String := r.params.names

theorem pathParams_eq (r : Rule) : r.pathParams = Path.placeholders r.pattern :=
  r.params.names_eq

def selector (r : Rule) : BodySelector :=
  if r.body = "" then .none else if r.body = "*" then .whole else .field r.body

def IsBound (r : Rule) : Prop := r.method ≠ ""

instance (r : Rule) : Decidable r.IsBound := inferInstanceAs (Decidable (_ ≠ _))

/-- Method and pattern with a blank between them. -/
def text (r : Rule) : String := r.method ++ " " ++ r.pattern

/-- The rule of a verb. A custom pattern brings its own path; without a kind or without a path
it binds nothing. -/
def normalize (verb : Verb) (pattern body : String) : Rule :=
  match verb with
  | .custom none => unbound
  | .custom (some c) => if c.kind = "" ∨ c.path = "" then unbound else ⟨c.kind, c.path, body⟩
  | .get => ⟨"GET", pattern, body⟩
  | .put => ⟨"PUT", pattern, body⟩
  | .post => ⟨"POST", pattern, body⟩
  | .delete => ⟨"DELETE", pattern, body⟩
  | .patch => ⟨"PATCH", pattern, body⟩

end Rule

end RpcRoutes
