import RpcRoutes.Path.Match

/-!
# Path templates

A template is a pattern that was read once and is then matched against many paths. A match
yields the placeholder names of the pattern with the values that the path gives them.

Patterns are compiled by an engine that may refuse one, for instance when what it compiles to is
too large. Which ones it refuses is its own affair: everything that compiles patterns takes the
engine as an instance argument, and `Program.Engine` picks the one that the program runs with.

* `Template.compile?` is the template of an accepted pattern.
* `Template.params?` matches a path; `PathParams.get?` reads one captured value.
-/

namespace RpcRoutes

/-- Captured parameters in pattern order. A pattern may name a placeholder twice, so a name may
occur twice. -/
structure PathParams where
  entries : List (String × String)
  deriving DecidableEq, Repr

/-- The value of the first parameter of a name. -/
def PathParams.get? (params : PathParams) (name : String) : Option String :=
  params.entries.lookup name

/-- An engine that compiles patterns, as far as a caller can tell: it accepts a pattern or not. -/
class PatternEngine where
  accepts : String → Bool

structure Template where
  /-- The pattern as it was given. -/
  pattern : String
  /-- Its tokens, read once. -/
  tokens : List Path.Token
  /-- The tokens are those of the pattern. -/
  tokens_eq : tokens = Path.tokens pattern.toList
  deriving DecidableEq, Repr

namespace Template

/-- Reads a pattern; none when the engine refuses it. -/
def compile? [PatternEngine] (pattern : String) : Option Template :=
  if PatternEngine.accepts pattern then some ⟨pattern, Path.tokens pattern.toList, rfl⟩ else none

def names (t : Template) : List String := (t.tokens.filterMap Path.Token.name?).map String.ofList

/-- The parameters that a path gives the placeholders, or none when it does not match. -/
def params? (t : Template) (path : String) : Option PathParams :=
  (Path.values? t.tokens path.toList).map fun values =>
    ⟨t.names.zip (values.map String.ofList)⟩

theorem pattern_of_compile? [PatternEngine] {pattern : String} {t : Template}
    (h : compile? pattern = some t) : t.pattern = pattern := by
  unfold compile? at h
  split at h
  · injection h with h
    rw [← h]
  · exact absurd h (by simp)

theorem isSome_compile?_iff [PatternEngine] {pattern : String} :
    (compile? pattern).isSome ↔ PatternEngine.accepts pattern := by
  rw [compile?]
  split
  · rename_i accepted
    exact iff_of_true rfl accepted
  · rename_i refused
    exact iff_of_false (by simp) refused

theorem names_eq (t : Template) : t.names = Path.placeholders t.pattern := by
  rw [names, t.tokens_eq, Path.placeholders]

end Template

end RpcRoutes
