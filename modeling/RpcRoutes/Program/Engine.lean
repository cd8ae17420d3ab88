import RpcRoutes.Path.Template

/-!
# The engine of the program

The engine that the program compiles patterns with has a limit on the memory that a compiled
pattern may take. How much that is for a given pattern is not known here; the limit is modelled by
a bound on the placeholders, which take most of it. Only runs on given inputs evaluate it: what is
said of all routes holds for every engine.
-/

namespace RpcRoutes

/-- The engine that accepts the patterns with at most this many placeholders. -/
@[reducible]
def PatternEngine.bounded (limit : Nat) : PatternEngine :=
  ⟨fun pattern => decide ((Path.placeholders pattern).length ≤ limit)⟩

instance : PatternEngine := .bounded 10000

end RpcRoutes
