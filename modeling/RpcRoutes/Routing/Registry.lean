import RpcRoutes.Routing.Key

/-!
# Registries

A registry holds the texts of the routes that were claimed in it. A claim succeeds when the text
is new, and only then changes the registry; nothing is ever given back.

* `Registry.claim` claims a key, `Registry.Holds` says that its text was claimed.
-/

namespace RpcRoutes

/-- The claimed texts, the latest first. -/
structure Registry where
  /-- The texts, each once. -/
  texts : List String
  deriving DecidableEq, Repr

namespace Registry

def empty : Registry := ⟨[]⟩

/-- The text of the key is claimed. -/
def Holds (r : Registry) (key : RouteKey) : Prop := key.text ∈ r.texts

instance (r : Registry) (key : RouteKey) : Decidable (r.Holds key) :=
  inferInstanceAs (Decidable (_ ∈ _))

def size (r : Registry) : Nat := r.texts.length

/-- Claims a key, and tells whether its text was new. -/
def claim (r : Registry) (key : RouteKey) : Registry × Bool :=
  if r.Holds key then (r, false) else (⟨key.text :: r.texts⟩, true)

@[simp] theorem not_holds_empty (key : RouteKey) : ¬ empty.Holds key := List.not_mem_nil

theorem claim_of_holds {r : Registry} {key : RouteKey} (h : r.Holds key) :
    r.claim key = (r, false) := if_pos h

theorem claim_of_not_holds {r : Registry} {key : RouteKey} (h : ¬ r.Holds key) :
    r.claim key = (⟨key.text :: r.texts⟩, true) := if_neg h

/-- A claim tells that the text was not claimed before. -/
theorem claim_snd_iff {r : Registry} {key : RouteKey} : (r.claim key).2 = true ↔ ¬ r.Holds key := by
  by_cases h : r.Holds key
  · simp [claim_of_holds h, h]
  · simp [claim_of_not_holds h, h]

/-- After a claim the registry holds what it held before and the claimed key. -/
theorem holds_claim_iff {r : Registry} {key other : RouteKey} :
    (r.claim key).1.Holds other ↔ r.Holds other ∨ other.text = key.text := by
  by_cases h : r.Holds key
  · rw [claim_of_holds h]
    constructor
    · exact Or.inl
    · rintro (hother | heq)
      · exact hother
      · rw [Holds, heq]
        exact h
  · rw [claim_of_not_holds h]
    constructor
    · intro hother
      rcases List.mem_cons.mp hother with heq | hold
      · exact Or.inr heq
      · exact Or.inl hold
    · rintro (hother | heq)
      · exact List.mem_cons_of_mem _ hother
      · exact List.mem_cons.mpr (Or.inl heq)

end Registry

end RpcRoutes
