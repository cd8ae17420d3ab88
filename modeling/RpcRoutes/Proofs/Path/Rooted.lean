import RpcRoutes.Path.Join

/-!
# Rooted paths

A rooted path starts with a slash. A base is empty, or rooted and without a slash at its end.

* `isBase_nest`: what is nested in a base is a base, so every group has one.
* `isRooted_join`: what is joined to a base is rooted, so every full pattern is.
* `nest_root`: a base that starts with one slash only is the base of its own root group.
-/

namespace RpcRoutes.Path

/-- The path starts with a slash. -/
def IsRooted (path : String) : Prop := path.toList.head? = some '/'

instance (path : String) : Decidable (IsRooted path) := inferInstanceAs (Decidable (_ = _))

/-- The path is empty, or starts with a slash and does not end in one. -/
def IsBase (base : String) : Prop :=
  base = "" ∨ IsRooted base ∧ base.toList.getLast? ≠ some '/'

instance (base : String) : Decidable (IsBase base) := inferInstanceAs (Decidable (_ ∨ _))

/-- The path is empty, or starts with exactly one slash and does not end in one. -/
def IsNormal (base : String) : Prop := IsBase base ∧ base.toList.tail.head? ≠ some '/'

instance (base : String) : Decidable (IsNormal base) := inferInstanceAs (Decidable (_ ∧ _))

/-! ### Slashes at the end -/

theorem dropTrailing_eq_self {cs : List Char} (open_ended : cs.getLast? ≠ some '/') :
    dropTrailing cs = cs := by
  have unslashed : cs.reverse.head? ≠ some '/' := by rwa [List.head?_reverse]
  rw [dropTrailing, List.dropWhile_beq_eq_self_of_head?_ne unslashed, List.reverse_reverse]

theorem getLast?_dropTrailing (cs : List Char) : (dropTrailing cs).getLast? ≠ some '/' := by
  intro last
  rw [dropTrailing, List.getLast?_reverse] at last
  have kept := List.head?_dropWhile_not (· == '/') cs.reverse
  rw [last] at kept
  simp at kept

theorem dropTrailing_prefix (cs : List Char) : dropTrailing cs <+: cs := by
  have suffix := List.dropWhile_suffix (l := cs.reverse) (· == '/')
  rw [← List.reverse_prefix, List.reverse_reverse] at suffix
  exact suffix

/-- Dropping slashes at the end drops everything or keeps the start. -/
theorem head?_dropTrailing {cs : List Char} (rest : dropTrailing cs ≠ []) :
    (dropTrailing cs).head? = cs.head? := by
  obtain ⟨dropped, eq⟩ := dropTrailing_prefix cs
  obtain ⟨c, kept, start⟩ := List.exists_cons_of_ne_nil rest
  rw [start] at eq ⊢
  rw [← eq]
  rfl

/-! ### Joining and nesting -/

theorem head?_joinChars {base : List Char} (rooted : base = [] ∨ base.head? = some '/')
    (fragment : List Char) : (joinChars base fragment).head? = some '/' := by
  have kept : dropTrailing base = [] ∨ (dropTrailing base).head? = some '/' := by
    by_cases rest : dropTrailing base = []
    · exact Or.inl rest
    · right
      rw [head?_dropTrailing rest]
      rcases rooted with nil | rooted
      · rw [nil] at rest
        exact absurd rfl rest
      · exact rooted
  unfold joinChars
  split
  · rfl
  · rename_i c cs eq _
    rw [eq] at kept
    exact kept.resolve_left (List.cons_ne_nil c cs)
  · cases eq : dropTrailing base with
    | nil => rfl
    | cons c cs =>
        rw [eq] at kept
        exact kept.resolve_left (List.cons_ne_nil c cs)

theorem IsBase.head? {base : String} (isBase : IsBase base) :
    base.toList = [] ∨ base.toList.head? = some '/' := by
  rcases isBase with rfl | ⟨rooted, _⟩
  · exact Or.inl rfl
  · exact Or.inr rooted

/-- What is joined to a base starts with a slash. -/
theorem isRooted_join {base : String} (isBase : IsBase base) (fragment : String) :
    IsRooted (join base fragment) := by
  rw [IsRooted, toList_join]
  exact head?_joinChars isBase.head? _

/-- What is nested in a base is a base. -/
theorem isBase_nest {parent : String} (isBase : IsBase parent) (fragment : String) :
    IsBase (nest parent fragment) := by
  by_cases rest : (nest parent fragment).toList = []
  · exact Or.inl (String.toList_eq_nil_iff.mp rest)
  · refine Or.inr ⟨?_, ?_⟩
    · rw [toList_nest] at rest
      rw [IsRooted, toList_nest, head?_dropTrailing rest]
      exact head?_joinChars isBase.head? _
    · rw [toList_nest]
      exact getLast?_dropTrailing _

/-- The root of a site has a base. -/
theorem isBase_root (base : String) : IsBase (nest "" base) := isBase_nest (Or.inl rfl) base

/-- A base that starts with one slash only stays as it is at the root. -/
theorem nest_root {base : String} (normal : IsNormal base) : nest "" base = base := by
  obtain ⟨isBase, single⟩ := normal
  rw [← String.toList_inj, toList_nest]
  rcases isBase with rfl | ⟨rooted, open_ended⟩
  · rfl
  · obtain ⟨rest, eq⟩ := List.head?_eq_some_iff.mp rooted
    rw [eq] at single open_ended ⊢
    have kept : dropLeading ('/' :: rest) = rest :=
      List.dropWhile_beq_eq_self_of_head?_ne (a := '/') single
    have joined : joinChars "".toList ('/' :: rest) = '/' :: rest := by
      rw [joinChars, kept]
      cases rest with
      | nil => rfl
      | cons c cs => rfl
    rw [joined, dropTrailing_eq_self open_ended]

end RpcRoutes.Path
