import Mathlib.Data.List.DropRight
import Mathlib.Data.List.Induction
import RpcRoutes.Proofs.Path.Joining

/-!
# Composing bases

Nesting fragments in each other gives what each of them adds: a slash and the fragment without the
slashes around it, or nothing when there is no more to it. Where the slashes are written does not
matter, and neither does the order in which fragments are joined.

* `Path.composed` puts the parts of a base one behind the other; `foldl_nest` says that nesting
  does the same.
* `Path.under` is a pattern below a base; `join_eq_under` says that joining gives it.
* `joinChars_assoc`: joining is associative, so `nest_nest` and `join_nest` take fragments
  together.
-/

namespace RpcRoutes.Path

/-- A text behind a slash, unless it is empty. -/
def slashed (cs : List Char) : List Char := if cs = [] then [] else '/' :: cs

/-- The fragment is more than slashes. -/
def IsSolid (fragment : String) : Prop := ∃ c ∈ fragment.toList, c ≠ '/'

instance (fragment : String) : Decidable (IsSolid fragment) :=
  inferInstanceAs (Decidable (∃ c ∈ _, _))

/-- A fragment without the slashes that it starts with and those that it ends in. -/
def trimmed (fragment : String) : String :=
  String.ofList (dropTrailing (dropLeading fragment.toList))

/-- Fragments one behind the other, each trimmed and behind a slash; those that are no more than
slashes are left out. -/
def composed (fragments : List String) : String :=
  String.join ((fragments.filter (IsSolid ·)).map fun fragment => "/" ++ trimmed fragment)

/-- A pattern below a base: behind the base and a slash, without the slashes that it starts with.
When nothing is left of it this is the base, and when that is empty too it is the root. -/
def under (base pattern : String) : String :=
  let rest := String.ofList (dropLeading pattern.toList)
  if rest ≠ "" then base ++ "/" ++ rest else if base ≠ "" then base else "/"

/-! ### What is left of a joined path -/

section Trimming

variable {cs front : List Char}

theorem slashed_of_ne_nil (rest : cs ≠ []) : slashed cs = '/' :: cs := if_neg rest

theorem dropLeading_ne_nil_iff : dropLeading cs ≠ [] ↔ ∃ c ∈ cs, c ≠ '/' := by
  simp [dropLeading_eq_nil_iff]

theorem dropLeading_dropLeading (cs : List Char) : dropLeading (dropLeading cs) = dropLeading cs :=
  List.dropWhile_idempotent _ _

theorem head?_dropLeading (cs : List Char) : (dropLeading cs).head? ≠ some '/' := by
  intro first
  have kept := List.head?_dropWhile_not (· == '/') cs
  rw [← dropLeading, first] at kept
  simp at kept

theorem dropLeading_append (slashes : ∀ c ∈ front, c = '/') (cs : List Char) :
    dropLeading (front ++ cs) = dropLeading cs := by
  apply List.dropWhile_append_of_pos
  simpa using slashes

/-- Nothing but slashes is trimmed. -/
theorem exists_slashes (cs : List Char) :
    ∃ front, (∀ c ∈ front, c = '/') ∧ cs = front ++ dropLeading cs := by
  refine ⟨cs.takeWhile (· == '/'), ?_, List.takeWhile_append_dropWhile.symm⟩
  intro c mem
  simpa using List.mem_takeWhile_imp mem

/-- What is left is solid, so trimming it at its end leaves some of it. -/
theorem solid_dropLeading (rest : dropLeading cs ≠ []) : ∃ c ∈ dropLeading cs, c ≠ '/' := by
  apply dropLeading_ne_nil_iff.mp
  rwa [dropLeading_dropLeading]

theorem dropTrailing_dropLeading_ne_nil (rest : dropLeading cs ≠ []) :
    dropTrailing (dropLeading cs) ≠ [] :=
  (dropTrailing_append (solid_dropLeading rest) []).1

/-- A joined path is what is left of its two sides, or the root when that is nothing. -/
theorem joinChars_eq (base fragment : List Char) : joinChars base fragment =
    if dropTrailing base ++ slashed (dropLeading fragment) = [] then ['/']
    else dropTrailing base ++ slashed (dropLeading fragment) := by
  by_cases rest : dropTrailing base = []
  · rw [joinChars, rest]
    cases dropLeading fragment <;> rfl
  · rw [joinChars_of_ne_nil rest, if_neg (List.append_ne_nil_of_left_ne_nil rest _), slashed]

/-- At its end a joined path is trimmed as its fragment is. -/
theorem dropTrailing_joinChars (base fragment : List Char) :
    dropTrailing (joinChars base fragment) =
      dropTrailing base ++ slashed (dropTrailing (dropLeading fragment)) := by
  rw [joinChars_eq]
  by_cases rest : dropLeading fragment = []
  · have nothing : slashed (dropTrailing (dropLeading fragment)) = [] := by
      rw [rest]
      rfl
    rw [nothing, rest, slashed, if_pos rfl, List.append_nil]
    split
    · rename_i empty
      rw [empty]
      rfl
    · exact dropTrailing_eq_self (getLast?_dropTrailing base)
  · have hidden := (dropTrailing_append (solid_dropLeading rest) (dropTrailing base ++ ['/'])).2
    rw [slashed_of_ne_nil rest, if_neg (by simp),
      slashed_of_ne_nil (dropTrailing_dropLeading_ne_nil rest)]
    simpa only [List.append_assoc, List.singleton_append] using hidden

/-- At its start a joined path is trimmed as its base is, and if nothing is left of the base then
as its fragment is. -/
theorem dropLeading_joinChars (base fragment : List Char) :
    dropLeading (joinChars base fragment) =
      if dropLeading base = [] then dropLeading fragment
      else dropTrailing (dropLeading base) ++ slashed (dropLeading fragment) := by
  rw [joinChars_eq]
  by_cases rest : dropLeading base = []
  · rw [if_pos rest, dropTrailing_eq_nil (dropLeading_eq_nil_iff.mp rest), List.nil_append]
    by_cases empty : dropLeading fragment = []
    · rw [empty]
      rfl
    · rw [slashed_of_ne_nil empty, if_neg (List.cons_ne_nil _ _), dropLeading_slash,
        dropLeading_dropLeading]
  · obtain ⟨front, slashes, split⟩ := exists_slashes base
    have kept := dropTrailing_dropLeading_ne_nil rest
    have trimmed_eq : dropTrailing base = front ++ dropTrailing (dropLeading base) := by
      conv_lhs => rw [split]
      exact (dropTrailing_append (solid_dropLeading rest) front).2
    rw [if_neg rest, trimmed_eq, if_neg (by simp [kept]), List.append_assoc,
      dropLeading_append slashes]
    apply List.dropWhile_beq_eq_self_of_head?_ne
    rw [List.head?_append_of_ne_nil _ kept, head?_dropTrailing kept]
    exact head?_dropLeading base

/-- Behind a slash, a joined path is its two sides behind slashes. -/
theorem slashed_joinChars (base fragment : List Char) :
    slashed (dropLeading (joinChars base fragment)) =
      slashed (dropTrailing (dropLeading base)) ++ slashed (dropLeading fragment) := by
  rw [dropLeading_joinChars]
  by_cases rest : dropLeading base = []
  · rw [if_pos rest, rest]
    rfl
  · have kept := dropTrailing_dropLeading_ne_nil rest
    rw [if_neg rest, slashed_of_ne_nil kept,
      slashed_of_ne_nil (List.append_ne_nil_of_left_ne_nil kept _), List.cons_append]

/-- Joining is associative. -/
theorem joinChars_assoc (base middle fragment : List Char) :
    joinChars (joinChars base middle) fragment = joinChars base (joinChars middle fragment) := by
  rw [joinChars_eq (joinChars base middle) fragment,
    joinChars_eq base (joinChars middle fragment), dropTrailing_joinChars, slashed_joinChars,
    List.append_assoc]

end Trimming

/-! ### Bases inside each other -/

section Nesting

variable {base : String}

/-- Nesting in two steps is nesting the joined fragments. -/
theorem nest_nest (parent outer inner : String) :
    nest (nest parent outer) inner = nest parent (join outer inner) := by
  rw [← String.toList_inj, toList_nest, toList_nest, toList_nest, toList_join,
    joinChars_dropTrailing, joinChars_assoc]

/-- Joining to a nested base is joining the joined fragments to its parent. -/
theorem join_nest (parent outer pattern : String) :
    join (nest parent outer) pattern = join parent (join outer pattern) := by
  rw [← String.toList_inj, toList_join, toList_join, toList_nest, toList_join,
    joinChars_dropTrailing, joinChars_assoc]

theorem toList_composed (fragments : List String) : (composed fragments).toList =
    fragments.flatMap fun fragment => slashed (dropTrailing (dropLeading fragment.toList)) := by
  induction fragments with
  | nil => rfl
  | cons fragment fragments ih =>
      rw [List.flatMap_cons, ← ih, composed, composed, List.filter_cons]
      by_cases solid : IsSolid fragment
      · have kept := dropTrailing_dropLeading_ne_nil (dropLeading_ne_nil_iff.mpr solid)
        simp [solid, slashed_of_ne_nil kept, trimmed]
      · have slashes : dropLeading fragment.toList = [] :=
          Decidable.not_not.mp (mt dropLeading_ne_nil_iff.mp solid)
        have nothing : slashed (dropTrailing (dropLeading fragment.toList)) = [] := by
          rw [slashes]
          rfl
        simp [solid, nothing]

theorem IsBase.dropTrailing_eq (isBase : IsBase base) : dropTrailing base.toList = base.toList := by
  rcases isBase with rfl | ⟨_, open_ended⟩
  · rfl
  · exact dropTrailing_eq_self open_ended

/-- What is nested in a base stands behind it. -/
theorem foldl_nest_of_isBase (isBase : IsBase base) (fragments : List String) :
    fragments.foldl nest base = base ++ composed fragments := by
  induction fragments generalizing base with
  | nil => exact (String.append_empty).symm
  | cons fragment fragments ih =>
      rw [List.foldl_cons, ih (isBase_nest isBase fragment), ← String.toList_inj,
        String.toList_append, String.toList_append, toList_nest, dropTrailing_joinChars,
        isBase.dropTrailing_eq, toList_composed, toList_composed, List.flatMap_cons,
        List.append_assoc]

theorem foldl_nest (fragments : List String) : fragments.foldl nest "" = composed fragments := by
  rw [foldl_nest_of_isBase (Or.inl rfl), String.empty_append]

example : ["api/", "//", "", "//v1//items/"].foldl nest "" = "/api/v1//items" := by decide

theorem isBase_composed (fragments : List String) : IsBase (composed fragments) := by
  rw [← foldl_nest]
  induction fragments using List.reverseRecOn with
  | nil => exact Or.inl rfl
  | append_singleton fragments fragment ih =>
      rw [List.foldl_append]
      exact isBase_nest ih fragment

/-- What is joined to a base stands below it. -/
theorem join_eq_under (isBase : IsBase base) (pattern : String) :
    join base pattern = under base pattern := by
  rw [← String.toList_inj, toList_join, joinChars_eq, isBase.dropTrailing_eq]
  by_cases rest : dropLeading pattern.toList = []
  · by_cases empty : base = ""
    · simp [under, rest, slashed, empty]
    · simp [under, rest, slashed, empty]
  · simp [under, rest, slashed]

end Nesting

end RpcRoutes.Path
