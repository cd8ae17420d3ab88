import Mathlib.Data.List.TakeWhile
import RpcRoutes.Proofs.Path.Rooted

/-!
# Slashes of a base

Joining trims a base at its end only; a root group trims it at its start as well. So the two give
full patterns that differ in their first slashes, if the base has more than one there.

* `joinChars_append`: what stands in front of a base that does not disappear stands in front of
  the joined path.
* `Path.IsDoubled` holds of a base that starts with two slashes and is more than slashes;
  `join_eq_join_root_iff` says that just such a base is joined differently at its root.
-/

namespace RpcRoutes.Path

/-! ### Trimming -/

theorem dropLeading_slash (cs : List Char) : dropLeading ('/' :: cs) = dropLeading cs :=
  List.dropWhile_cons_of_pos rfl

theorem dropLeading_of_ne {c : Char} (differs : c ≠ '/') (cs : List Char) :
    dropLeading (c :: cs) = c :: cs :=
  List.dropWhile_cons_of_neg (by simpa using differs)

theorem dropLeading_eq_nil_iff {cs : List Char} :
    dropLeading cs = [] ↔ ∀ c ∈ cs, c = '/' := by
  simp [dropLeading, List.dropWhile_eq_nil_iff]

theorem dropTrailing_eq_nil {cs : List Char} (slashes : ∀ c ∈ cs, c = '/') :
    dropTrailing cs = [] := by
  rw [dropTrailing, List.reverse_eq_nil_iff]
  refine dropLeading_eq_nil_iff.mpr ?_
  intro c mem
  exact slashes c (List.mem_reverse.mp mem)

/-- What is more than slashes is not trimmed away, and hides from trimming what is in front. -/
theorem dropTrailing_append {cs : List Char} (solid : ∃ c ∈ cs, c ≠ '/') (front : List Char) :
    dropTrailing cs ≠ [] ∧ dropTrailing (front ++ cs) = front ++ dropTrailing cs := by
  obtain ⟨c, mem, differs⟩ := solid
  have kept : cs.reverse.dropWhile (· == '/') ≠ [] := by
    rw [Ne, List.dropWhile_eq_nil_iff]
    intro slashes
    exact differs (by simpa using slashes c (List.mem_reverse.mpr mem))
  constructor
  · rwa [dropTrailing, Ne, List.reverse_eq_nil_iff]
  · rw [dropTrailing, List.reverse_append, List.dropWhile_append, if_neg (by simpa using kept),
      List.reverse_append, List.reverse_reverse, dropTrailing]

/-! ### Joining -/

/-- Joining reads a base without the slashes it ends in. -/
theorem joinChars_congr {base other : List Char} (same : dropTrailing base = dropTrailing other)
    (fragment : List Char) : joinChars base fragment = joinChars other fragment := by
  rw [joinChars, joinChars, same]

theorem joinChars_dropTrailing (base fragment : List Char) :
    joinChars (dropTrailing base) fragment = joinChars base fragment :=
  joinChars_congr (dropTrailing_eq_self (getLast?_dropTrailing base)) fragment

theorem joinChars_nil (fragment : List Char) :
    joinChars [] fragment = '/' :: dropLeading fragment := by
  rw [joinChars]
  cases dropLeading fragment <;> rfl

theorem joinChars_of_ne_nil {base : List Char} (rest : dropTrailing base ≠ [])
    (fragment : List Char) : joinChars base fragment = dropTrailing base ++
      if dropLeading fragment = [] then [] else '/' :: dropLeading fragment := by
  obtain ⟨c, cs, eq⟩ := List.exists_cons_of_ne_nil rest
  rw [joinChars, eq]
  cases dropLeading fragment <;> simp

/-- What stands in front of a base stands in front of the joined path. -/
theorem joinChars_append {base longer front : List Char} (rest : dropTrailing base ≠ [])
    (more : dropTrailing longer = front ++ dropTrailing base) (fragment : List Char) :
    joinChars longer fragment = front ++ joinChars base fragment := by
  have rest' : dropTrailing longer ≠ [] := by
    rw [more]
    exact List.append_ne_nil_of_right_ne_nil _ rest
  rw [joinChars_of_ne_nil rest, joinChars_of_ne_nil rest', more, List.append_assoc]

/-! ### Joining at the root -/

/-- The base starts with two slashes and is more than slashes. -/
def IsDoubled (base : String) : Prop :=
  base.toList.take 2 = ['/', '/'] ∧ ∃ c ∈ base.toList, c ≠ '/'

instance (base : String) : Decidable (IsDoubled base) := inferInstanceAs (Decidable (_ ∧ _))

theorem toList_join_root (base fragment : String) : (join (nest "" base) fragment).toList =
    joinChars ('/' :: dropLeading base.toList) fragment.toList := by
  have root : joinChars "".toList base.toList = '/' :: dropLeading base.toList :=
    joinChars_nil base.toList
  rw [toList_join, toList_nest, joinChars_dropTrailing, root]

/-- A base that is not doubled is joined as it is at its root. -/
theorem join_root_of_not_doubled {base : String} (rooted : base = "" ∨ IsRooted base)
    (single : ¬ IsDoubled base) (fragment : String) :
    join base fragment = join (nest "" base) fragment := by
  rw [← String.toList_inj, toList_join, toList_join_root]
  refine joinChars_congr ?_ _
  rcases rooted with rfl | rooted
  · rfl
  · obtain ⟨rest, start⟩ := List.head?_eq_some_iff.mp rooted
    by_cases solid : ∃ c ∈ base.toList, c ≠ '/'
    · have kept : dropLeading rest = rest := by
        refine List.dropWhile_beq_eq_self_of_head?_ne ?_
        intro again
        obtain ⟨rest', eq⟩ := List.head?_eq_some_iff.mp again
        exact single ⟨by rw [start, eq]; rfl, solid⟩
      rw [start, dropLeading_slash, kept]
    · have slashes : ∀ c ∈ base.toList, c = '/' := by simpa using solid
      rw [dropTrailing_eq_nil slashes, dropLeading_eq_nil_iff.mpr slashes]
      rfl

/-- Behind a slash, trimming at the start takes off nothing but characters in front. -/
theorem exists_front {cs : List Char} (solid : ∃ c ∈ cs, c ≠ '/') :
    dropTrailing ('/' :: dropLeading cs) ≠ [] ∧ ∃ front,
      dropTrailing ('/' :: cs) = front ++ dropTrailing ('/' :: dropLeading cs) := by
  induction cs with
  | nil => simp at solid
  | cons d cs ih =>
      by_cases slash : d = '/'
      · subst slash
        have solid' : ∃ c ∈ cs, c ≠ '/' := by simpa using solid
        obtain ⟨kept, front, eq⟩ := ih solid'
        have hidden : dropTrailing (['/'] ++ '/' :: cs) = ['/'] ++ dropTrailing ('/' :: cs) :=
          (dropTrailing_append (by simpa using solid') _).2
        rw [dropLeading_slash]
        exact ⟨kept, '/' :: front, hidden.trans (congrArg ('/' :: ·) eq)⟩
      · rw [dropLeading_of_ne slash]
        exact ⟨(dropTrailing_append ⟨d, by simp, slash⟩ []).1, [], rfl⟩

/-- A doubled base is joined with slashes in front that it does not have at its root. -/
theorem join_root_of_doubled {base : String} (doubled : IsDoubled base) (fragment : String) :
    ∃ c front, (join base fragment).toList =
      c :: (front ++ (join (nest "" base) fragment).toList) := by
  obtain ⟨twice, solid⟩ := doubled
  obtain ⟨rest, start⟩ : ∃ rest, base.toList = '/' :: '/' :: rest := by
    refine ⟨base.toList.drop 2, ?_⟩
    rw [← List.take_append_drop 2 base.toList, twice]
    rfl
  rw [start] at solid
  have solid' : ∃ c ∈ '/' :: rest, c ≠ '/' := by simpa using solid
  obtain ⟨kept, front, eq⟩ := exists_front (by simpa using solid')
  have hidden : dropTrailing (['/'] ++ '/' :: rest) = ['/'] ++ dropTrailing ('/' :: rest) :=
    (dropTrailing_append solid' _).2
  have more : dropTrailing ('/' :: '/' :: rest) =
      ('/' :: front) ++ dropTrailing ('/' :: dropLeading rest) :=
    hidden.trans (congrArg ('/' :: ·) eq)
  refine ⟨'/', front, ?_⟩
  rw [toList_join, toList_join_root, start, dropLeading_slash, dropLeading_slash]
  exact joinChars_append kept more _

/-- An accepted base and its root give one full pattern just when the base is not doubled. -/
theorem join_eq_join_root_iff {base : String} (rooted : base = "" ∨ IsRooted base)
    (fragment : String) :
    join base fragment = join (nest "" base) fragment ↔ ¬ IsDoubled base := by
  refine ⟨?_, fun single => join_root_of_not_doubled rooted single fragment⟩
  intro same doubled
  obtain ⟨c, front, eq⟩ := join_root_of_doubled doubled fragment
  have lengths := congrArg List.length eq
  rw [same, List.length_cons, List.length_append] at lengths
  omega

end RpcRoutes.Path
