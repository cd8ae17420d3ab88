import Mathlib.Data.List.Chain
import Mathlib.Data.List.Infix
import RpcRoutes.Proofs.Path.Composing

/-!
# Seams of joined paths

Where a base and a fragment meet, a joined path has one slash. So the seam brings no two slashes
in a row: what a joined path has of them stood in the base before the slashes it ends in, or in
the fragment behind those it starts with.

* `Path.HasDouble` holds of a text with two slashes in a row; `hasDouble_append_iff` says where
  those of two texts one behind the other can stand.
* `join_seamless`: joining is associative, never gives an empty path and makes no double slash.
-/

namespace RpcRoutes.Path

/-- There are two slashes in a row. -/
def HasDouble (cs : List Char) : Prop := ['/', '/'] <:+: cs

instance (cs : List Char) : Decidable (HasDouble cs) := inferInstanceAs (Decidable (_ <:+: _))

/-! ### Two texts one behind the other -/

/-- No two slashes in a row, said of all neighbours. -/
theorem not_hasDouble_iff {cs : List Char} :
    ¬ HasDouble cs ↔ cs.IsChain fun c d => ¬ (c = '/' ∧ d = '/') := by
  rw [List.isChain_iff_forall_rel_of_append_cons_cons]
  constructor
  · rintro single _ _ front rest rfl ⟨rfl, rfl⟩
    exact single ⟨front, rest, by simp⟩
  · rintro apart ⟨front, rest, rfl⟩
    exact apart (by simp : front ++ ['/', '/'] ++ rest = front ++ '/' :: '/' :: rest) ⟨rfl, rfl⟩

/-- Two slashes in a row stand in one of the texts, or one at the end of the first and the other
at the start of the second. -/
theorem hasDouble_append_iff {front rest : List Char} : HasDouble (front ++ rest) ↔
    HasDouble front ∨ HasDouble rest ∨ front.getLast? = some '/' ∧ rest.head? = some '/' := by
  rw [← not_iff_not]
  simp only [not_or, not_hasDouble_iff, List.isChain_append]
  refine and_congr_right fun _ => and_congr_right fun _ => ?_
  constructor
  · rintro apart ⟨last, first⟩
    exact apart '/' last '/' first ⟨rfl, rfl⟩
  · rintro apart c last d first ⟨rfl, rfl⟩
    exact apart ⟨last, first⟩

/-- A slash in front of what does not start with one makes no double slash. -/
theorem hasDouble_slashed_iff {cs : List Char} (relative : cs.head? ≠ some '/') :
    HasDouble (slashed cs) ↔ HasDouble cs := by
  by_cases empty : cs = []
  · rw [empty]
    rfl
  · have alone : ¬ HasDouble ['/'] := by decide
    have apart : HasDouble (['/'] ++ cs) ↔ _ := hasDouble_append_iff
    rw [slashed_of_ne_nil empty]
    simpa [alone, relative] using apart

/-! ### Joined paths -/

theorem joinChars_ne_nil (base fragment : List Char) : joinChars base fragment ≠ [] := by
  rw [joinChars_eq]
  split
  · exact List.cons_ne_nil _ _
  · assumption

/-- What is left of the two sides meets without a double slash. -/
theorem hasDouble_joinChars_iff {base fragment : List Char} :
    HasDouble (joinChars base fragment) ↔
      HasDouble (dropTrailing base) ∨ HasDouble (dropLeading fragment) := by
  have sides : HasDouble (dropTrailing base ++ slashed (dropLeading fragment)) ↔
      HasDouble (dropTrailing base) ∨ HasDouble (dropLeading fragment) := by
    rw [hasDouble_append_iff, hasDouble_slashed_iff (head?_dropLeading fragment)]
    simp [getLast?_dropTrailing]
  rw [← sides, joinChars_eq]
  split
  · rename_i empty
    rw [empty]
    decide
  · rfl

/-- Joining is associative. A joined path is never empty, and it has two slashes in a row just when
the base has without the slashes that it ends in, or the fragment without those that it starts
with. -/
theorem join_seamless :
    (∀ base middle fragment : String,
      join (join base middle) fragment = join base (join middle fragment)) ∧
    ∀ base fragment : String, join base fragment ≠ "" ∧
      (HasDouble (join base fragment).toList ↔
        HasDouble (dropTrailing base.toList) ∨ HasDouble (dropLeading fragment.toList)) := by
  constructor
  · intro base middle fragment
    rw [← String.toList_inj, toList_join, toList_join, toList_join, toList_join, joinChars_assoc]
  · intro base fragment
    rw [Ne, ← String.toList_eq_nil_iff, toList_join]
    exact ⟨joinChars_ne_nil _ _, hasDouble_joinChars_iff⟩

/-- The slashes at the seam are made one; those inside a side stay. -/
example : join "/api//" "//v1//x" = "/api/v1//x" ∧ HasDouble "/api/v1//x".toList ∧
    ¬ HasDouble (join "/api//" "//v1/").toList := by
  decide

end RpcRoutes.Path
