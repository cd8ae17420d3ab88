import RpcRoutes.Proofs.Path.Parameters

/-!
# Filling a pattern

A pattern is filled when every placeholder is replaced by a value and everything else is copied,
from left to right. Where a placeholder starts is said of the text itself: an open brace, a name
and a closing brace. The tokens of a pattern are read off in the same way from the front.

* `Path.IsName` and `Path.StartsHole` say what a placeholder is.
* `tokens_hole` and `tokens_copy` read the first token of a pattern.
* `Path.Fills` relates a pattern and values to the path they give; `fills_iff` says that tokens
  are filled the same way.
-/

namespace RpcRoutes.Path

/-- A name that a placeholder can have. -/
def IsName (name : List Char) : Prop :=
  name ≠ [] ∧ ∀ c ∈ name, c ≠ '/' ∧ c ≠ '{' ∧ c ≠ '}'

/-- The text starts with a placeholder. -/
def StartsHole (pattern : List Char) : Prop :=
  ∃ name rest, IsName name ∧ pattern = '{' :: (name ++ '}' :: rest)

/-! ### The first token -/

namespace Scan

variable {below : List Token}

theorem feed_name {c : Char} {name : List Char} (inner : c ≠ '/' ∧ c ≠ '{' ∧ c ≠ '}') :
    feed ⟨below, some name⟩ c = ⟨below, some (c :: name)⟩ := by
  simp [feed, inner]

/-- The characters of a name stay pending. -/
theorem foldl_feed_name {cs name : List Char} (inner : ∀ c ∈ cs, c ≠ '/' ∧ c ≠ '{' ∧ c ≠ '}') :
    cs.foldl feed ⟨below, some name⟩ = ⟨below, some (cs.reverse ++ name)⟩ := by
  induction cs generalizing name with
  | nil => rfl
  | cons c cs ih =>
      obtain ⟨first, later⟩ := List.forall_mem_cons.mp inner
      rw [List.foldl_cons, feed_name first, ih later, List.reverse_cons, List.append_assoc]
      rfl

/-- A closing brace after a name settles a placeholder. -/
theorem feed_close {name : List Char} (filled : name ≠ []) :
    feed ⟨below, some name.reverse⟩ '}' = start.onTop (.hole name :: below) := by
  cases eq : name.reverse with
  | nil => exact absurd (List.reverse_eq_nil_iff.mp eq) filled
  | cons c cs =>
      rw [← List.reverse_reverse name, eq]
      rfl

/-- A pending brace that no name and closing brace follow is an ordinary character, as are those
after it: giving it up now makes no difference. -/
theorem giveUp_foldl_feed {cs name : List Char} (inner : ∀ c ∈ name, c ≠ '/' ∧ c ≠ '{' ∧ c ≠ '}')
    (unclosed : ∀ part rest, cs = part ++ '}' :: rest → ¬ IsName (name.reverse ++ part)) :
    (cs.foldl feed ⟨below, some name⟩).giveUp =
      (cs.foldl feed ⟨name.map .char ++ .char '{' :: below, none⟩).giveUp := by
  induction cs generalizing name with
  | nil => rfl
  | cons c cs ih =>
      rw [List.foldl_cons, List.foldl_cons]
      by_cases plain : c ≠ '/' ∧ c ≠ '{' ∧ c ≠ '}'
      · have settled : feed ⟨name.map .char ++ .char '{' :: below, none⟩ c =
            ⟨(c :: name).map .char ++ .char '{' :: below, none⟩ := by
          simp [feed, plain]
        rw [feed_name plain, settled]
        refine ih (List.forall_mem_cons.mpr ⟨plain, inner⟩) ?_
        intro part rest eq
        rw [List.reverse_cons, List.append_assoc]
        exact unclosed (c :: part) rest (congrArg (c :: ·) eq)
      · by_cases closing : c = '}'
        · cases name with
          | nil =>
              rw [closing]
              rfl
          | cons d name =>
              refine absurd ⟨by simp, ?_⟩ (unclosed [] cs (congrArg (· :: cs) closing))
              intro e mem
              rw [List.append_nil, List.mem_reverse] at mem
              exact inner e mem
        · -- A slash and an open brace give the pending brace up by themselves.
          have special : c = '/' ∨ c = '{' := by
            simp only [closing, not_false_iff, and_true, ne_eq] at plain
            tauto
          rcases special with rfl | rfl <;> rfl

end Scan

/-- A placeholder at the front is the first token. -/
theorem tokens_hole {name : List Char} (named : IsName name) (rest : List Char) :
    tokens ('{' :: (name ++ '}' :: rest)) = .hole name :: tokens rest := by
  have opened : Scan.start.feed '{' = ⟨[], some []⟩ := rfl
  rw [tokens, List.foldl_cons, opened, List.foldl_append, Scan.foldl_feed_name named.2,
    List.append_nil, List.foldl_cons, Scan.feed_close named.1, Scan.foldl_feed_onTop,
    Scan.giveUp_onTop, List.reverse_append]
  rfl

/-- A character at which no placeholder starts stands for itself. -/
theorem tokens_copy {c : Char} {rest : List Char} (plain : ¬ StartsHole (c :: rest)) :
    tokens (c :: rest) = .char c :: tokens rest := by
  have settled : (rest.foldl Scan.feed (Scan.start.feed c)).giveUp =
      (rest.foldl Scan.feed (Scan.start.onTop [.char c])).giveUp := by
    by_cases opening : c = '{'
    · subst opening
      refine Scan.giveUp_foldl_feed nofun ?_
      intro part rest' eq named
      exact plain ⟨part, rest', named, congrArg ('{' :: ·) eq⟩
    · rw [Scan.feed, if_neg opening]
      rfl
  rw [tokens, List.foldl_cons, settled, Scan.foldl_feed_onTop, Scan.giveUp_onTop,
    List.reverse_append]
  rfl

/-- What holds of the empty pattern, and of a pattern when it holds behind its first token, holds
of every pattern. -/
@[elab_as_elim]
theorem token_induction {motive : List Char → Prop} (nil : motive [])
    (hole : ∀ name rest, IsName name → motive rest → motive ('{' :: (name ++ '}' :: rest)))
    (copy : ∀ c rest, ¬ StartsHole (c :: rest) → motive rest → motive (c :: rest))
    (pattern : List Char) : motive pattern := by
  induction length : pattern.length using Nat.strongRecOn generalizing pattern with
  | ind n ih =>
      subst length
      cases pattern with
      | nil => exact nil
      | cons c rest =>
          by_cases starts : StartsHole (c :: rest)
          · obtain ⟨name, rest', named, eq⟩ := starts
            rw [eq] at ih ⊢
            exact hole name rest' named (ih rest'.length (by simp; omega) rest' rfl)
          · exact copy c rest starts (ih rest.length (by simp) rest rfl)

/-! ### Filling -/

/-- The path that a pattern becomes when each placeholder, from left to right, is replaced by a
value that is not empty and holds no slash, and all else is copied. -/
inductive Fills : List Char → Values → List Char → Prop where
  | done : Fills [] [] []
  | hole {name rest value path : List Char} {values : Values} (named : IsName name)
      (isValue : IsValue value) (later : Fills rest values path) :
      Fills ('{' :: (name ++ '}' :: rest)) (value :: values) (value ++ path)
  | copy {c : Char} {rest path : List Char} {values : Values} (plain : ¬ StartsHole (c :: rest))
      (later : Fills rest values path) : Fills (c :: rest) values (c :: path)

/-- A pattern is filled as its tokens are. -/
theorem fills_iff {pattern path : List Char} {values : Values} : Fills pattern values path ↔
    fill (tokens pattern) values = some path ∧ ∀ value ∈ values, IsValue value := by
  constructor
  · intro fills
    induction fills with
    | done => exact ⟨rfl, nofun⟩
    | hole named isValue _ ih =>
        obtain ⟨filled, areValues⟩ := ih
        rw [tokens_hole named, fill, filled]
        exact ⟨rfl, List.forall_mem_cons.mpr ⟨isValue, areValues⟩⟩
    | copy plain _ ih =>
        obtain ⟨filled, areValues⟩ := ih
        rw [tokens_copy plain, fill, filled]
        exact ⟨rfl, areValues⟩
  · rintro ⟨filled, areValues⟩
    induction pattern using token_induction generalizing values path with
    | nil =>
        cases values with
        | nil =>
            obtain rfl := Option.some.inj filled
            exact .done
        | cons value values => cases filled
    | hole name rest named ih =>
        rw [tokens_hole named] at filled
        cases values with
        | nil => cases filled
        | cons value values =>
            obtain ⟨path', filled', rfl⟩ := Option.map_eq_some_iff.mp filled
            obtain ⟨isValue, areValues'⟩ := List.forall_mem_cons.mp areValues
            exact .hole named isValue (ih filled' areValues')
    | copy c rest plain ih =>
        rw [tokens_copy plain] at filled
        obtain ⟨path', filled', rfl⟩ := Option.map_eq_some_iff.mp filled
        exact .copy plain (ih filled' areValues)

end RpcRoutes.Path
