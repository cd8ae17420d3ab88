import Mathlib.Data.List.DropRight
import RpcRoutes.Proofs.Json.Nesting
import RpcRoutes.Proofs.Json.Spelling

/-!
# Reading a value back

A text of a value is read as that value when the value nests no deeper than the reader allows, and
as nothing usable when it nests deeper.

* `Json.text?From_quote`: what stands between the quotes of a written string is read back.
* `Json.listed?_of_separated`: separated texts are read as the items they spell.
* `Json.read?_of_spells` and `Json.not_usable_of_spells` say what is read from a text of a value.
-/

namespace RpcRoutes.Json

/-! ### Strings -/

/-- The two digits of a control character are read as its number. -/
theorem hex4?_hexChar : ∀ n < 0x20,
    hex4? '0' '0' (hexChar (n / 16)) (hexChar (n % 16)) = some n := by
  decide

/-- A numeric escape below the surrogates stands for the character of that number. -/
theorem textOfPieces?_unit {n : Nat} (low : n < 0xD800) (ps : List StringPiece) :
    textOfPieces? (.unit n :: ps) = (textOfPieces? ps).map (Char.ofNat n :: ·) := by
  rw [textOfPieces?.eq_def]
  dsimp only
  rw [if_neg (by omega), if_neg (by omega)]

/-- An escaped character is read as one piece that stands for it. -/
theorem pieces?_escape (c : Char) : ∃ p : StringPiece,
    (∀ seen rest, pieces? seen (escape c ++ rest) = pieces? (p :: seen) rest) ∧
      ∀ ps, textOfPieces? (p :: ps) = (textOfPieces? ps).map (c :: ·) := by
  unfold escape
  split
  case h_8 _ notQuote notBackslash _ _ _ _ _ =>
    split
    case isTrue control =>
      refine ⟨.unit c.toNat, ?_, ?_⟩
      · intro seen rest
        simp [pieces?, hex4?_hexChar c.toNat control]
      · intro ps
        rw [textOfPieces?_unit (by omega), Char.ofNat_toNat]
    case isFalse printed =>
      refine ⟨.char c, ?_, fun _ => rfl⟩
      intro seen rest
      have plain : ¬ (c = '\\' ∨ c.toNat < 0x20) := not_or_intro notBackslash printed
      rw [List.singleton_append, pieces?, if_neg plain]
      · exact notQuote
      · exact fun _ _ _ _ _ backslash _ => notBackslash backslash
      · exact fun _ _ backslash _ => notBackslash backslash
  -- each short escape reads back as the character it stands for
  all_goals exact ⟨.char _, fun _ _ => rfl, fun _ => rfl⟩

/-- Escaped text is read as pieces that form it. -/
theorem pieces?_flatMap_escape (cs : List Char) : ∃ ps, textOfPieces? ps = some cs ∧
    ∀ seen rest, pieces? seen (cs.flatMap escape ++ '"' :: rest) =
      some (seen.reverse ++ ps, rest) := by
  induction cs with
  | nil => exact ⟨[], rfl, fun seen rest => by simp [pieces?]⟩
  | cons c cs ih =>
      obtain ⟨ps, text, read⟩ := ih
      obtain ⟨p, reads, stands⟩ := pieces?_escape c
      refine ⟨p :: ps, ?_, ?_⟩
      · rw [stands, text]
        rfl
      · intro seen rest
        rw [List.flatMap_cons, List.append_assoc, reads, read, List.reverse_cons,
          List.append_assoc]
        rfl

/-- What stands between the quotes of a written string is read back. -/
theorem text?From_quote (s : String) (rest : List Char) :
    text?From (s.toList.flatMap escape ++ '"' :: rest) = some (some s, rest) := by
  obtain ⟨ps, text, read⟩ := pieces?_flatMap_escape s.toList
  simp [text?From, read, text]

theorem toList_quote (s : String) :
    (quote s).toList = '"' :: (s.toList.flatMap escape ++ ['"']) := by
  simp [quote]

/-! ### White space -/

theorem skipBlank_blanks {blanks : List Char} (blank : IsBlanks blanks) (cs : List Char) :
    skipBlank (blanks ++ cs) = skipBlank cs :=
  List.dropWhile_append_of_pos blank

theorem skipBlank_cons {c : Char} (inked : isBlank c = false) (cs : List Char) :
    skipBlank (c :: cs) = c :: cs := by
  simp [skipBlank, inked]

theorem skipBlank_skipBlank (cs : List Char) : skipBlank (skipBlank cs) = skipBlank cs :=
  List.dropWhile_idempotent isBlank cs

/-- The text starts with neither white space nor the closing character. -/
def Inked (close : Char) (cs : List Char) : Prop :=
  ∃ c rest, cs = c :: rest ∧ isBlank c = false ∧ c ≠ close

theorem Inked.skipBlank {close : Char} {cs : List Char} (inked : Inked close cs)
    (rest : List Char) : skipBlank (cs ++ rest) = cs ++ rest := by
  obtain ⟨c, text, rfl, noBlank, _⟩ := inked
  exact skipBlank_cons noBlank (text ++ rest)

theorem Spells.inked {v : Json} {cs : List Char} (spelled : Spells v cs) : Inked ']' cs := by
  cases spelled with
  | null => exact ⟨'n', _, rfl, rfl, by decide⟩
  | bool b => cases b <;> exact ⟨_, _, rfl, rfl, by decide⟩
  | string s => exact ⟨'"', _, toList_quote s, rfl, by decide⟩
  | emptyArray => exact ⟨'[', _, rfl, rfl, by decide⟩
  | array => exact ⟨'[', _, rfl, rfl, by decide⟩
  | emptyObject => exact ⟨'{', _, rfl, rfl, by decide⟩
  | object => exact ⟨'{', _, rfl, rfl, by decide⟩

theorem SpellsMember.inked {m : String × Json} {cs : List Char} (spelled : SpellsMember m cs) :
    Inked '}' cs := by
  cases spelled with
  | mk =>
      rw [toList_quote, List.cons_append]
      exact ⟨'"', _, rfl, rfl, by decide⟩

/-- Separated texts start with the text of an item, after white space. -/
theorem Separated.first {α : Type} {R : α → List Char → Prop} {as : List α} {text : List Char}
    (spelled : Separated R as text) :
    ∃ a before cs rest, IsBlanks before ∧ R a cs ∧ text = before ++ (cs ++ rest) := by
  cases spelled with
  | last before item _ => exact ⟨_, _, _, _, before, item, rfl⟩
  | more before item _ _ => exact ⟨_, _, _, _, before, item, rfl⟩

/-- Separated texts do not start with the closing character after white space. -/
theorem Separated.head?_skipBlank {α : Type} {R : α → List Char → Prop} {as : List α}
    {text : List Char} (spelled : Separated R as text) {close : Char}
    (inked : ∀ a cs, R a cs → Inked close cs) (rest : List Char) :
    (Json.skipBlank (text ++ rest)).head? ≠ some close := by
  obtain ⟨a, before, item, others, blank, spelledItem, rfl⟩ := spelled.first
  obtain ⟨c, cs, rfl, noBlank, other⟩ := inked a item spelledItem
  rw [List.append_assoc, skipBlank_blanks blank]
  simpa [skipBlank_cons noBlank] using other

/-! ### Items and members -/

/-- Separated texts are read as the items they spell, up to the closing character. -/
theorem listed?_of_separated {α β : Type} {R : α → List Char → Prop} {part : α → β}
    {item : ItemStep β} (close : Char) (inked : isBlank close = false) (noComma : close ≠ ',')
    {as : List α} {text : List Char} (spelled : Separated R as text)
    (reads : ∀ a ∈ as, ∀ before cs rest, IsBlanks before → R a cs → cs.length ≤ text.length →
      item (before ++ (cs ++ rest)) = some (part a, rest))
    {n : Nat} (room : text.length < n) (seen : List β) (rest : List Char) :
    listed? item close n seen (text ++ close :: rest) =
      some (seen.reverse ++ as.map part, rest) := by
  induction spelled generalizing n seen with
  | @last a cs before after blankBefore spelledItem blankAfter =>
      obtain ⟨n, rfl⟩ := Nat.exists_eq_add_one_of_ne_zero (Nat.ne_zero_of_lt room)
      have first := reads a (List.mem_singleton_self a) before cs (after ++ close :: rest)
        blankBefore spelledItem (by simp; omega)
      rw [listed?, List.append_assoc, List.append_assoc, first]
      simp [skipBlank_blanks blankAfter, skipBlank_cons inked, noComma]
  | @more a as cs before after others blankBefore spelledItem blankAfter _ ih =>
      obtain ⟨n, rfl⟩ := Nat.exists_eq_add_one_of_ne_zero (Nat.ne_zero_of_lt room)
      simp only [List.length_append, List.length_cons] at reads room
      have first := reads a List.mem_cons_self before cs (after ++ ',' :: (others ++ close :: rest))
        blankBefore spelledItem (by omega)
      have later := ih (fun b mem before cs rest blank spelled short =>
        reads b (List.mem_cons_of_mem a mem) before cs rest blank spelled (by omega))
        (by omega : others.length < n) (part a :: seen)
      simp only [List.append_assoc, List.cons_append]
      rw [listed?, first]
      simp [skipBlank_blanks blankAfter, skipBlank_cons (rfl : isBlank ',' = false), later]

/-- White space before the first item makes no difference to a loop. -/
theorem listed?_skipBlank {α : Type} {item : ItemStep α} (close : Char)
    (blind : ∀ cs, item (skipBlank cs) = item cs) (n : Nat) (seen : List α) (cs : List Char) :
    listed? item close n seen (skipBlank cs) = listed? item close n seen cs := by
  cases n with
  | zero => rfl
  | succ n => rw [listed?, listed?, blind]

section Loops

variable {value : ReadStep} {bound : Nat} {cs : List Char}

/-- An array that is not closed at once is read by the loop. -/
theorem array?From_eq (filled : (skipBlank cs).head? ≠ some ']') :
    array?From value bound cs =
      (listed? (itemStep value) ']' bound [] cs).map fun found => (.array found.1, found.2) := by
  unfold array?From
  split
  case h_1 closed => exact absurd (closed ▸ rfl) filled
  case h_2 =>
    rw [items?From_eq, listed?_skipBlank _ fun cs => by
      rw [itemStep, itemStep, skipBlank_skipBlank]]
    cases listed? (itemStep value) ']' bound [] cs <;> rfl

/-- An object that is not closed at once is read by the loop. -/
theorem object?From_eq (filled : (skipBlank cs).head? ≠ some '}') :
    object?From value bound cs = listed? (memberStep value) '}' bound [] cs := by
  unfold object?From
  split
  case h_1 closed => exact absurd (closed ▸ rfl) filled
  case h_2 =>
    rw [members?From_eq, listed?_skipBlank _ fun cs => by
      rw [memberStep, memberStep, name?, name?, skipBlank_skipBlank]]

end Loops

theorem itemStep_of_spells {value : ReadStep} {before cs rest : List Char} {v : Json}
    (blank : IsBlanks before) (spelled : Spells v cs)
    (read : value (cs ++ rest) = some (v, rest)) :
    itemStep value (before ++ (cs ++ rest)) = some (v, rest) := by
  rw [itemStep, skipBlank_blanks blank, spelled.inked.skipBlank, read]

/-- A written name with its colon is read back. -/
theorem name?_quote {before : List Char} (blank : IsBlanks before) (name : String)
    (rest : List Char) :
    name? (before ++ ((quote name).toList ++ ':' :: rest)) = some (some name, rest) := by
  have read := text?From_quote name (':' :: rest)
  have quoted : skipBlank (before ++ ((quote name).toList ++ ':' :: rest)) =
      '"' :: (name.toList.flatMap escape ++ '"' :: ':' :: rest) := by
    rw [skipBlank_blanks blank, toList_quote, List.cons_append,
      skipBlank_cons (rfl : isBlank '"' = false), List.append_assoc]
    rfl
  rw [name?, quoted]
  simp [read, skipBlank_cons (rfl : isBlank ':' = false)]

theorem memberStep_of_spells {value : ReadStep} {before text rest : List Char} {m : String × Json}
    (blank : IsBlanks before) (spelled : SpellsMember m text)
    (read : ∀ cs, Spells m.2 cs → cs.length ≤ text.length → value (cs ++ rest) = some (m.2, rest)) :
    memberStep value (before ++ (text ++ rest)) = some ((some m.1, m.2), rest) := by
  cases spelled with
  | @mk name v gap cs blankGap spelledValue =>
      have found := read cs spelledValue (by simp; omega)
      rw [memberStep, List.append_assoc, List.cons_append, List.append_assoc, name?_quote blank]
      simp [skipBlank_blanks blankGap, spelledValue.inked.skipBlank, found]

/-! ### Values -/

theorem IsPlain.isUsable {v : Json} (plain : v.IsPlain) : v.isUsable = true := by
  induction plain with
  | null => rfl
  | bool b => rfl
  | string s => rfl
  | array _ ih => exact areUsable_iff.mpr ih
  | object _ ih => exact haveUsable_iff.mpr ih

/-- A text of a value without levels is read back at every level. -/
theorem value?From_of_flat (bound levels : Nat) {v : Json} {cs : List Char}
    (spelled : Spells v cs) (flat : v.depth = 0) (rest : List Char) :
    value?From bound levels (cs ++ rest) = some (v, rest) := by
  cases spelled with
  | null =>
      rw [value?From_scalar _ _ (by simp) (by simp)]
      rfl
  | bool b =>
      cases b <;> rw [value?From_scalar _ _ (by simp) (by simp)] <;> rfl
  | string s =>
      rw [toList_quote, value?From_scalar _ _ (by simp) (by simp)]
      have read := text?From_quote s rest
      simp [scalar?, read]
  | emptyArray => cases flat
  | array => cases flat
  | emptyObject => cases flat
  | object => cases flat

section Brackets

variable {value : ReadStep} {bound : Nat} {text : List Char}

/-- Separated items are read as an array when each of them is read back. -/
theorem array?From_of_separated {items : List Json} (inside : Separated Spells items text)
    (reads : ∀ v ∈ items, ∀ cs rest, Spells v cs → cs.length ≤ text.length →
      value (cs ++ rest) = some (v, rest))
    (room : text.length < bound) (rest : List Char) :
    array?From value bound (text ++ ']' :: rest) = some (.array items, rest) := by
  have step : ∀ v ∈ items, ∀ before cs rest, IsBlanks before → Spells v cs →
      cs.length ≤ text.length →
      itemStep value (before ++ (cs ++ rest)) = some (id v, rest) := by
    intro v mem before cs rest blank spelled short
    exact itemStep_of_spells blank spelled (reads v mem cs rest spelled short)
  have loop := listed?_of_separated ']' rfl (by decide) inside step room [] rest
  rw [array?From_eq (inside.head?_skipBlank (fun _ _ => Spells.inked) _), loop]
  simp

/-- Separated members are read as an object when each of their values is read back. -/
theorem objectValue?_of_separated {members : List (String × Json)}
    (inside : Separated SpellsMember members text)
    (reads : ∀ m ∈ members, ∀ cs rest, Spells m.2 cs → cs.length ≤ text.length →
      value (cs ++ rest) = some (m.2, rest))
    (room : text.length < bound) (rest : List Char) :
    objectValue? value bound (text ++ '}' :: rest) = some (.object members, rest) := by
  have step : ∀ m ∈ members, ∀ before cs rest, IsBlanks before → SpellsMember m cs →
      cs.length ≤ text.length →
      memberStep value (before ++ (cs ++ rest)) = some ((some m.1, m.2), rest) := by
    intro m mem before cs rest blank spelled short
    refine memberStep_of_spells blank spelled ?_
    intro cs spelledValue shorter
    exact reads m mem cs rest spelledValue (Nat.le_trans shorter short)
  have loop := listed?_of_separated '}' rfl (by decide) inside step room [] rest
  have named := namedMembers?_eq_some_iff.mpr
    (Eq.refl (members.map fun m => (some m.1, m.2)))
  rw [objectValue?, object?From_eq (inside.head?_skipBlank (fun _ _ => SpellsMember.inked) _),
    loop]
  simp [named]

end Brackets

/-- A text of a value is read back with as many levels as the value has. -/
theorem value?From_of_spells (bound : Nat) {levels : Nat} {v : Json} {cs : List Char}
    (spelled : Spells v cs) (shallow : v.depth ≤ levels) (fits : cs.length ≤ bound)
    (rest : List Char) : value?From bound levels (cs ++ rest) = some (v, rest) := by
  induction levels generalizing v cs rest with
  | zero => exact value?From_of_flat bound 0 spelled (Nat.le_zero.mp shallow) rest
  | succ levels ih =>
      cases spelled with
      | null => exact value?From_of_flat bound (levels + 1) .null rfl rest
      | bool b => exact value?From_of_flat bound (levels + 1) (.bool b) rfl rest
      | string s => exact value?From_of_flat bound (levels + 1) (.string s) rfl rest
      | emptyArray => rfl
      | @array items text inside =>
          simp only [List.length_cons, List.length_append, List.length_nil] at fits
          rw [List.cons_append, value?From_array, List.append_assoc]
          refine array?From_of_separated inside ?_ (by omega) rest
          intro v mem cs rest spelled short
          exact ih spelled (depth_array_le_iff.mp shallow v mem) (by omega) rest
      | emptyObject => rfl
      | @object members text inside =>
          simp only [List.length_cons, List.length_append, List.length_nil] at fits
          rw [List.cons_append, value?From_object, List.append_assoc]
          refine objectValue?_of_separated inside ?_ (by omega) rest
          intro m mem cs rest spelled short
          exact ih spelled (depth_object_le_iff.mp shallow m mem) (by omega) rest

/-- A text of a value is read back when the value nests no deeper than the reader allows. -/
theorem read?_of_spells {v : Json} {cs : List Char} (spelled : Spells v cs)
    (shallow : v.depth ≤ maxLevels) : read? cs = some (v, []) := by
  have read := value?From_of_spells cs.length spelled shallow (Nat.le_refl cs.length) []
  have start := spelled.inked.skipBlank []
  rw [List.append_nil] at read start
  rw [read?, start, read]

/-- Nothing usable is read from a text of a value that nests deeper than the reader allows. -/
theorem not_usable_of_spells {v w : Json} {cs rest : List Char} (spelled : Spells v cs)
    (deep : maxLevels < v.depth) (read : read? cs = some (w, rest)) : w.isUsable = false := by
  have start := spelled.inked.skipBlank []
  rw [List.append_nil] at start
  rw [read?, start] at read
  -- with enough levels the value itself is read, and a usable value has no more than its levels
  have whole := value?From_of_spells cs.length spelled (Nat.le_refl v.depth) (Nat.le_refl _) []
  rw [List.append_nil] at whole
  cases usable : w.isUsable with
  | false => rfl
  | true =>
      obtain ⟨shallow, again⟩ := readsWithin_value?From cs.length deep.le cs w rest read usable
      obtain ⟨rfl, -⟩ := Prod.mk.inj (Option.some.inj (again.symm.trans whole))
      exact absurd shallow (Nat.not_le.mpr deep)

end RpcRoutes.Json
