import RpcRoutes.Json.Printer
import RpcRoutes.Json.Reader

/-!
# Texts of JSON values

A value has many texts: white space may stand around every item and every member. The relation
between values and texts is given by the grammar, for values without numbers and without parts
that are kept as text, and does not say how the text is laid out; the two written forms are two
of the texts of a value.

* `Json.Spells` says that a text is one of a value's texts, `Json.Separated` that texts of items
  stand between commas.
* `Json.spells_compact` and `Json.spells_pretty`: the written forms are texts of the value.
-/

namespace RpcRoutes.Json

/-- White space and nothing else. -/
def IsBlanks (cs : List Char) : Prop := ∀ c ∈ cs, isBlank c = true

/-- Texts of the items of a list, one at least, with commas between them and white space around
them. -/
inductive Separated {α : Type} (R : α → List Char → Prop) : List α → List Char → Prop
  | last {a : α} {cs before after : List Char} (blankBefore : IsBlanks before) (item : R a cs)
      (blankAfter : IsBlanks after) : Separated R [a] (before ++ (cs ++ after))
  | more {a : α} {as : List α} {cs before after rest : List Char}
      (blankBefore : IsBlanks before) (item : R a cs) (blankAfter : IsBlanks after)
      (others : Separated R as rest) :
      Separated R (a :: as) (before ++ (cs ++ (after ++ ',' :: rest)))

mutual

/-- A text of a value, without white space around it. -/
inductive Spells : Json → List Char → Prop
  | null : Spells .null "null".toList
  | bool (b : Bool) : Spells (.bool b) (if b then "true" else "false").toList
  | string (s : String) : Spells (.string s) (quote s).toList
  | emptyArray : Spells (.array []) ['[', ']']
  | array {items : List Json} {cs : List Char} (inside : Separated Spells items cs) :
      Spells (.array items) ('[' :: (cs ++ [']']))
  | emptyObject : Spells (.object []) ['{', '}']
  | object {members : List (String × Json)} {cs : List Char}
      (inside : Separated SpellsMember members cs) :
      Spells (.object members) ('{' :: (cs ++ ['}']))

/-- A text of a member: its name, a colon and a text of its value. -/
inductive SpellsMember : String × Json → List Char → Prop
  | mk {name : String} {v : Json} {gap cs : List Char} (blankGap : IsBlanks gap)
      (value : Spells v cs) : SpellsMember (name, v) ((quote name).toList ++ ':' :: (gap ++ cs))

end

/-- No part of a value is a number or kept as text. -/
inductive IsPlain : Json → Prop
  | null : IsPlain .null
  | bool (b : Bool) : IsPlain (.bool b)
  | string (s : String) : IsPlain (.string s)
  | array {items : List Json} (inside : ∀ v ∈ items, IsPlain v) : IsPlain (.array items)
  | object {members : List (String × Json)} (inside : ∀ m ∈ members, IsPlain m.2) :
      IsPlain (.object members)

/-! ### Separated items -/

theorem IsBlanks.nil : IsBlanks [] := nofun

theorem isBlanks_indent (level : Nat) : IsBlanks (indent level).toList := by
  intro c blank
  simp only [indent, String.toList_append, String.toList_ofList, List.mem_append,
    List.mem_replicate] at blank
  rcases blank with newline | ⟨_, rfl⟩
  · rw [List.mem_singleton.mp newline]
    rfl
  · rfl

/-- Texts with the same white space before each of them, and some after the last one. -/
theorem separated_intercalate {α : Type} {R : α → List Char → Prop} {text : α → String}
    {blanks after : List Char} (before : IsBlanks blanks) (last : IsBlanks after) :
    ∀ {as : List α}, as ≠ [] → (∀ a ∈ as, R a (text a).toList) →
      Separated R as
        (blanks ++ ((',' :: blanks).intercalate (as.map fun a => (text a).toList) ++ after))
  | [], filled, _ => absurd rfl filled
  | [a], _, items => by
      rw [List.map_singleton, List.intercalate_singleton]
      exact .last before (items a (List.mem_singleton_self a)) last
  | a :: b :: as, _, items => by
      obtain ⟨first, others⟩ := List.forall_mem_cons.mp items
      have later := separated_intercalate before last (List.cons_ne_nil b as) others
      rw [List.map_cons, List.intercalate_cons_of_ne_nil (by simp), List.append_assoc,
        List.append_assoc]
      exact .more before first .nil later

/-! ### The written forms -/

theorem compactItems_eq (items : List Json) : compactItems items = items.map compact := by
  induction items with
  | nil => rfl
  | cons v vs ih => rw [compactItems, ih, List.map_cons]

theorem compactMembers_eq (members : List (String × Json)) :
    compactMembers members = members.map fun m => quote m.1 ++ ":" ++ compact m.2 := by
  induction members with
  | nil => rfl
  | cons m ms ih => rw [compactMembers, ih, List.map_cons]

theorem prettyItems_eq (level : Nat) (items : List Json) :
    prettyItems level items = items.map (prettyAt level) := by
  induction items with
  | nil => rfl
  | cons v vs ih => rw [prettyItems, ih, List.map_cons]

theorem prettyMembers_eq (level : Nat) (members : List (String × Json)) :
    prettyMembers level members =
      members.map fun m => quote m.1 ++ ": " ++ prettyAt level m.2 := by
  induction members with
  | nil => rfl
  | cons m ms ih => rw [prettyMembers, ih, List.map_cons]

section Brackets

variable {α : Type} {R : α → List Char → Prop} {text : α → String} {as : List α}

/-- Texts between brackets on one line are separated. -/
theorem separated_line (opening closing : String) (filled : as ≠ [])
    (items : ∀ a ∈ as, R a (text a).toList) :
    ∃ cs, Separated R as cs ∧
      (opening ++ ",".intercalate (as.map text) ++ closing).toList =
        opening.toList ++ (cs ++ closing.toList) := by
  refine ⟨_, separated_intercalate .nil .nil filled items, ?_⟩
  simp [String.toList_intercalate, Function.comp_def]

/-- Texts in a block are separated. -/
theorem separated_block (opening closing : String) (level : Nat) (filled : as ≠ [])
    (items : ∀ a ∈ as, R a (text a).toList) :
    ∃ cs, Separated R as cs ∧
      (block opening closing level (as.map text)).toList =
        opening.toList ++ (cs ++ closing.toList) := by
  refine ⟨_, separated_intercalate (isBlanks_indent (level + 1)) (isBlanks_indent level) filled
    items, ?_⟩
  rw [block]
  · simp [String.toList_intercalate, Function.comp_def]
  · simpa using filled

end Brackets

/-- The compact form of a value is a text of it. -/
theorem spells_compact {v : Json} (plain : v.IsPlain) : Spells v v.compact.toList := by
  induction plain with
  | null => exact .null
  | bool b => exact .bool b
  | string s => exact .string s
  | @array items _ ih =>
      cases items with
      | nil => exact .emptyArray
      | cons v vs =>
          obtain ⟨cs, inside, written⟩ := separated_line "[" "]" (List.cons_ne_nil v vs) ih
          rw [compact, compactItems_eq, written]
          exact .array inside
  | @object members _ ih =>
      cases members with
      | nil => exact .emptyObject
      | cons m ms =>
          have spelled : ∀ m' ∈ m :: ms,
              SpellsMember m' (quote m'.1 ++ ":" ++ compact m'.2).toList := by
            intro m' mem
            simpa using SpellsMember.mk .nil (ih m' mem)
          obtain ⟨cs, inside, written⟩ := separated_line "\x7b" "\x7d" (List.cons_ne_nil m ms)
            spelled
          rw [compact, compactMembers_eq, written]
          exact .object inside

/-- The form of a value with items and members on lines of their own is a text of it. -/
theorem spells_prettyAt {v : Json} (plain : v.IsPlain) (level : Nat) :
    Spells v (prettyAt level v).toList := by
  induction plain generalizing level with
  | null => exact .null
  | bool b => exact .bool b
  | string s => exact .string s
  | @array items _ ih =>
      cases items with
      | nil => simpa [prettyAt, prettyItems, block] using Spells.emptyArray
      | cons v vs =>
          obtain ⟨cs, inside, written⟩ := separated_block "[" "]" level (List.cons_ne_nil v vs)
            fun v' mem => ih v' mem (level + 1)
          rw [prettyAt, prettyItems_eq, written]
          exact .array inside
  | @object members _ ih =>
      cases members with
      | nil => simpa [prettyAt, prettyMembers, block] using Spells.emptyObject
      | cons m ms =>
          have spelled : ∀ m' ∈ m :: ms,
              SpellsMember m' (quote m'.1 ++ ": " ++ prettyAt (level + 1) m'.2).toList := by
            intro m' mem
            have blank : IsBlanks [' '] := by simp [IsBlanks, isBlank]
            simpa using SpellsMember.mk blank (ih m' mem (level + 1))
          obtain ⟨cs, inside, written⟩ := separated_block "\x7b" "\x7d" level
            (List.cons_ne_nil m ms) spelled
          rw [prettyAt, prettyMembers_eq, written]
          exact .object inside

theorem spells_pretty {v : Json} (plain : v.IsPlain) : Spells v v.pretty.toList :=
  spells_prettyAt plain 0

end RpcRoutes.Json
