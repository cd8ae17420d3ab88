import RpcRoutes.Program.Engine
import RpcRoutes.Proofs.Path.Filling

/-!
# Where placeholders stand

Reading a pattern from left to right finds every placeholder that stands anywhere in it, each once
and in order of position. A brace that opens nothing hides none behind it, and no two overlap, so
the pattern is what stands between them with the names in braces put back.

* `Path.StandsAt` says that a placeholder stands at a place of a pattern; `Path.places` lists the
  places and names that the tokens of a pattern give, and `mem_places_iff` says that they are all.
* `Path.literals` is the text between the placeholders; `weave_literals` puts the names back.
* `placeholders_exact` collects what this says of the names of a pattern and of its template.
-/

namespace RpcRoutes

namespace Path

/-- A placeholder as a pattern writes it. -/
def braced (name : List Char) : List Char := '{' :: (name ++ ['}'])

/-- A placeholder of this name stands at this place of a pattern. -/
def StandsAt (pattern : List Char) (place : Nat) (name : List Char) : Prop :=
  IsName name ∧ braced name <+: pattern.drop place

/-- The places and names of the placeholders among tokens, the first of which is at a place. -/
def placesFrom : Nat → List Token → List (Nat × List Char)
  | _, [] => []
  | place, .char _ :: ts => placesFrom (place + 1) ts
  | place, .hole name :: ts => (place, name) :: placesFrom (place + (braced name).length) ts

/-- The places and names of the placeholders that are read from a pattern. -/
def places (pattern : String) : List (Nat × String) :=
  (placesFrom 0 (tokens pattern.toList)).map fun (place, name) => (place, String.ofList name)

/-! ### Placeholders at a place -/

section StandsAt

variable {pattern name other rest rest' : List Char} {place : Nat} {c : Char}

theorem braced_append (name rest : List Char) :
    braced name ++ rest = '{' :: (name ++ '}' :: rest) := by
  simp [braced]

/-- A name ends where the first closing brace stands. -/
theorem IsName.eq_of_closed (named : IsName name) (named' : IsName other)
    (closed : other ++ '}' :: rest' = name ++ '}' :: rest) : other = name := by
  have upTo {w : List Char} (inner : IsName w) (more : List Char) :
      (w ++ '}' :: more).takeWhile (· != '}') = w := by
    rw [List.takeWhile_append_of_pos fun c mem => by simpa using (inner.2 c mem).2.2]
    simp
  rw [← upTo named' rest', closed, upTo named]

/-- A placeholder stands where there is an open brace. -/
theorem StandsAt.getElem? (stands : StandsAt pattern place name) : pattern[place]? = some '{' := by
  obtain ⟨more, eq⟩ := stands.2
  rw [← List.head?_drop, ← eq, braced_append]
  rfl

/-- A placeholder at the front leaves room for others only behind itself. -/
theorem standsAt_hole_iff (named : IsName name) :
    StandsAt (braced name ++ rest) place other ↔
      place = 0 ∧ other = name ∨
        ∃ later, place = (braced name).length + later ∧ StandsAt rest later other := by
  constructor
  · intro stands
    rcases Nat.lt_or_ge place (braced name).length with inside | behind
    · refine Or.inl ?_
      cases place with
      | zero =>
          obtain ⟨more, eq⟩ := stands.2
          rw [List.drop_zero, braced_append, braced_append] at eq
          exact ⟨rfl, named.eq_of_closed stands.1 (List.cons.inj eq).2⟩
      | succ k =>
          -- Inside the braces there is no open brace at which another one could start.
          have opening := stands.getElem?
          rw [List.getElem?_append_left inside, braced, List.getElem?_cons_succ] at opening
          rcases List.mem_append.mp (List.mem_of_getElem? opening) with mem | closing
          · exact absurd rfl (named.2 _ mem).2.1
          · exact absurd (List.mem_singleton.mp closing) (by decide)
    · obtain ⟨later, rfl⟩ := Nat.exists_eq_add_of_le behind
      have here := stands.2
      rw [List.drop_length_add_append] at here
      exact Or.inr ⟨later, rfl, stands.1, here⟩
  · rintro (⟨rfl, rfl⟩ | ⟨later, rfl, stands⟩)
    · exact ⟨named, List.prefix_append _ _⟩
    · refine ⟨stands.1, ?_⟩
      rw [List.drop_length_add_append]
      exact stands.2

/-- A character at which no placeholder starts is passed over. -/
theorem standsAt_copy_iff (plain : ¬ StartsHole (c :: rest)) :
    StandsAt (c :: rest) place name ↔
      ∃ later, place = 1 + later ∧ StandsAt rest later name := by
  constructor
  · intro stands
    cases place with
    | zero =>
        obtain ⟨more, eq⟩ := stands.2
        refine absurd ⟨name, more, stands.1, ?_⟩ plain
        rw [← braced_append, eq, List.drop_zero]
    | succ later => exact ⟨later, Nat.add_comm later 1, stands⟩
  · rintro ⟨later, rfl, stands⟩
    rw [Nat.add_comm]
    exact stands

end StandsAt

/-! ### Places of tokens -/

section Places

variable {start place : Nat} {name : List Char} {ts : List Token}

/-- The tokens of a pattern give the placeholders that stand in it. -/
theorem mem_placesFrom_iff {pattern : List Char} :
    (place, name) ∈ placesFrom start (tokens pattern) ↔
      ∃ later, place = start + later ∧ StandsAt pattern later name := by
  induction pattern using token_induction generalizing start with
  | nil =>
      refine iff_of_false List.not_mem_nil ?_
      rintro ⟨later, -, stands⟩
      cases stands.getElem?
  | hole inner rest named ih =>
      rw [tokens_hole named, placesFrom, List.mem_cons, ih, ← braced_append, Prod.mk.injEq]
      simp only [standsAt_hole_iff named]
      constructor
      · rintro (⟨rfl, rfl⟩ | ⟨later, rfl, stands⟩)
        · exact ⟨0, rfl, Or.inl ⟨rfl, rfl⟩⟩
        · exact ⟨_, Nat.add_assoc .., Or.inr ⟨later, rfl, stands⟩⟩
      · rintro ⟨later, rfl, ⟨rfl, rfl⟩ | ⟨further, rfl, stands⟩⟩
        · exact Or.inl ⟨rfl, rfl⟩
        · exact Or.inr ⟨further, (Nat.add_assoc ..).symm, stands⟩
  | copy c rest plain ih =>
      rw [tokens_copy plain, placesFrom, ih]
      simp only [standsAt_copy_iff plain]
      constructor
      · rintro ⟨later, rfl, stands⟩
        exact ⟨_, Nat.add_assoc .., later, rfl, stands⟩
      · rintro ⟨_, rfl, later, rfl, stands⟩
        exact ⟨later, (Nat.add_assoc ..).symm, stands⟩

theorem map_snd_placesFrom (start : Nat) (ts : List Token) :
    (placesFrom start ts).map Prod.snd = ts.filterMap Token.name? := by
  induction ts generalizing start with
  | nil => rfl
  | cons t ts ih =>
      cases t with
      | char c => exact ih (start + 1)
      | hole name => exact congrArg (name :: ·) (ih _)

theorem le_of_mem_placesFrom (mem : (place, name) ∈ placesFrom start ts) : start ≤ place := by
  induction ts generalizing start with
  | nil => cases mem
  | cons t ts ih =>
      cases t with
      | char c => exact Nat.le_of_succ_le (ih mem)
      | hole first =>
          rcases List.mem_cons.mp mem with here | later
          · exact Nat.le_of_eq (Prod.mk.inj here).1.symm
          · exact Nat.le_of_add_right_le (ih later)

/-- Each placeholder ends before the next one starts. -/
theorem pairwise_placesFrom (start : Nat) (ts : List Token) :
    (placesFrom start ts).Pairwise fun p q => p.1 + (braced p.2).length ≤ q.1 := by
  induction ts generalizing start with
  | nil => exact .nil
  | cons t ts ih =>
      cases t with
      | char c => exact ih (start + 1)
      | hole name => exact .cons (fun q mem => le_of_mem_placesFrom mem) (ih _)

theorem map_snd_places (pattern : String) :
    (places pattern).map Prod.snd = placeholders pattern := by
  rw [placeholders, ← map_snd_placesFrom 0, places, List.map_map, List.map_map]
  rfl

theorem mem_places_iff {pattern name : String} :
    (place, name) ∈ places pattern ↔ StandsAt pattern.toList place name.toList := by
  simp only [places, List.mem_map, Prod.exists, Prod.mk.injEq, mem_placesFrom_iff, Nat.zero_add]
  constructor
  · rintro ⟨_, _, ⟨_, rfl, stands⟩, rfl, rfl⟩
    rwa [String.toList_ofList]
  · intro stands
    exact ⟨place, name.toList, ⟨place, rfl, stands⟩, rfl, String.ofList_toList⟩

theorem pairwise_places (pattern : String) : (places pattern).Pairwise fun p q =>
    p.1 + (braced p.2.toList).length ≤ q.1 := by
  rw [places, List.pairwise_map]
  simpa only [String.toList_ofList] using pairwise_placesFrom 0 (tokens pattern.toList)

end Places

/-! ### The text between placeholders -/

/-- The text before the first placeholder, between each and the next, and behind the last. -/
def literals : List Token → List (List Char)
  | [] => [[]]
  | .char c :: ts => (literals ts).modifyHead (c :: ·)
  | .hole _ :: ts => [] :: literals ts

/-- Texts with names in braces between them. -/
def weave : (texts names : List (List Char)) → List Char
  | [], _ => []
  | text :: texts, [] => text ++ weave texts []
  | text :: texts, name :: names => text ++ (braced name ++ weave texts names)

theorem length_literals (ts : List Token) :
    (literals ts).length = (ts.filterMap Token.name?).length + 1 := by
  induction ts with
  | nil => rfl
  | cons t ts ih =>
      cases t with
      | char c => rw [literals, List.length_modifyHead, ih]; rfl
      | hole name => exact congrArg (· + 1) ih

/-- Putting the names back between the literal texts gives the text of the tokens. -/
theorem weave_literals (ts : List Token) :
    weave (literals ts) (ts.filterMap Token.name?) = ts.flatMap Token.text := by
  induction ts with
  | nil => rfl
  | cons t ts ih =>
      cases t with
      | hole name => exact congrArg (braced name ++ ·) ih
      | char c =>
          have filled : literals ts ≠ [] := by
            intro empty
            have length := length_literals ts
            rw [empty] at length
            cases length
          obtain ⟨text, texts, split⟩ := List.exists_cons_of_ne_nil filled
          rw [split] at ih
          rw [literals, split, List.flatMap_cons, ← ih]
          have unnamed :
              (Token.char c :: ts).filterMap Token.name? = ts.filterMap Token.name? := rfl
          rw [unnamed]
          cases ts.filterMap Token.name? <;> rfl

/-- A character that every placeholder is written with occurs as often as there are names. -/
theorem length_names_le_count {b : Char} (brace : ∀ name, b ∈ braced name) (ts : List Token) :
    (ts.filterMap Token.name?).length ≤ (ts.flatMap Token.text).count b := by
  induction ts with
  | nil => exact Nat.le_refl 0
  | cons t ts ih =>
      rw [List.flatMap_cons, List.count_append]
      cases t with
      | char c => exact Nat.le_add_left_of_le ih
      | hole name =>
          have here : 1 ≤ (braced name).count b := List.one_le_count_iff.mpr (brace name)
          rw [Nat.add_comm]
          exact Nat.add_le_add ih here

end Path

/-- The placeholders that are read from a pattern are all that stand in it, in order of position
and each once, and no two overlap. A template of the pattern has the same names; its literal texts
with the names put back between them are the pattern. So there are no more names than braces of
either kind. -/
theorem placeholders_exact [PatternEngine] (pattern : String) :
    (Path.places pattern).map Prod.snd = Path.placeholders pattern ∧
    (∀ place name, (place, name) ∈ Path.places pattern ↔
      Path.StandsAt pattern.toList place name.toList) ∧
    (Path.places pattern).Pairwise (fun p q => p.1 + (Path.braced p.2.toList).length ≤ q.1) ∧
    (∀ t, Template.compile? pattern = some t →
      t.names = Path.placeholders pattern ∧
      (Path.literals t.tokens).length = t.names.length + 1 ∧
      Path.weave (Path.literals t.tokens) (t.names.map String.toList) = pattern.toList) ∧
    (Path.placeholders pattern).length ≤ pattern.toList.count '{' ∧
    (Path.placeholders pattern).length ≤ pattern.toList.count '}' ∧
    ∀ name ∈ Path.placeholders pattern,
      Path.IsName name.toList ∧ Path.braced name.toList <:+: pattern.toList := by
  have counted {b : Char} (brace : ∀ name, b ∈ Path.braced name) :
      (Path.placeholders pattern).length ≤ pattern.toList.count b := by
    have bound := Path.length_names_le_count brace (Path.tokens pattern.toList)
    rwa [Path.flatMap_text_tokens, ← List.length_map String.ofList] at bound
  refine ⟨Path.map_snd_places pattern, fun place name => Path.mem_places_iff,
    Path.pairwise_places pattern, ?_, counted fun name => ?_, counted fun name => ?_, ?_⟩
  · intro t compiled
    obtain rfl := Template.pattern_of_compile? compiled
    have read : t.names.map String.toList = t.tokens.filterMap Path.Token.name? := by
      have back : String.toList ∘ String.ofList = id := funext fun _ => String.toList_ofList
      rw [Template.names, List.map_map, back, List.map_id]
    refine ⟨t.names_eq, ?_, ?_⟩
    · rw [Path.length_literals, ← read, List.length_map]
    · rw [read, Path.weave_literals, t.tokens_eq, Path.flatMap_text_tokens]
  · exact List.mem_cons_self
  · simp [Path.braced]
  · intro name mem
    rw [← Path.map_snd_places] at mem
    obtain ⟨⟨place, name⟩, found, rfl⟩ := List.mem_map.mp mem
    obtain ⟨named, here⟩ := Path.mem_places_iff.mp found
    exact ⟨named, here.isInfix.trans (List.drop_suffix place _).isInfix⟩

/-- Braces that open nothing, an empty pair and a slash inside one: two placeholders stand. -/
theorem placeholders_exact_nested :
    ∃ t, Template.compile? "\x7b/\x7b\x7d\x7bout{in}{x}\x7d" = some t ∧ t.names = ["in", "x"] ∧
      Path.places "\x7b/\x7b\x7d\x7bout{in}{x}\x7d" = [(8, "in"), (12, "x")] ∧
      Path.weave (Path.literals t.tokens) (t.names.map String.toList) =
        "\x7b/\x7b\x7d\x7bout{in}{x}\x7d".toList := by
  obtain ⟨names_eq, -, woven⟩ :=
    (placeholders_exact "\x7b/\x7b\x7d\x7bout{in}{x}\x7d").2.2.2.1 _ rfl
  exact ⟨_, rfl, names_eq.trans rfl, rfl, woven⟩

end RpcRoutes
