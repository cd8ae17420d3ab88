import RpcRoutes.Json.Reader

/-!
# Levels of nesting

A value reader keeps what nests too deeply as its text. What it builds up therefore nests no
deeper than its levels, and more levels do not change how a value is read of which nothing was
kept as text.

* `Json.listed?` is the loop that reads the items of an array and the members of an object.
* `Json.depth_array_le_iff` and `Json.depth_object_le_iff` compare the depth of a value with a
  number of levels.
* `Json.readsWithin_value?From`: a usable value is within the levels it was read with, and is read
  the same with more.
-/

namespace RpcRoutes.Json

/-- All of a list is decoded when each of its parts is. -/
theorem mapM_eq_some_iff {α β : Type} {f : α → Option β} {as : List α} {bs : List β} :
    as.mapM f = some bs ↔ as.map f = bs.map some := by
  induction as generalizing bs with
  | nil => cases bs <;> simp
  | cons a as ih =>
      rw [List.mapM_cons, List.map_cons]
      cases bs <;> simp [Option.bind_eq_some_iff, ih]

/-! ### Items and members -/

/-- What the reader of an item gives: the item and the text after it. -/
abbrev ItemStep (α : Type) := List Char → Option (α × List Char)

/-- Reads items with commas between them, up to a closing character. -/
def listed? {α : Type} (item : ItemStep α) (close : Char) :
    (bound : Nat) → List α → List Char → Option (List α × List Char)
  | 0, _, _ => none
  | bound + 1, seen, cs => do
    let (a, rest) ← item cs
    match skipBlank rest with
    | [] => none
    | c :: rest =>
      if c = ',' then listed? item close bound (a :: seen) rest
      else if c = close then pure ((a :: seen).reverse, rest)
      else none

/-- The reader of an item of an array. -/
def itemStep (value : ReadStep) : ItemStep Json := fun cs => value (skipBlank cs)

/-- The reader of a member of an object. -/
def memberStep (value : ReadStep) : ItemStep (Option String × Json) := fun cs => do
  let (name, rest) ← name? cs
  let (v, rest) ← value (skipBlank rest)
  pure ((name, v), rest)

theorem items?From_eq (value : ReadStep) (bound : Nat) (seen : List Json) (cs : List Char) :
    items?From value bound seen cs = listed? (itemStep value) ']' bound seen cs := by
  induction bound generalizing seen cs with
  | zero => rfl
  | succ bound ih =>
      rw [items?From, listed?, itemStep]
      cases value (skipBlank cs) with
      | none => rfl
      | some found =>
          simp only [Option.bind_eq_bind, Option.bind_some, ih]
          cases skipBlank found.2 with
          | nil => rfl
          | cons c rest => grind

theorem members?From_eq (value : ReadStep) (bound : Nat) (seen : ReadMembers) (cs : List Char) :
    members?From value bound seen cs = listed? (memberStep value) '}' bound seen cs := by
  induction bound generalizing seen cs with
  | zero => rfl
  | succ bound ih =>
      rw [members?From, listed?, memberStep]
      cases name? cs with
      | none => rfl
      | some named =>
          simp only [Option.bind_eq_bind, Option.bind_some, Option.bind_assoc, ih]
          cases value (skipBlank named.2) with
          | none => rfl
          | some found =>
              simp only [Option.bind_some, Option.pure_def]
              cases skipBlank found.2 with
              | nil => rfl
              | cons c rest => grind

/-! ### Depth -/

theorem depthItems_le_iff {items : List Json} {n : Nat} :
    depthItems items ≤ n ↔ ∀ v ∈ items, v.depth ≤ n := by
  induction items with
  | nil => simp [depthItems]
  | cons v vs ih => rw [depthItems, Nat.max_le, ih, List.forall_mem_cons]

theorem depthMembers_le_iff {members : List (String × Json)} {n : Nat} :
    depthMembers members ≤ n ↔ ∀ m ∈ members, m.2.depth ≤ n := by
  induction members with
  | nil => simp [depthMembers]
  | cons m ms ih => rw [depthMembers, Nat.max_le, ih, List.forall_mem_cons]

/-- An array is one level deeper than its items. -/
theorem depth_array_le_iff {items : List Json} {n : Nat} :
    (array items).depth ≤ n + 1 ↔ ∀ v ∈ items, v.depth ≤ n := by
  rw [depth, Nat.add_le_add_iff_right, depthItems_le_iff]

/-- An object is one level deeper than the values of its members. -/
theorem depth_object_le_iff {members : List (String × Json)} {n : Nat} :
    (object members).depth ≤ n + 1 ↔ ∀ m ∈ members, m.2.depth ≤ n := by
  rw [depth, Nat.add_le_add_iff_right, depthMembers_le_iff]

/-! ### Usable values -/

theorem areUsable_iff {items : List Json} :
    areUsable items = true ↔ ∀ v ∈ items, v.isUsable = true := by
  induction items with
  | nil => simp [areUsable]
  | cons v vs ih => rw [areUsable, Bool.and_eq_true, ih, List.forall_mem_cons]

theorem haveUsable_iff {members : List (String × Json)} :
    haveUsable members = true ↔ ∀ m ∈ members, m.2.isUsable = true := by
  induction members with
  | nil => simp [haveUsable]
  | cons m ms ih => rw [haveUsable, Bool.and_eq_true, ih, List.forall_mem_cons]

/-- An object is built up when its members all have names. -/
theorem namedMembers?_eq_some_iff {read : ReadMembers} {named : List (String × Json)} :
    namedMembers? read = some named ↔ read = named.map fun m => (some m.1, m.2) := by
  rw [namedMembers?, mapM_eq_some_iff]
  induction read generalizing named with
  | nil => cases named <;> simp
  | cons m ms ih =>
      cases named with
      | nil => simp
      | cons n ns =>
          obtain ⟨name, v⟩ := m
          cases name <;> simp [ih, Prod.ext_iff]

/-! ### More levels -/

/-- What one reader gives has at most so many levels if it is usable, and another reader gives it
too. -/
def ReadsWithin {α : Type} (part : α → Json) (levels : Nat) (step more : ItemStep α) : Prop :=
  ∀ cs a rest, step cs = some (a, rest) → (part a).isUsable = true →
    (part a).depth ≤ levels ∧ more cs = some (a, rest)

/-- What a loop adds to the items seen before is within the levels if it is usable, and a loop of
the other reader then gives the same. -/
theorem ReadsWithin.listed {α : Type} {part : α → Json} {levels : Nat} {step more : ItemStep α}
    (within : ReadsWithin part levels step more) {close : Char} {n : Nat} {seen as : List α}
    {cs rest : List Char} (read : listed? step close n seen cs = some (as, rest)) :
    ∃ added, as = seen.reverse ++ added ∧ ((∀ a ∈ added, (part a).isUsable = true) →
      (∀ a ∈ added, (part a).depth ≤ levels) ∧
        listed? more close n seen cs = some (as, rest)) := by
  induction n generalizing seen cs with
  | zero => cases read
  | succ n ih =>
      simp only [listed?, Option.bind_eq_bind, Option.bind_eq_some_iff] at read ⊢
      obtain ⟨⟨a, after⟩, first, next⟩ := read
      split at next
      case h_1 => cases next
      case h_2 c others separator =>
        split at next
        case isTrue comma =>
          obtain ⟨added, rfl, later⟩ := ih next
          refine ⟨a :: added, by rw [List.reverse_cons, List.append_assoc]; rfl, ?_⟩
          intro usable
          obtain ⟨usableFirst, usableLater⟩ := List.forall_mem_cons.mp usable
          obtain ⟨shallow, again⟩ := within _ _ _ first usableFirst
          obtain ⟨shallowLater, againLater⟩ := later usableLater
          refine ⟨List.forall_mem_cons.mpr ⟨shallow, shallowLater⟩, (a, after), again, ?_⟩
          simp only [separator, if_pos comma]
          exact againLater
        case isFalse noComma =>
          split at next
          case isTrue closed =>
            cases next
            refine ⟨[a], List.reverse_cons, ?_⟩
            intro usable
            obtain ⟨shallow, again⟩ := within _ _ _ first (usable a (List.mem_singleton_self a))
            refine ⟨by simpa using shallow, (a, after), again, ?_⟩
            simp only [separator, if_neg noComma, if_pos closed]
            rfl
          case isFalse => cases next

/-- A value that is neither an array nor an object has no levels. -/
theorem depth_of_scalar? {cs rest : List Char} {v : Json} (read : scalar? cs = some (v, rest)) :
    v.depth = 0 := by
  unfold scalar? at read
  split at read
  case h_1 =>
    obtain ⟨⟨text, after⟩, _, kept⟩ := Option.bind_eq_some_iff.mp read
    cases text <;> cases kept <;> rfl
  case h_5 =>
    obtain ⟨⟨numeral, after⟩, _, kept⟩ := Option.bind_eq_some_iff.mp read
    cases kept
    split <;> rfl
  all_goals
    cases read
    rfl

theorem readsWithin_scalar? (levels : Nat) : ReadsWithin id levels scalar? scalar? := by
  intro cs v rest read _
  refine ⟨?_, read⟩
  rw [id, depth_of_scalar? read]
  exact Nat.zero_le levels

theorem value?From_array (bound levels : Nat) (cs : List Char) :
    value?From bound (levels + 1) ('[' :: cs) = array?From (value?From bound levels) bound cs :=
  rfl

/-- Reads an object after its opening brace: as its text when a name has none. -/
def objectValue? (value : ReadStep) (bound : Nat) : ReadStep := fun cs =>
  (object?From value bound cs).bind fun found =>
    match namedMembers? found.1 with
    | some members => some (.object members, found.2)
    | none => some (.raw (textBetween ('{' :: cs) found.2), found.2)

theorem value?From_object (bound levels : Nat) (cs : List Char) :
    value?From bound (levels + 1) ('{' :: cs) = objectValue? (value?From bound levels) bound cs :=
  rfl

/-- Text that does not start with a bracket is read alike at every level. -/
theorem value?From_scalar (bound levels : Nat) {cs : List Char} (noArray : cs.head? ≠ some '[')
    (noObject : cs.head? ≠ some '{') : value?From bound levels cs = scalar? cs := by
  rw [value?From]
  · exact fun _ _ starts => noArray (starts ▸ rfl)
  · exact fun _ _ starts => noObject (starts ▸ rfl)
  · exact fun _ _ _ starts => noArray (starts ▸ rfl)
  · exact fun _ _ _ starts => noObject (starts ▸ rfl)

theorem isUsable_of_rawValue? {cs rest : List Char} {v : Json}
    (read : rawValue? cs = some (v, rest)) : v.isUsable = false := by
  obtain ⟨after, _, kept⟩ := Option.map_eq_some_iff.mp read
  cases kept
  rfl

section Levels

variable {value more : ReadStep} {levels bound : Nat}

theorem ReadsWithin.item (within : ReadsWithin id levels value more) :
    ReadsWithin id levels (itemStep value) (itemStep more) := by
  intro cs v rest read usable
  exact within _ v rest read usable

theorem ReadsWithin.member (within : ReadsWithin id levels value more) :
    ReadsWithin Prod.snd levels (memberStep value) (memberStep more) := by
  intro cs m rest read usable
  simp only [memberStep, Option.bind_eq_bind, Option.bind_eq_some_iff] at read ⊢
  obtain ⟨named, name, ⟨v, after⟩, first, kept⟩ := read
  cases kept
  obtain ⟨shallow, again⟩ := within _ _ _ first usable
  exact ⟨shallow, named, name, _, again, rfl⟩

theorem ReadsWithin.array (within : ReadsWithin id levels value more) :
    ReadsWithin id (levels + 1) (array?From value bound) (array?From more bound) := by
  intro cs v rest read usable
  unfold array?From at read ⊢
  split at read
  case h_1 after closed =>
    cases read
    exact ⟨depth_array_le_iff.mpr nofun, rfl⟩
  case h_2 filled =>
    rw [items?From_eq] at read ⊢
    obtain ⟨⟨vs, after⟩, loop, kept⟩ := Option.bind_eq_some_iff.mp read
    cases kept
    obtain ⟨added, rfl, further⟩ := within.item.listed loop
    obtain ⟨shallow, again⟩ := further (areUsable_iff.mp usable)
    refine ⟨depth_array_le_iff.mpr shallow, ?_⟩
    rw [again]
    rfl

theorem ReadsWithin.members (within : ReadsWithin id levels value more) {cs rest : List Char}
    {read : ReadMembers} (found : object?From value bound cs = some (read, rest))
    (usable : ∀ m ∈ read, m.2.isUsable = true) :
    (∀ m ∈ read, m.2.depth ≤ levels) ∧ object?From more bound cs = some (read, rest) := by
  unfold object?From at found ⊢
  split at found
  case h_1 after closed =>
    cases found
    exact ⟨nofun, rfl⟩
  case h_2 filled =>
    rw [members?From_eq] at found ⊢
    obtain ⟨added, rfl, further⟩ := within.member.listed found
    exact further usable

theorem ReadsWithin.object (within : ReadsWithin id levels value more) :
    ReadsWithin id (levels + 1) (objectValue? value bound) (objectValue? more bound) := by
  intro cs v rest read usable
  obtain ⟨⟨members, after⟩, found, kept⟩ := Option.bind_eq_some_iff.mp read
  cases names : namedMembers? members with
  | none =>
      rw [names] at kept
      cases kept
      cases usable
  | some named =>
      rw [names] at kept
      cases kept
      obtain rfl := namedMembers?_eq_some_iff.mp names
      obtain ⟨shallow, again⟩ := within.members found
        (List.forall_mem_map.mpr (haveUsable_iff.mp usable))
      refine ⟨depth_object_le_iff.mpr (List.forall_mem_map.mp shallow), ?_⟩
      rw [objectValue?, again, Option.bind_some, names]

end Levels

/-- A usable value is within the levels it was read with, and more levels read it the same. -/
theorem readsWithin_value?From (bound : Nat) {levels more : Nat} (le : levels ≤ more) :
    ReadsWithin id levels (value?From bound levels) (value?From bound more) := by
  induction levels generalizing more with
  | zero =>
      intro cs v rest read usable
      by_cases array : cs.head? = some '['
      · obtain ⟨cs, rfl⟩ := List.head?_eq_some_iff.mp array
        rw [id, isUsable_of_rawValue? read] at usable
        cases usable
      by_cases object : cs.head? = some '{'
      · obtain ⟨cs, rfl⟩ := List.head?_eq_some_iff.mp object
        rw [id, isUsable_of_rawValue? read] at usable
        cases usable
      rw [value?From_scalar _ _ array object] at read ⊢
      exact readsWithin_scalar? 0 cs v rest read usable
  | succ levels ih =>
      obtain ⟨more, rfl⟩ : ∃ n, more = n + 1 := Nat.exists_eq_add_one_of_ne_zero (by omega)
      have within := ih (Nat.le_of_succ_le_succ le)
      intro cs v rest read usable
      by_cases array : cs.head? = some '['
      · obtain ⟨cs, rfl⟩ := List.head?_eq_some_iff.mp array
        exact within.array cs v rest read usable
      by_cases object : cs.head? = some '{'
      · obtain ⟨cs, rfl⟩ := List.head?_eq_some_iff.mp object
        exact within.object cs v rest read usable
      rw [value?From_scalar _ _ array object] at read ⊢
      exact readsWithin_scalar? (levels + 1) cs v rest read usable

end RpcRoutes.Json
