import Mathlib.Logic.Relation
import RpcRoutes.Proofs.Descriptor.Records

/-!
# Edits of descriptor documents

A document can be written differently without saying anything else: the members of an object in
another order, members that nothing knows, a field under its other name. What a member is known
for depends on where its object stands, so a value is edited under the shape that its place has in
a document.

* `Descriptor.Part` lists the parts of a descriptor and their fields, `Descriptor.Shape` what a
  place may hold.
* `Descriptor.Edit` is one edit of a value under a shape, at any depth, and `Descriptor.Edited` is
  any number of edits of a document.
* `Descriptor.Edit.record?`: fields that are read from an edited record are the same or edited.
-/

namespace RpcRoutes

/-! ### Members of an object -/

namespace Json

variable {members members' : List (String × Json)}

theorem record?_object (names : List (List String)) : (object members).record? names =
    names.mapM fun known => found? (members.filter (known.contains ·.1)) :=
  rfl

/-- The order of the members of a field does not matter, since there may be only one. -/
theorem found?_perm (same : members.Perm members') : found? members = found? members' := by
  match members with
  | [] => rw [same.nil_eq]
  | [m] => rw [List.singleton_perm.mp same]
  | m :: n :: rest =>
      have long := same.length_eq
      match members' with
      | [] => cases long
      | [_] => cases long
      | _ :: _ :: _ => rfl

end Json

namespace Descriptor

/-! ### Shapes -/

/-- The parts of a descriptor that are records. -/
inductive Part where
  | file
  | service
  | method
  | rule
  | custom
  deriving DecidableEq

/-- What a place in a document holds. -/
inductive Shape where
  | part (p : Part)
  /-- An array of parts. -/
  | listOf (p : Part)
  /-- A text, or what no field is read from. -/
  | free
  deriving DecidableEq

/-- The fields of a part in order: the names of each and the shape of its value. Only the further
bindings of a rule have two names. -/
def Part.fields : Part → List (List String × Shape)
  | file =>
    [(["name"], .free), (["syntax"], .free), (["edition"], .free),
      (["services"], .listOf .service)]
  | service => [(["name"], .free), (["methods"], .listOf .method)]
  | method => [(["name"], .free), (["http"], .part .rule)]
  | rule =>
    [(["get"], .free), (["put"], .free), (["post"], .free), (["delete"], .free),
      (["patch"], .free), (["custom"], .part .custom), (["body"], .free),
      (["additional_bindings", "additionalBindings"], .listOf .rule)]
  | custom => [(["kind"], .free), (["path"], .free)]

namespace Shape

/-- The fields that are read from a value of the shape. -/
def fields : Shape → List (List String × Shape)
  | part p => p.fields
  | _ => []

def names (shape : Shape) : List (List String) := shape.fields.map Prod.fst

/-- The shape of the value of a member. -/
def member (shape : Shape) (name : String) : Shape :=
  match shape.fields.find? (·.1.contains name) with
  | some field => field.2
  | none => free

/-- The shape of the item at a place of an array. -/
def item : Shape → Nat → Shape
  | listOf p, _ => part p
  | shape, place =>
    match shape.fields[place]? with
    | some field => field.2
    | none => free

/-- No name belongs to two fields. -/
theorem field_eq {shape : Shape} {field other : List String × Shape}
    (known : field ∈ shape.fields) (known' : other ∈ shape.fields) {name : String}
    (named : name ∈ field.1) (named' : name ∈ other.1) : field = other := by
  cases shape with
  | part p =>
      have distinct : ∀ f ∈ p.fields, ∀ g ∈ p.fields, ∀ n ∈ f.1, n ∈ g.1 → f = g := by
        cases p <;> decide
      exact distinct field known other known' name named named'
  | listOf p => cases known
  | free => cases known

theorem member_eq {shape : Shape} {field : List String × Shape} (known : field ∈ shape.fields)
    {name : String} (named : name ∈ field.1) : shape.member name = field.2 := by
  have some_named : (shape.fields.find? (·.1.contains name)).isSome :=
    List.find?_isSome.mpr ⟨field, known, List.contains_iff_mem.mpr named⟩
  obtain ⟨other, found⟩ := Option.isSome_iff_exists.mp some_named
  have fits := List.find?_some found
  have named' : name ∈ other.1 := List.contains_iff_mem.mp fits
  rw [member, found, field_eq known (List.mem_of_find?_eq_some found) named named']

theorem item_eq {shape : Shape} {field : List String × Shape} {place : Nat}
    (known : shape.fields[place]? = some field) : shape.item place = field.2 := by
  cases shape with
  | part p =>
      rw [item, known]
      exact nofun
  | listOf p => cases known
  | free => cases known

end Shape

/-! ### Edits -/

/-- One edit of a value under a shape, at the value itself or at any depth inside it. -/
inductive Edit : Shape → Json → Json → Prop where
  /-- Members are put in another order. -/
  | reorder {shape : Shape} {members members' : List (String × Json)}
      (same : members.Perm members') : Edit shape (.object members) (.object members')
  /-- A member is added whose name no field has. Where nothing is known every name will do. -/
  | add {shape : Shape} {before after : List (String × Json)} {name : String} {v : Json}
      (unknown : ∀ field ∈ shape.fields, name ∉ field.1) :
      Edit shape (.object (before ++ after)) (.object (before ++ (name, v) :: after))
  /-- A member gets another name of its field. -/
  | respell {shape : Shape} {before after : List (String × Json)} {name name' : String} {v : Json}
      {field : List String × Shape} (known : field ∈ shape.fields) (named : name ∈ field.1)
      (named' : name' ∈ field.1) :
      Edit shape (.object (before ++ (name, v) :: after)) (.object (before ++ (name', v) :: after))
  /-- The value of a member is edited, under the shape of the field that the member belongs to. -/
  | member {shape : Shape} {before after : List (String × Json)} {name : String} {v v' : Json}
      (inside : Edit (shape.member name) v v') :
      Edit shape (.object (before ++ (name, v) :: after)) (.object (before ++ (name, v') :: after))
  /-- An item is edited, under the shape of its place. -/
  | item {shape : Shape} {before after : List Json} {v v' : Json}
      (inside : Edit (shape.item before.length) v v') :
      Edit shape (.array (before ++ v :: after)) (.array (before ++ v' :: after))

/-- The text that an array starts with. -/
def leadingText? : Json → Option String
  | .array (v :: _) => v.string?
  | _ => none

/-- The shape of a document. An array that starts with a text is a file by its fields, since no list
of files starts so, and any other one is a list. -/
def documentShape (v : Json) : Shape :=
  match v with
  | .array _ => if (leadingText? v).isSome then .part .file else .listOf .file
  | _ => .part .file

/-- The second document is made from the first one by edits. -/
def Edited : Json → Json → Prop :=
  Relation.ReflTransGen fun v v' => Edit (documentShape v) v v'

/-! ### Records -/

/-- The value of a field in a document and in an edited one. -/
inductive Alike (shape : Shape) : Option Json → Option Json → Prop where
  | same (value : Option Json) : Alike shape value value
  | edited {v v' : Json} (edit : Edit shape v v') : Alike shape (some v) (some v')

/-- The values of the fields of a record in a document and in an edited one. -/
inductive AllAlike :
    List (List String × Shape) → List (Option Json) → List (Option Json) → Prop where
  | nil : AllAlike [] [] []
  | cons {field : List String × Shape} {fields : List (List String × Shape)}
      {value value' : Option Json} {values values' : List (Option Json)}
      (first : Alike field.2 value value') (others : AllAlike fields values values') :
      AllAlike (field :: fields) (value :: values) (value' :: values')

section Values

variable {fields : List (List String × Shape)}

theorem allAlike_same {values : List (Option Json)} (aligned : values.length = fields.length) :
    AllAlike fields values values := by
  induction fields generalizing values with
  | nil =>
      rw [List.length_eq_zero_iff.mp aligned]
      exact .nil
  | cons field fields ih =>
      cases values with
      | nil => cases aligned
      | cons value values => exact .cons (.same value) (ih (Nat.succ.inj aligned))

/-- Values are alike when one of them is alike and nothing else differs. -/
theorem allAlike_at {before after : List (Option Json)} {value value' : Option Json}
    (aligned : (before ++ value :: after).length = fields.length)
    (here : ∀ field, fields[before.length]? = some field → Alike field.2 value value') :
    AllAlike fields (before ++ value :: after) (before ++ value' :: after) := by
  induction before generalizing fields with
  | nil =>
      cases fields with
      | nil => cases aligned
      | cons field fields =>
          exact .cons (here field rfl) (allAlike_same (Nat.succ.inj aligned))
  | cons first before ih =>
      cases fields with
      | nil => cases aligned
      | cons field fields => exact .cons (.same first) (ih (Nat.succ.inj aligned) here)

/-- Fields that are each found alike are found alike as a whole. -/
theorem rel_mapM {find find' : List String → Option (Option Json)}
    (each : ∀ field ∈ fields, Option.Rel (Alike field.2) (find field.1) (find' field.1)) :
    Option.Rel (AllAlike fields) ((fields.map Prod.fst).mapM find)
      ((fields.map Prod.fst).mapM find') := by
  induction fields with
  | nil => exact .some .nil
  | cons field fields ih =>
      obtain ⟨first, others⟩ := List.forall_mem_cons.mp each
      have rest := ih others
      simp only [List.map_cons, List.mapM_cons]
      generalize find field.1 = x, find' field.1 = x' at first
      generalize (fields.map Prod.fst).mapM find = xs,
        (fields.map Prod.fst).mapM find' = xs' at rest
      cases first with
      | none => exact .none
      | some alike =>
          cases rest with
          | none => exact .none
          | some allAlike => exact .some (.cons alike allAlike)

end Values

/-! ### Members of a field -/

section Members

variable {shape : Shape} {members members' before after : List (String × Json)}
  {m m' : String × Json}

theorem rel_of_eq {found found' : Option (Option Json)} (same : found = found') :
    Option.Rel (Alike shape) found found' := by
  subst same
  cases found with
  | none => exact .none
  | some value => exact .some (.same value)

/-- A member that is alike is found alike, or none is because there are more. -/
theorem rel_found? (alike : Alike shape (some m.2) (some m'.2)) :
    Option.Rel (Alike shape) (Json.found? (before ++ m :: after))
      (Json.found? (before ++ m' :: after)) := by
  cases before with
  | nil =>
      cases after with
      | nil => exact .some alike
      | cons _ _ => exact .none
  | cons _ before =>
      cases before with
      | nil => exact .none
      | cons _ _ => exact .none

/-- When the members of each field are found alike, so is the record. -/
theorem rel_object (each : ∀ field ∈ shape.fields, Option.Rel (Alike field.2)
      (Json.found? (members.filter (field.1.contains ·.1)))
      (Json.found? (members'.filter (field.1.contains ·.1)))) :
    Option.Rel (AllAlike shape.fields) ((Json.object members).record? shape.names)
      ((Json.object members').record? shape.names) := by
  rw [Json.record?_object, Json.record?_object]
  exact rel_mapM each

/-- A member may be replaced by one that belongs to the same field and is alike there. -/
theorem rel_replaced (same : ∀ field ∈ shape.fields, m.1 ∈ field.1 ↔ m'.1 ∈ field.1)
    (alike : ∀ field ∈ shape.fields, m.1 ∈ field.1 → Alike field.2 (some m.2) (some m'.2)) :
    Option.Rel (AllAlike shape.fields)
      ((Json.object (before ++ m :: after)).record? shape.names)
      ((Json.object (before ++ m' :: after)).record? shape.names) := by
  refine rel_object fun field known => ?_
  have same := same field known
  rw [List.filter_append, List.filter_append]
  by_cases named : m.1 ∈ field.1
  · rw [List.filter_cons_of_pos (by simpa using named),
      List.filter_cons_of_pos (by simpa using same.mp named)]
    exact rel_found? (alike field known named)
  · rw [List.filter_cons_of_neg (by simpa using named),
      List.filter_cons_of_neg (by simpa using mt same.mpr named)]
    exact rel_of_eq rfl

end Members

/-- The record of an array is its items, as far as they go. -/
theorem rel_array {shape : Shape} {before after : List Json} {v v' : Json}
    (alike : ∀ field, shape.fields[before.length]? = some field →
      Alike field.2 (some v) (some v')) :
    Option.Rel (AllAlike shape.fields) ((Json.array (before ++ v :: after)).record? shape.names)
      ((Json.array (before ++ v' :: after)).record? shape.names) := by
  have length_eq : (before ++ v' :: after).length = (before ++ v :: after).length := by simp
  rw [Json.record?, Json.record?, length_eq]
  split
  case isFalse => exact .none
  case isTrue short =>
    refine .some ?_
    rw [Shape.names, List.length_map] at short ⊢
    simp only [List.map_append, List.map_cons, List.append_assoc, List.cons_append]
    refine allAlike_at ?_ ?_
    · simp only [List.length_append, List.length_cons, List.length_map,
        List.length_replicate] at short ⊢
      omega
    · intro field known
      rw [List.length_map] at known
      exact alike field known

/-- Fields that are read from an edited record are alike; or none can be read from both. -/
theorem Edit.record? {shape : Shape} {v v' : Json} (edit : Edit shape v v') :
    Option.Rel (AllAlike shape.fields) (v.record? shape.names) (v'.record? shape.names) := by
  cases edit with
  | reorder same =>
      refine rel_object fun field known => rel_of_eq ?_
      exact Json.found?_perm (same.filter _)
  | add unknown =>
      refine rel_object fun field known => rel_of_eq ?_
      have skipped := unknown field known
      rw [List.filter_append, List.filter_append, List.filter_cons_of_neg (by simpa using skipped)]
  | respell known named named' =>
      refine rel_replaced ?_ fun field _ _ => .same _
      intro other known'
      constructor
      · intro also
        rwa [← Shape.field_eq known known' named also]
      · intro also
        rwa [← Shape.field_eq known known' named' also]
  | member inside =>
      refine rel_replaced (fun field _ => Iff.rfl) ?_
      intro field known named
      rw [Shape.member_eq known named] at inside
      exact .edited inside
  | item inside =>
      refine rel_array fun field known => ?_
      rw [Shape.item_eq known] at inside
      exact .edited inside

end Descriptor

end RpcRoutes
