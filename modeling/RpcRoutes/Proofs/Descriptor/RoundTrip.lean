import RpcRoutes.Proofs.Descriptor.Records

/-!
# Written descriptors

A document that is written from descriptors, as a list of files or as one file, is read back as
those files, in both written forms. The only limit is how deeply the reader lets values nest, and
a document beyond it is refused as a whole. What a rule leaves out when it is written can be told
from what it writes.

* `FileDescriptor.listOfJson?_array` and `FileDescriptor.listOfJson?_toJson`: the two shapes of a
  document are decoded as the files they were encoded from.
* `HttpRule.Omissions` says which members a rule is written without.
* `readDescriptors_written`: a written document is read back within the levels of the reader.
-/

namespace RpcRoutes

/-! ### Omitted members -/

namespace Json

/-- The value of the first member of an object with a name. -/
def member? (v : Json) (name : String) : Option Json :=
  match v with
  | .object members => (members.find? (·.1 = name)).map (·.2)
  | _ => none

/-- A record has the member of a field when the field has a value. -/
theorem member?_ofFields {fields : List (String × Option Json)} {field : String × Option Json}
    (only : fields.filter (·.1 = field.1) = [field]) :
    (ofFields fields).member? field.1 = field.2 := by
  have first : (fields.filterMap given).find? (·.1 = field.1) = given field := by
    rw [← List.head?_filter, filter_given (· = field.1), only]
    cases value : given field <;> simp [value]
  rw [ofFields, member?, first]
  obtain ⟨name, value⟩ := field
  cases value <;> rfl

end Json

namespace HttpRule

/-- Which members a rule is written without, and when its custom pattern is written as null. -/
structure Omissions (h : HttpRule) : Prop where
  path : ∀ field ∈ [("get", h.get?), ("put", h.put?), ("post", h.post?), ("delete", h.delete?),
    ("patch", h.patch?)], h.toJson.member? field.1 = none ↔ field.2 = none
  custom : h.toJson.member? "custom" = none ↔ h.custom? = none
  customNull : h.toJson.member? "custom" = some .null ↔ h.custom? = some none
  body : h.toJson.member? "body" = none ↔ h.body = ""
  additional : h.toJson.member? "additional_bindings" = none ↔ h.additional = []

/-- A rule is written with the fields that have a value. -/
theorem member?_toJson (h : HttpRule) :
    ∀ field ∈ h.written, h.toJson.member? field.1 = field.2 := by
  have only : h.written.map (fun field => h.written.filter (·.1 = field.1)) =
      h.written.map ([·]) := rfl
  intro field mem
  rw [toJson_eq]
  exact Json.member?_ofFields (List.map_inj_left.mp only field mem)

theorem omissions (h : HttpRule) : h.Omissions := by
  have members := h.member?_toJson
  simp only [written, List.forall_mem_cons] at members
  obtain ⟨get, put, post, delete, patch, custom, body, additional, -⟩ := members
  constructor
  case path => simp [get, put, post, delete, patch]
  case custom => rw [custom, Option.map_eq_none_iff]
  case customNull =>
    rw [custom]
    cases h.custom? with
    | none => simp
    | some payload => cases payload <;> simp [customJson, CustomPattern.toJson]
  case body => simp [body]
  case additional => simp [additional]

end HttpRule

/-! ### Documents -/

namespace FileDescriptor

/-- A list of files is decoded as a list. -/
theorem listOfJson?_array (files : List FileDescriptor) :
    listOfJson? (.array (files.map toJson)) = some files := by
  have items := Json.orDefault_items fun f (_ : f ∈ files) => f.ofJson?_toJson
  rw [Json.orDefault] at items
  rw [listOfJson?, items, Option.some_or]

/-- A single file is decoded as a list of one file. -/
theorem listOfJson?_toJson (file : FileDescriptor) : listOfJson? file.toJson = some [file] := by
  have single : file.toJson.items? = none := rfl
  rw [listOfJson?, single, ofJson?_toJson]
  rfl

end FileDescriptor

/-- A text of a plain document is read as its files if it nests within the levels of the reader,
and is refused otherwise. -/
theorem readDescriptors_of_spells {v : Json} {text : String} {files : List FileDescriptor}
    (plain : v.IsPlain) (spelled : Json.Spells v text.toList)
    (decoded : FileDescriptor.listOfJson? v = some files) :
    readDescriptors text =
      if v.depth ≤ Json.maxLevels then .ok files else .error .notJson := by
  split
  case isTrue shallow =>
    rw [readDescriptors, Json.read?_of_spells spelled shallow]
    simp [plain.isUsable, decoded, Json.skipBlank]
  case isFalse deep =>
    rw [readDescriptors]
    cases read : Json.read? text.toList with
    | none => rfl
    | some found =>
        obtain ⟨w, rest⟩ := found
        have unusable := Json.not_usable_of_spells spelled (Nat.not_le.mp deep) read
        simp [unusable]

/-- A document reads back as some files in both written forms, unless it nests too deeply to be
read at all. -/
def ReadsBack (v : Json) (files : List FileDescriptor) : Prop :=
  ∀ text ∈ [v.compact, v.pretty], readDescriptors text =
    if v.depth ≤ Json.maxLevels then .ok files else .error .notJson

theorem readsBack_of_plain {v : Json} {files : List FileDescriptor} (plain : v.IsPlain)
    (decoded : FileDescriptor.listOfJson? v = some files) : ReadsBack v files := by
  intro text written
  rcases List.mem_pair.mp written with rfl | rfl
  · exact readDescriptors_of_spells plain (Json.spells_compact plain) decoded
  · exact readDescriptors_of_spells plain (Json.spells_pretty plain) decoded

/-- Written descriptors are read back: a list as the same list, a single file as the list of that
file. A rule in them omits only what is absent or empty, and a custom pattern without payload is
written as null, which an absent one never is. -/
theorem readDescriptors_written (files : List FileDescriptor) (file : FileDescriptor)
    (h : HttpRule) :
    ReadsBack (.array (files.map FileDescriptor.toJson)) files ∧
      ReadsBack file.toJson [file] ∧
      HttpRule.ofJson? h.toJson = some h ∧ h.Omissions := by
  have plainList : (Json.array (files.map FileDescriptor.toJson)).IsPlain :=
    Json.isPlain_list fun f _ => f.isPlain_toJson
  exact ⟨readsBack_of_plain plainList (FileDescriptor.listOfJson?_array files),
    readsBack_of_plain file.isPlain_toJson file.listOfJson?_toJson, h.ofJson?_toJson, h.omissions⟩

/-- A rule without a custom pattern, and one whose custom pattern has no payload. -/
example : HttpRule.empty.toJson.compact = "\x7b\x7d" ∧
    (HttpRule.mk none none none none none (some none) "" []).toJson.compact =
      "\x7b\"custom\":null\x7d" := by
  decide

end RpcRoutes
