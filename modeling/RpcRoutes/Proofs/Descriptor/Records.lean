import RpcRoutes.Descriptor.Decode
import RpcRoutes.Descriptor.Encode
import RpcRoutes.Proofs.Json.Reading

/-!
# Records read back

Every part of a descriptor is written as the object of those of its fields that have a value, and
decoded from the members with the names of its fields. What holds of all records is that decoding
finds each field where writing put it; the parts of a descriptor add how their fields are written.

* `Json.ofFields` is the object of a record, and `Json.record?_ofFields` finds its fields again.
* `HttpRule.ofJson?_toJson`, `MethodDefinition.ofJson?_toJson`, `ServiceDefinition.ofJson?_toJson`
  and `FileDescriptor.ofJson?_toJson`: what was encoded is decoded.
-/

namespace RpcRoutes

namespace Json

/-! ### Records -/

/-- The member of a field that has a value. -/
def given (field : String × Option Json) : Option (String × Json) :=
  field.2.map (field.1, ·)

/-- The object of the fields that have a value, in order. -/
def ofFields (fields : List (String × Option Json)) : Json :=
  .object (fields.filterMap given)

/-- What a field is decoded from when these are the members with one of its names. -/
def found? : List (String × Json) → Option (Option Json)
  | [] => some none
  | [m] => some (some m.2)
  | _ => none

theorem found?_given (field : String × Option Json) :
    found? ([field].filterMap given) = some field.2 := by
  obtain ⟨name, value⟩ := field
  cases value <;> rfl

/-- The members with certain names are those of the fields with these names. -/
theorem filter_given (known : String → Bool) (fields : List (String × Option Json)) :
    (fields.filterMap given).filter (known ·.1) = (fields.filter (known ·.1)).filterMap given := by
  rw [List.filter_filterMap, List.filterMap_filter]
  congr 1
  funext ⟨name, value⟩
  cases value <;> grind [given]

/-- Each field is found again when its name, and no other, is one of the names that are looked up
for it. -/
theorem record?_ofFields {names : List (List String)} {fields : List (String × Option Json)}
    (aligned : names.map (fun known => fields.filter (known.contains ·.1)) = fields.map ([·])) :
    (ofFields fields).record? names = some (fields.map (·.2)) := by
  rw [ofFields, record?, mapM_eq_some_iff]
  calc
    _ = names.map fun known =>
          found? ((fields.filter (known.contains ·.1)).filterMap given) := by
        refine List.map_congr_left ?_
        intro known _
        rw [← filter_given]
        rfl
    _ = (names.map fun known => fields.filter (known.contains ·.1)).map fun fs =>
          found? (fs.filterMap given) := by
        rw [List.map_map]
        rfl
    _ = (fields.map (·.2)).map some := by
        rw [aligned, List.map_map, List.map_map]
        exact List.map_congr_left fun field _ => found?_given field

/-- A record is plain when the values of its fields are. -/
theorem isPlain_ofFields {fields : List (String × Option Json)}
    (plain : ∀ f ∈ fields, ∀ v ∈ f.2, v.IsPlain) : (ofFields fields).IsPlain := by
  refine .object ?_
  intro m mem
  obtain ⟨f, field, made⟩ := List.mem_filterMap.mp mem
  obtain ⟨v, value, rfl⟩ := Option.map_eq_some_iff.mp made
  exact plain f field v value

theorem isPlain_map {α : Type} {encode : α → Json} (plain : ∀ a, (encode a).IsPlain)
    (value : Option α) : ∀ v ∈ value.map encode, v.IsPlain := by
  intro v mem
  obtain ⟨a, _, rfl⟩ := Option.map_eq_some_iff.mp mem
  exact plain a

theorem isPlain_some {v : Json} (plain : v.IsPlain) : ∀ w ∈ some v, w.IsPlain := by
  rintro w ⟨⟩
  exact plain

theorem isPlain_omitted {omitted : Prop} [Decidable omitted] {v : Json} (plain : v.IsPlain) :
    ∀ w ∈ if omitted then none else some v, w.IsPlain := by
  split
  case isTrue => nofun
  case isFalse => exact isPlain_some plain

theorem isPlain_text (text : Option String) : ∀ v ∈ text.map string, v.IsPlain :=
  isPlain_map .string text

theorem isPlain_list {α : Type} {encode : α → Json} {as : List α}
    (plain : ∀ a ∈ as, (encode a).IsPlain) : (array (as.map encode)).IsPlain :=
  .array (List.forall_mem_map.mpr plain)

/-! ### Fields -/

section Fields

variable {α : Type} {encode : α → Json} {decode : Json → Option α}

theorem optional_map (back : ∀ a, decode (encode a) = some a) (noNull : ∀ a, encode a ≠ .null)
    (value : Option α) : optional decode (value.map encode) = some value := by
  cases value with
  | none => rfl
  | some a =>
      have step : optional decode (some (encode a)) = (decode (encode a)).map some := by
        rw [optional]
        exact noNull a
      rw [Option.map_some, step, back]
      rfl

/-- A text that may be left out. -/
theorem optional_string (text : Option String) :
    optional string? (text.map .string) = some text :=
  optional_map (by intro s; rfl) (by intro s; nofun) text

/-- A text that is left out when empty. -/
theorem orDefault_string (s : String) :
    orDefault "" string? (if s = "" then none else some (.string s)) = some s := by
  split
  case isTrue empty =>
    rw [empty]
    rfl
  case isFalse => rfl

/-- The items of an encoded list are decoded. -/
theorem orDefault_items {as : List α} (back : ∀ a ∈ as, decode (encode a) = some a) :
    orDefault [] (fun v => v.items?.bind (·.mapM decode)) (some (array (as.map encode))) =
      some as := by
  rw [orDefault, items?, Option.bind_some, mapM_eq_some_iff, List.map_map]
  exact List.map_congr_left back

/-- A list that is left out when empty. -/
theorem orDefault_items_omitted {as : List α} (back : ∀ a ∈ as, decode (encode a) = some a) :
    orDefault [] (fun v => v.items?.bind (·.mapM decode))
      (if as = [] then none else some (array (as.map encode))) = some as := by
  split
  case isTrue empty =>
    rw [empty]
    rfl
  case isFalse => exact orDefault_items back

end Fields

end Json

/-! ### Custom patterns -/

theorem CustomPattern.toJson_eq (c : CustomPattern) :
    c.toJson = Json.ofFields [("kind", some (.string c.kind)), ("path", some (.string c.path))] :=
  rfl

theorem CustomPattern.ofJson?_toJson (c : CustomPattern) : ofJson? c.toJson = some c := by
  rw [ofJson?, toJson_eq, Json.record?_ofFields rfl]
  rfl

/-! ### Rules -/

namespace HttpRule

/-- The fields of a rule as they are written. -/
def written (h : HttpRule) : List (String × Option Json) :=
  [("get", h.get?.map .string), ("put", h.put?.map .string), ("post", h.post?.map .string),
    ("delete", h.delete?.map .string), ("patch", h.patch?.map .string),
    ("custom", h.custom?.map customJson),
    ("body", if h.body = "" then none else some (.string h.body)),
    ("additional_bindings",
      if h.additional = [] then none else some (.array (h.additional.map toJson)))]

theorem toJsonItems_eq (hs : List HttpRule) : toJsonItems hs = hs.map toJson := by
  induction hs with
  | nil => rfl
  | cons h hs ih => rw [toJsonItems, ih, List.map_cons]

theorem toJson_eq (h : HttpRule) : h.toJson = Json.ofFields h.written := by
  obtain ⟨get, put, post, delete, patch, custom, body, additional⟩ := h
  have whole : (if body = "" then [] else [("body", Json.string body)]) =
      (Json.given ("body", if body = "" then none else some (.string body))).toList := by
    split <;> rfl
  rw [toJson, toJsonItems_eq, Json.ofFields, List.filterMap_eq_flatMap_toList, whole]
  simp only [written, List.flatMap_cons, List.flatMap_nil, List.append_nil, List.append_assoc,
    Json.textMember, Json.given, Option.map_map]
  cases additional <;> rfl

/-- A further binding is two levels inside the rule that has it. -/
theorem depth_additional {h further : HttpRule} (mem : further ∈ h.additional) :
    further.toJson.depth + 2 ≤ h.toJson.depth := by
  have filled : h.additional ≠ [] := List.ne_nil_of_mem mem
  have field : ("additional_bindings", Json.array (h.additional.map toJson)) ∈
      h.written.filterMap Json.given := by
    refine List.mem_filterMap.mpr
      ⟨("additional_bindings", some (.array (h.additional.map toJson))), ?_, rfl⟩
    simp [written, filled]
  have inObject : (Json.array (h.additional.map toJson)).depth ≤ _ :=
    Json.depthMembers_le_iff.mp (Nat.le_refl _) _ field
  have inArray : further.toJson.depth ≤ Json.depthItems (h.additional.map toJson) :=
    Json.depthItems_le_iff.mp (Nat.le_refl _) _ (List.mem_map_of_mem mem)
  rw [Json.depth] at inObject
  rw [h.toJson_eq, Json.ofFields, Json.depth]
  omega

theorem customOfJson?_map (custom : Option (Option CustomPattern)) :
    customOfJson? (custom.map customJson) = some custom := by
  cases custom with
  | none => rfl
  | some payload =>
      cases payload with
      | none => rfl
      | some c =>
          have decoded : customOfJson? (some c.toJson) =
              (CustomPattern.ofJson? c.toJson).map fun c => some (some c) := rfl
          rw [Option.map_some, customJson, decoded, CustomPattern.ofJson?_toJson]
          rfl

/-- What was encoded of a rule is decoded with more levels than it has. -/
theorem ofJsonWithin?_toJson {levels : Nat} {h : HttpRule} (within : h.toJson.depth < levels) :
    ofJsonWithin? levels h.toJson = some h := by
  induction levels generalizing h with
  | zero => cases within
  | succ levels ih =>
      have aligned : fields.map (fun known => h.written.filter (known.contains ·.1)) =
          h.written.map ([·]) := rfl
      have further : ∀ a ∈ h.additional, ofJsonWithin? levels a.toJson = some a := by
        intro a mem
        have deeper := depth_additional mem
        exact ih (by omega)
      rw [ofJsonWithin?, toJson_eq, Json.record?_ofFields aligned]
      simp only [written, List.map_cons, List.map_nil, Option.bind_eq_bind, Option.bind_some,
        Json.optional_string, customOfJson?_map, Json.orDefault_string,
        Json.orDefault_items_omitted further]
      cases h
      rfl

/-- What was encoded of a rule is decoded. -/
theorem ofJson?_toJson (h : HttpRule) : ofJson? h.toJson = some h :=
  ofJsonWithin?_toJson (Nat.lt_succ_self h.toJson.depth)

theorem isPlain_customJson (payload : Option CustomPattern) : (customJson payload).IsPlain := by
  cases payload with
  | none => exact .null
  | some c => exact .object (by simp [Json.IsPlain.string])

/-- Encoded rules are plain. -/
theorem isPlain_toJson (h : HttpRule) : h.toJson.IsPlain := by
  have items : (Json.array (h.additional.map toJson)).IsPlain := by
    refine Json.isPlain_list ?_
    intro further mem
    have deeper := depth_additional mem
    exact isPlain_toJson further
  rw [toJson_eq]
  refine Json.isPlain_ofFields ?_
  simp only [written, List.forall_mem_cons]
  exact ⟨Json.isPlain_text _, Json.isPlain_text _, Json.isPlain_text _, Json.isPlain_text _,
    Json.isPlain_text _, Json.isPlain_map isPlain_customJson h.custom?,
    Json.isPlain_omitted (.string h.body), Json.isPlain_omitted items, nofun⟩
termination_by h.toJson.depth
decreasing_by omega

end HttpRule

/-! ### Methods, services and files -/

theorem MethodDefinition.toJson_eq (m : MethodDefinition) :
    m.toJson = Json.ofFields
      [("name", some (.string m.name)), ("http", m.http.map HttpRule.toJson)] := by
  obtain ⟨name, http⟩ := m
  cases http <;> rfl

theorem MethodDefinition.ofJson?_toJson (m : MethodDefinition) : ofJson? m.toJson = some m := by
  have http := Json.optional_map HttpRule.ofJson?_toJson (by intro h; cases h; nofun) m.http
  rw [ofJson?, toJson_eq, Json.record?_ofFields rfl]
  simp only [List.map_cons, List.map_nil, Option.bind_eq_bind, Option.bind_some, Json.string?, http]
  rfl

theorem MethodDefinition.isPlain_toJson (m : MethodDefinition) : m.toJson.IsPlain := by
  rw [toJson_eq]
  refine Json.isPlain_ofFields ?_
  simp only [List.forall_mem_cons]
  exact ⟨Json.isPlain_some (.string m.name), Json.isPlain_map HttpRule.isPlain_toJson m.http, nofun⟩

theorem ServiceDefinition.toJson_eq (s : ServiceDefinition) :
    s.toJson = Json.ofFields [("name", some (.string s.name)),
      ("methods", some (.array (s.methods.map MethodDefinition.toJson)))] :=
  rfl

theorem ServiceDefinition.ofJson?_toJson (s : ServiceDefinition) : ofJson? s.toJson = some s := by
  have methods := Json.orDefault_items fun m (_ : m ∈ s.methods) => m.ofJson?_toJson
  rw [ofJson?, toJson_eq, Json.record?_ofFields rfl]
  simp only [List.map_cons, List.map_nil, Option.bind_eq_bind, Option.bind_some, Json.string?,
    methods]
  rfl

theorem ServiceDefinition.isPlain_toJson (s : ServiceDefinition) : s.toJson.IsPlain := by
  rw [toJson_eq]
  refine Json.isPlain_ofFields ?_
  simp only [List.forall_mem_cons]
  have methods := Json.isPlain_list fun m (_ : m ∈ s.methods) => m.isPlain_toJson
  exact ⟨Json.isPlain_some (.string s.name), Json.isPlain_some methods, nofun⟩

namespace FileDescriptor

theorem toJson_eq (f : FileDescriptor) :
    f.toJson = Json.ofFields [("name", some (.string f.name)),
      ("syntax", f.syntaxMarker.map .string), ("edition", f.edition.map .string),
      ("services", some (.array (f.services.map ServiceDefinition.toJson)))] := by
  obtain ⟨name, marker, edition, services⟩ := f
  cases marker <;> cases edition <;> rfl

theorem ofJson?_toJson (f : FileDescriptor) : ofJson? f.toJson = some f := by
  have name : Json.orDefault "" Json.string? (some (.string f.name)) = some f.name := rfl
  have services := Json.orDefault_items fun s (_ : s ∈ f.services) => s.ofJson?_toJson
  rw [ofJson?, toJson_eq, Json.record?_ofFields rfl]
  simp only [List.map_cons, List.map_nil, Option.bind_eq_bind, Option.bind_some, name,
    Json.optional_string, services]
  rfl

theorem isPlain_toJson (f : FileDescriptor) : f.toJson.IsPlain := by
  rw [toJson_eq]
  refine Json.isPlain_ofFields ?_
  simp only [List.forall_mem_cons]
  have services := Json.isPlain_list fun s (_ : s ∈ f.services) => s.isPlain_toJson
  exact ⟨Json.isPlain_some (.string f.name), Json.isPlain_text _, Json.isPlain_text _,
    Json.isPlain_some services, nofun⟩

end FileDescriptor

end RpcRoutes
