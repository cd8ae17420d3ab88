import RpcRoutes.Descriptor.Schema
import RpcRoutes.Json.Reader

/-!
# Reading descriptors

A descriptor document is JSON: an array of files or one file. Every part of it is a record, so
it may be written as an object or as the array of its fields. A name is required of a service
and of a method; everything else may be left out. An optional field may also be null, which
counts as left out, except that a custom pattern which is null counts as present without
payload.

* `FileDescriptor.listOfJson?` decodes a document.
* `readDescriptors` reads a document from its text.
-/

namespace RpcRoutes

/-- Why descriptor text could not be read. -/
inductive DescriptorError where
  | notJson
  /-- The JSON does not have the shape of a descriptor document. -/
  | wrongShape
  deriving DecidableEq, Repr

/-- The text of a shape error. -/
def DescriptorError.message? : DescriptorError → Option String
  | .notJson => none
  | .wrongShape => some "data did not match any variant of untagged enum DescriptorDocument"

namespace Json

/-- A field that may be left out: the value it then has, or what its value decodes to. -/
def orDefault {α : Type} (default : α) (decode : Json → Option α) : Option Json → Option α
  | none => some default
  | some v => decode v

/-- A field that may be left out or null. -/
def optional {α : Type} (decode : Json → Option α) : Option Json → Option (Option α)
  | none => some none
  | some .null => some none
  | some v => (decode v).map some

end Json

def CustomPattern.ofJson? (v : Json) : Option CustomPattern := do
  match ← v.record? [["kind"], ["path"]] with
  | [kind, path] =>
    let kind ← Json.orDefault "" Json.string? kind
    let path ← Json.orDefault "" Json.string? path
    pure ⟨kind, path⟩
  | _ => none

namespace HttpRule

/-- The fields of a rule under the names they may have. -/
def fields : List (List String) :=
  [["get"], ["put"], ["post"], ["delete"], ["patch"], ["custom"], ["body"],
    ["additional_bindings", "additionalBindings"]]

/-- The custom pattern of a rule: absent, null, or given. -/
def customOfJson? : Option Json → Option (Option (Option CustomPattern))
  | none => some none
  | some .null => some (some none)
  | some v => (CustomPattern.ofJson? v).map fun c => some (some c)

/-- Decodes a rule whose further bindings nest less than `levels` deep. -/
def ofJsonWithin? : (levels : Nat) → Json → Option HttpRule
  | 0, _ => none
  | levels + 1, v => do
    match ← v.record? fields with
    | [get, put, post, delete, patch, custom, body, additional] =>
      let get ← Json.optional Json.string? get
      let put ← Json.optional Json.string? put
      let post ← Json.optional Json.string? post
      let delete ← Json.optional Json.string? delete
      let patch ← Json.optional Json.string? patch
      let custom ← customOfJson? custom
      let body ← Json.orDefault "" Json.string? body
      let additional ←
        Json.orDefault [] (fun v => v.items?.bind (·.mapM (ofJsonWithin? levels))) additional
      pure (.mk get put post delete patch custom body additional)
    | _ => none

/-- Decodes a rule. Bindings cannot nest deeper than the value does. -/
def ofJson? (v : Json) : Option HttpRule := ofJsonWithin? (v.depth + 1) v

end HttpRule

def MethodDefinition.ofJson? (v : Json) : Option MethodDefinition := do
  match ← v.record? [["name"], ["http"]] with
  | [some name, http] =>
    let name ← name.string?
    let http ← Json.optional HttpRule.ofJson? http
    pure ⟨name, http⟩
  | _ => none

def ServiceDefinition.ofJson? (v : Json) : Option ServiceDefinition := do
  match ← v.record? [["name"], ["methods"]] with
  | [some name, methods] =>
    let name ← name.string?
    let methods ←
      Json.orDefault [] (fun v => v.items?.bind (·.mapM MethodDefinition.ofJson?)) methods
    pure ⟨name, methods⟩
  | _ => none

namespace FileDescriptor

def ofJson? (v : Json) : Option FileDescriptor := do
  match ← v.record? [["name"], ["syntax"], ["edition"], ["services"]] with
  | [name, marker, edition, services] =>
    let name ← Json.orDefault "" Json.string? name
    let marker ← Json.optional Json.string? marker
    let edition ← Json.optional Json.string? edition
    let services ←
      Json.orDefault [] (fun v => v.items?.bind (·.mapM ServiceDefinition.ofJson?)) services
    pure ⟨name, marker, edition, services⟩
  | _ => none

/-- Decodes a document: an array whose items are all files, else one file. -/
def listOfJson? (v : Json) : Option (List FileDescriptor) :=
  (v.items?.bind (·.mapM ofJson?)).or ((ofJson? v).map fun file => [file])

end FileDescriptor

/-- Reads a descriptor document, all of which has to be usable. A document of the wrong shape is
reported before text that follows it. -/
def readDescriptors (text : String) : Except DescriptorError (List FileDescriptor) :=
  match Json.read? text.toList with
  | none => .error .notJson
  | some (v, rest) =>
    if !v.isUsable then .error .notJson
    else
      match FileDescriptor.listOfJson? v with
      | none => .error .wrongShape
      | some files => if Json.skipBlank rest = [] then .ok files else .error .notJson

/-- Reads a single method. What unknown members hold need not be usable. -/
def MethodDefinition.read? (text : String) : Option MethodDefinition := do
  let (v, rest) ← Json.read? text.toList
  let method ← ofJson? v
  if Json.skipBlank rest = [] then pure method else none

end RpcRoutes
