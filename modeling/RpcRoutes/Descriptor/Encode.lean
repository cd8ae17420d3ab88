import RpcRoutes.Descriptor.Schema
import RpcRoutes.Json.Value

/-!
# Writing descriptors

The JSON form of descriptors: records are objects with their fields in order. An option that is
absent, an empty body and an empty list of further bindings are left out; a custom pattern
without payload is null.

* `FileDescriptor.toJson` encodes a file.
-/

namespace RpcRoutes

namespace Json

/-- A text field that is left out when absent. -/
def textMember (name : String) (text : Option String) : List (String × Json) :=
  (text.map fun s => (name, .string s)).toList

end Json

def CustomPattern.toJson (c : CustomPattern) : Json :=
  .object [("kind", .string c.kind), ("path", .string c.path)]

namespace HttpRule

/-- The value of a custom pattern that is present. -/
def customJson : Option CustomPattern → Json
  | none => .null
  | some c => c.toJson

mutual

def toJson : HttpRule → Json
  | .mk get put post delete patch custom body additional =>
    .object
      (Json.textMember "get" get ++ Json.textMember "put" put ++ Json.textMember "post" post
        ++ Json.textMember "delete" delete ++ Json.textMember "patch" patch
        ++ (custom.map fun c => ("custom", customJson c)).toList
        ++ (if body = "" then [] else [("body", .string body)])
        ++ (match toJsonItems additional with
            | [] => []
            | items => [("additional_bindings", .array items)]))

def toJsonItems : List HttpRule → List Json
  | [] => []
  | h :: hs => toJson h :: toJsonItems hs

end

end HttpRule

def MethodDefinition.toJson (m : MethodDefinition) : Json :=
  .object (("name", .string m.name) :: (m.http.map fun h => ("http", h.toJson)).toList)

def ServiceDefinition.toJson (s : ServiceDefinition) : Json :=
  .object [("name", .string s.name), ("methods", .array (s.methods.map MethodDefinition.toJson))]

def FileDescriptor.toJson (f : FileDescriptor) : Json :=
  .object
    ([("name", .string f.name)] ++ Json.textMember "syntax" f.syntaxMarker
      ++ Json.textMember "edition" f.edition
      ++ [("services", .array (f.services.map ServiceDefinition.toJson))])

end RpcRoutes
