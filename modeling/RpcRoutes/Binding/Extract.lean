import RpcRoutes.Binding.Rule

/-!
# Extracting rules

The rules of a method are those of its HTTP annotation: the annotation's own pattern first, then
the pattern of each further binding listed directly in it. A binding inside a further binding
counts for nothing. An annotation or a further binding may set one pattern at most; one that
sets none, or that binds nothing, gives no rule.

* `MethodDefinition.rules` extracts the rules of one method.
* `SyntaxVariant.ofFile` tells the variant that a file is written in; the rules do not depend
  on it.
-/

namespace RpcRoutes

/-- The language variant of a file. -/
inductive SyntaxVariant where
  | proto2
  | proto3
  | editions
  deriving DecidableEq, Repr

namespace SyntaxVariant

def name : SyntaxVariant → String
  | .proto2 => "proto2"
  | .proto3 => "proto3"
  | .editions => "editions"

def ofName? (name : String) : Option SyntaxVariant :=
  [proto2, proto3, editions].find? (·.name == name)

/-- The variant of a file. An edition decides, then the syntax marker; a file with neither, or
with an unknown marker, is in the second version. -/
def ofFile (file : FileDescriptor) : SyntaxVariant :=
  if (file.edition.getD "") ≠ "" then .editions
  else (file.syntaxMarker.bind ofName?).getD .proto2

end SyntaxVariant

/-- The patterns that a rule may set. -/
inductive PatternMember where
  | get
  | put
  | post
  | delete
  | patch
  | custom
  deriving DecidableEq, Repr

def PatternMember.name : PatternMember → String
  | .get => "get"
  | .put => "put"
  | .post => "post"
  | .delete => "delete"
  | .patch => "patch"
  | .custom => "custom"

/-- Why no rules could be extracted. -/
inductive BindingError where
  /-- A rule of the method sets more than one pattern. -/
  | conflictingPatterns (method : String) (members : List PatternMember)
  /-- A method of the service fails. -/
  | inService (service : String) (source : BindingError)
  deriving DecidableEq, Repr

def BindingError.message : BindingError → String
  | .conflictingPatterns method members =>
    "method `" ++ method ++ "` sets more than one HTTP pattern ("
      ++ ", ".intercalate (members.map PatternMember.name) ++ ")"
  | .inService service source => "service `" ++ service ++ "`: " ++ source.message

/-- A pattern that a rule sets: which one, its verb, and the path written beside it. -/
structure SetPattern where
  member : PatternMember
  verb : Verb
  /-- Its path; empty for a custom pattern, which has its own. -/
  path : String
  deriving DecidableEq, Repr

namespace HttpRule

/-- The patterns that a rule sets, standard verbs first. -/
def patterns (h : HttpRule) : List SetPattern :=
  (h.get?.map fun p => ⟨.get, .get, p⟩).toList
    ++ (h.put?.map fun p => ⟨.put, .put, p⟩).toList
    ++ (h.post?.map fun p => ⟨.post, .post, p⟩).toList
    ++ (h.delete?.map fun p => ⟨.delete, .delete, p⟩).toList
    ++ (h.patch?.map fun p => ⟨.patch, .patch, p⟩).toList
    ++ (h.custom?.map fun c => ⟨.custom, .custom c, ""⟩).toList

/-- The rule that an annotation or a further binding gives, the bindings inside it left aside;
none when it sets no pattern or binds nothing. -/
def ownRule (method : String) (h : HttpRule) : Except BindingError (Option Rule) :=
  match h.patterns with
  | [] => .ok none
  | [p] =>
    let rule := Rule.normalize p.verb p.path h.body
    .ok (if rule.IsBound then some rule else none)
  | ps => .error (.conflictingPatterns method (ps.map (·.member)))

/-- The rules of a list of annotations, in order; the first failure ends it. -/
def rulesOf (method : String) : List HttpRule → Except BindingError (List Rule)
  | [] => .ok []
  | h :: hs =>
    match h.ownRule method with
    | .error e => .error e
    | .ok rule =>
      match rulesOf method hs with
      | .error e => .error e
      | .ok rules => .ok (rule.toList ++ rules)

end HttpRule

/-- The rules of a method, its own pattern before the further ones. -/
def MethodDefinition.rules (m : MethodDefinition) : Except BindingError (List Rule) :=
  match m.http with
  | none => .ok []
  | some h => HttpRule.rulesOf m.name (h :: h.additional)

end RpcRoutes
