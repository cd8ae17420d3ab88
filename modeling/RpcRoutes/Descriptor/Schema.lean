/-!
# Descriptors

The part of a service description that HTTP bindings are read from: files with services,
services with methods, and the HTTP rule that a method may carry.

An HTTP rule sets at most one pattern in a valid description, but any number of them may be
present here; choosing one is the matter of `RpcRoutes.Binding.Extract`.
-/

namespace RpcRoutes

/-- A verb outside the standard five, with the path it is bound to. -/
structure CustomPattern where
  kind : String
  path : String
  deriving DecidableEq, Repr, Inhabited

/-- The HTTP annotation of a method, or one of the further bindings inside an annotation. -/
inductive HttpRule where
  /-- A rule by its fields. A custom pattern may be absent (`none`), present without payload
  (`some none`) or given. -/
  | mk (get put post delete patch : Option String) (custom : Option (Option CustomPattern))
      (body : String) (additional : List HttpRule)
  deriving Repr, Inhabited

namespace HttpRule

def empty : HttpRule := .mk none none none none none none "" []

def get? : HttpRule → Option String | .mk g _ _ _ _ _ _ _ => g

def put? : HttpRule → Option String | .mk _ p _ _ _ _ _ _ => p

def post? : HttpRule → Option String | .mk _ _ p _ _ _ _ _ => p

def delete? : HttpRule → Option String | .mk _ _ _ d _ _ _ _ => d

def patch? : HttpRule → Option String | .mk _ _ _ _ p _ _ _ => p

/-- The custom pattern: absent, without payload, or given. -/
def custom? : HttpRule → Option (Option CustomPattern) | .mk _ _ _ _ _ c _ _ => c

/-- The body selector as written; empty when the rule has none. -/
def body : HttpRule → String | .mk _ _ _ _ _ _ b _ => b

def additional : HttpRule → List HttpRule | .mk _ _ _ _ _ _ _ a => a

end HttpRule

structure MethodDefinition where
  name : String
  http : Option HttpRule
  deriving Repr, Inhabited

/-- A service with its methods in declaration order. -/
structure ServiceDefinition where
  name : String
  methods : List MethodDefinition
  deriving Repr, Inhabited

structure FileDescriptor where
  name : String
  /-- Its syntax marker, such as `proto3`. -/
  syntaxMarker : Option String
  edition : Option String
  /-- Its services in declaration order. -/
  services : List ServiceDefinition
  deriving Repr, Inhabited

end RpcRoutes
