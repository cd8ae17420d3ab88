import RpcRoutes.Binding.Extract

/-!
# Binding trees

The bindings of a file: its services that have rules, each with its methods that have rules, in
declaration order. Services or methods of one name stay apart.

* `ServiceDefinition.bindings` builds the tree of a list of services, `SyntaxVariant.bindings` the
  tree of those of a file in some variant.
* `ServiceBinding.rules` lists a tree's rules in order, each with its service and method.
-/

namespace RpcRoutes

structure MethodBinding where
  name : String
  /-- Its rules in declaration order. -/
  rules : List Rule
  deriving DecidableEq, Repr

structure ServiceBinding where
  name : String
  /-- Its bound methods in declaration order. -/
  methods : List MethodBinding
  deriving DecidableEq, Repr

def ServiceBinding.ruleCount (s : ServiceBinding) : Nat :=
  (s.methods.flatMap (·.rules)).length

/-- A rule with the service and the method it binds. -/
structure OwnedRule where
  service : String
  /-- The method and all of its rules. -/
  method : MethodBinding
  rule : Rule
  deriving DecidableEq, Repr

def ServiceBinding.rules (s : ServiceBinding) : List OwnedRule :=
  s.methods.flatMap fun m => m.rules.map fun r => ⟨s.name, m, r⟩

namespace ServiceDefinition

/-- The bound methods among a list of methods; the first failure ends it. -/
def methodBindings : List MethodDefinition → Except BindingError (List MethodBinding)
  | [] => .ok []
  | m :: ms =>
    match m.rules with
    | .error e => .error e
    | .ok rules =>
      match methodBindings ms with
      | .error e => .error e
      | .ok bound => .ok (if rules = [] then bound else ⟨m.name, rules⟩ :: bound)

/-- The bound services among a list of services; the first failure ends it and is reported
with its service. -/
def bindings : List ServiceDefinition → Except BindingError (List ServiceBinding)
  | [] => .ok []
  | s :: ss =>
    match methodBindings s.methods with
    | .error e => .error (.inService s.name e)
    | .ok methods =>
      match bindings ss with
      | .error e => .error e
      | .ok bound => .ok (if methods = [] then bound else ⟨s.name, methods⟩ :: bound)

end ServiceDefinition

/-- The bindings of the services of a file that is written in a variant. All variants share one
extraction. -/
def SyntaxVariant.bindings (_ : SyntaxVariant) (services : List ServiceDefinition) :
    Except BindingError (List ServiceBinding) :=
  ServiceDefinition.bindings services

def FileDescriptor.bindings (file : FileDescriptor) : Except BindingError (List ServiceBinding) :=
  (SyntaxVariant.ofFile file).bindings file.services

end RpcRoutes
