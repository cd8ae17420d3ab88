import Mathlib.Data.List.Basic
import RpcRoutes.Binding.Tree

/-!
# Declarations and what becomes of them

A list of services declares annotations: for each method its own one and then the further bindings
that stand directly in it. Every declaration counts for itself, in order: one that sets several
patterns is a fault, and otherwise it gives the rule that it normalizes to, or none.

* `ServiceDefinition.declarations` lists what a service declares. `HttpRule.Conflicting` and
  `HttpRule.rule?` say what becomes of one declaration.
* `HttpRule.rulesOf_eq`, `ServiceDefinition.methodBindings_eq` and `ServiceDefinition.bindings_eq`
  say it of annotations, methods and services: an extraction gives the first fault if there is one,
  and else all that is bound.
* `ServiceDefinition.pruned` is a service without the bindings that stand deeper.
* `SyntaxVariant.bindings_exact` puts them together.
-/

namespace RpcRoutes

/-! ### Single declarations -/

/-- All patterns, in the order in which a fault names them. -/
def PatternMember.all : List PatternMember := [.get, .put, .post, .delete, .patch, .custom]

namespace HttpRule

/-- What a rule sets a pattern to: the verb, and the path written beside it. A custom pattern has
its path inside; it may be set to nothing at all. -/
def setting? (h : HttpRule) : PatternMember → Option (Verb × String)
  | .get => h.get?.map (.get, ·)
  | .put => h.put?.map (.put, ·)
  | .post => h.post?.map (.post, ·)
  | .delete => h.delete?.map (.delete, ·)
  | .patch => h.patch?.map (.patch, ·)
  | .custom => h.custom?.map (.custom ·, "")

def members (h : HttpRule) : List PatternMember :=
  PatternMember.all.filter fun m => (h.setting? m).isSome

/-- A rule that sets more than one pattern. -/
def Conflicting (h : HttpRule) : Prop := 1 < h.members.length

instance (h : HttpRule) : Decidable h.Conflicting := inferInstanceAs (Decidable (_ < _))

/-- The rule that the first pattern set normalizes to, if that has a method. -/
def rule? (h : HttpRule) : Option Rule :=
  ((PatternMember.all.findSome? h.setting?).map fun (verb, path) =>
    Rule.normalize verb path h.body).filter fun rule => rule.method != ""

def fault? (method : String) (h : HttpRule) : Option BindingError :=
  if h.Conflicting then some (.conflictingPatterns method h.members) else none

/-- The patterns that are set are those of all patterns, in their order. -/
theorem patterns_eq (h : HttpRule) : h.patterns =
    PatternMember.all.filterMap fun m =>
      (h.setting? m).map fun (verb, path) => ⟨m, verb, path⟩ := by
  have cons (f : PatternMember → Option SetPattern) (m : PatternMember) (ms : List PatternMember) :
      (m :: ms).filterMap f = (f m).toList ++ ms.filterMap f := by
    cases found : f m <;> simp [found]
  simp only [PatternMember.all, cons, List.filterMap_nil, List.append_nil, setting?,
    Option.map_map, patterns, List.append_assoc]
  rfl

theorem map_member_patterns (h : HttpRule) : h.patterns.map (·.member) = h.members := by
  rw [patterns_eq, members, List.map_filterMap, ← List.filterMap_eq_filter]
  congr 1
  funext m
  cases set : h.setting? m <;> simp [Option.guard, set]

theorem conflicting_iff {h : HttpRule} : h.Conflicting ↔ 1 < h.patterns.length := by
  rw [Conflicting, ← map_member_patterns, List.length_map]

theorem rule?_eq (h : HttpRule) : h.rule? =
    (h.patterns.head?.map fun p => Rule.normalize p.verb p.path h.body).filter
      fun rule => rule.method != "" := by
  rw [rule?, patterns_eq, List.head?_filterMap, List.map_findSome?, List.map_findSome?]
  congr 2
  funext m
  simp only [Function.comp_apply, Option.map_map]
  rfl

end HttpRule

/-! ### Extraction with faults -/

/-- A fault if there is one, and a value otherwise. -/
def faultOr {ε α : Type} (fault : Option ε) (value : α) : Except ε α :=
  match fault with
  | some e => .error e
  | none => .ok value

/-- The annotations of a method: its own, then the further bindings directly in it. -/
def MethodDefinition.annotations (m : MethodDefinition) : List HttpRule :=
  m.http.toList.flatMap fun h => h :: h.additional

def MethodDefinition.fault? (m : MethodDefinition) : Option BindingError :=
  m.annotations.findSome? (HttpRule.fault? m.name)

/-- A method with its own rules, if it has any. -/
def MethodDefinition.binding? (m : MethodDefinition) : Option MethodBinding :=
  let rules := m.annotations.filterMap HttpRule.rule?
  if rules = [] then none else some ⟨m.name, rules⟩

def ServiceDefinition.fault? (s : ServiceDefinition) : Option BindingError :=
  (s.methods.findSome? MethodDefinition.fault?).map (.inService s.name)

/-- A service with its own methods that have rules, if there are any. -/
def ServiceDefinition.binding? (s : ServiceDefinition) : Option ServiceBinding :=
  let methods := s.methods.filterMap MethodDefinition.binding?
  if methods = [] then none else some ⟨s.name, methods⟩

theorem HttpRule.ownRule_eq (method : String) (h : HttpRule) :
    h.ownRule method = faultOr (h.fault? method) h.rule? := by
  rw [ownRule, rule?_eq, fault?]
  simp only [conflicting_iff, ← map_member_patterns]
  cases h.patterns with
  | nil => rfl
  | cons p ps =>
      cases ps with
      | nil =>
          by_cases unbound : (Rule.normalize p.verb p.path h.body).method = ""
          · simp [faultOr, Option.filter, Rule.IsBound, unbound]
          · simp [faultOr, Option.filter, Rule.IsBound, unbound]
      | cons q ps => simp [faultOr]

theorem HttpRule.rulesOf_eq (method : String) (hs : List HttpRule) :
    rulesOf method hs = faultOr (hs.findSome? (fault? method)) (hs.filterMap rule?) := by
  induction hs with
  | nil => rfl
  | cons h hs ih =>
      rw [rulesOf, ownRule_eq, ih, List.findSome?_cons]
      cases h.fault? method with
      | some e => rfl
      | none =>
          cases hs.findSome? (fault? method) with
          | some e => rfl
          | none => cases rule : h.rule? <;> simp [faultOr, rule]

theorem MethodDefinition.rules_eq (m : MethodDefinition) :
    m.rules = faultOr m.fault? (m.annotations.filterMap HttpRule.rule?) := by
  rw [rules, fault?, annotations]
  cases m.http with
  | none => rfl
  | some h =>
      rw [Option.toList_some, List.flatMap_singleton]
      exact HttpRule.rulesOf_eq m.name (h :: h.additional)

namespace ServiceDefinition

theorem methodBindings_eq (ms : List MethodDefinition) : methodBindings ms =
    faultOr (ms.findSome? MethodDefinition.fault?) (ms.filterMap MethodDefinition.binding?) := by
  induction ms with
  | nil => rfl
  | cons m ms ih =>
      rw [methodBindings, MethodDefinition.rules_eq, ih, List.findSome?_cons]
      cases m.fault? with
      | some e => rfl
      | none =>
          cases ms.findSome? MethodDefinition.fault? with
          | some e => rfl
          | none =>
              by_cases unbound : m.annotations.filterMap HttpRule.rule? = []
              · simp [faultOr, MethodDefinition.binding?, unbound]
              · have bound : m.binding? = some ⟨m.name, _⟩ := if_neg unbound
                simp only [faultOr, unbound, if_false, List.filterMap_cons_some bound]

theorem bindings_eq (ss : List ServiceDefinition) :
    bindings ss = faultOr (ss.findSome? fault?) (ss.filterMap binding?) := by
  induction ss with
  | nil => rfl
  | cons s ss ih =>
      rw [bindings, methodBindings_eq, ih, List.findSome?_cons, fault?]
      cases s.methods.findSome? MethodDefinition.fault? with
      | some e => rfl
      | none =>
          cases ss.findSome? fault? with
          | some e => rfl
          | none =>
              by_cases unbound : s.methods.filterMap MethodDefinition.binding? = []
              · simp [faultOr, binding?, unbound]
              · have bound : s.binding? = some ⟨s.name, _⟩ := if_neg unbound
                simp only [faultOr, unbound, if_false, List.filterMap_cons_some bound,
                  Option.map_none]

end ServiceDefinition

/-! ### Declarations of services -/

/-- An annotation with the service and the method that declare it. -/
structure Declaration where
  service : String
  method : String
  rule : HttpRule

/-- What a service declares, in order. -/
def ServiceDefinition.declarations (s : ServiceDefinition) : List Declaration :=
  s.methods.flatMap fun m => m.annotations.map fun h => ⟨s.name, m.name, h⟩

def Declaration.fault (d : Declaration) : BindingError :=
  .inService d.service (.conflictingPatterns d.method d.rule.members)

/-- The rule that a declaration gives, with its service and its method. -/
def Declaration.bound? (d : Declaration) : Option (String × String × Rule) :=
  d.rule.rule?.map (d.service, d.method, ·)

namespace ServiceDefinition

/-- The fault of a service is that of the first declaration in it that has one. -/
theorem fault?_eq (s : ServiceDefinition) :
    s.fault? = (s.declarations.find? fun d => d.rule.Conflicting).map Declaration.fault := by
  rw [fault?, declarations, List.find?_flatMap, List.map_findSome?, List.map_findSome?]
  congr 1
  funext m
  simp only [Function.comp_apply, MethodDefinition.fault?, List.find?_map, Option.map_map]
  induction m.annotations with
  | nil => rfl
  | cons h hs ih =>
      by_cases conflicting : h.Conflicting
      · simp [HttpRule.fault?, conflicting, Declaration.fault]
      · simpa [HttpRule.fault?, conflicting] using ih

theorem findSome?_fault? (services : List ServiceDefinition) : services.findSome? fault? =
    ((services.flatMap declarations).find? fun d => d.rule.Conflicting).map Declaration.fault := by
  rw [List.find?_flatMap, List.map_findSome?]
  congr 1
  funext s
  exact s.fault?_eq

/-- The rules of a method that is kept are those of its declarations. -/
theorem map_rules_method (service : String) (m : MethodDefinition) :
    (m.binding?.toList.flatMap fun bound => bound.rules.map (service, bound.name, ·)) =
      m.annotations.filterMap fun h => h.rule?.map (service, m.name, ·) := by
  rw [← List.map_filterMap]
  by_cases unbound : m.annotations.filterMap HttpRule.rule? = []
  · simp [MethodDefinition.binding?, unbound]
  · simp [MethodDefinition.binding?, unbound]

/-- The rules of a service, kept or not, are those of its methods that have rules. -/
theorem flatMap_rules_binding? (s : ServiceDefinition) :
    s.binding?.toList.flatMap ServiceBinding.rules =
      (s.methods.filterMap MethodDefinition.binding?).flatMap fun m =>
        m.rules.map fun rule => ⟨s.name, m, rule⟩ := by
  by_cases unbound : s.methods.filterMap MethodDefinition.binding? = []
  · simp [binding?, unbound]
  · simp [binding?, unbound, ServiceBinding.rules]

/-- The rules of a service that is kept are those of its declarations, in order. -/
theorem map_rules_service (s : ServiceDefinition) :
    (s.binding?.toList.flatMap ServiceBinding.rules).map
        (fun r => (r.service, r.method.name, r.rule)) =
      s.declarations.filterMap Declaration.bound? := by
  rw [flatMap_rules_binding?, declarations, List.filterMap_eq_flatMap_toList, List.flatMap_assoc,
    List.map_flatMap, List.filterMap_flatMap]
  congr 1
  funext m
  rw [List.filterMap_map, List.map_flatMap]
  simp only [List.map_map]
  exact map_rules_method s.name m

/-- The rules of a list of services are those of its declarations, in order. -/
theorem map_rules_services (services : List ServiceDefinition) :
    ((services.filterMap binding?).flatMap ServiceBinding.rules).map
        (fun r => (r.service, r.method.name, r.rule)) =
      (services.flatMap declarations).filterMap Declaration.bound? := by
  rw [List.filterMap_eq_flatMap_toList, List.flatMap_assoc, List.map_flatMap,
    List.filterMap_flatMap]
  congr 1
  funext s
  exact map_rules_service s

/-- Nothing that is kept is empty. -/
theorem binding?_nonempty {s : ServiceDefinition} {found : ServiceBinding}
    (kept : s.binding? = some found) : found.methods ≠ [] ∧ ∀ m ∈ found.methods, m.rules ≠ [] := by
  rw [binding?] at kept
  split at kept
  · cases kept
  · rename_i bound
    obtain rfl := Option.some.inj kept
    refine ⟨bound, ?_⟩
    intro m mem
    obtain ⟨declared, _, kept⟩ := List.mem_filterMap.mp mem
    rw [MethodDefinition.binding?] at kept
    split at kept
    · cases kept
    · rename_i bound
      obtain rfl := Option.some.inj kept
      exact bound

end ServiceDefinition

/-! ### Bindings that stand deeper -/

/-- An annotation without further bindings. -/
def HttpRule.flat (h : HttpRule) : HttpRule :=
  .mk h.get? h.put? h.post? h.delete? h.patch? h.custom? h.body []

/-- An annotation whose further bindings have none of their own. -/
def HttpRule.pruned (h : HttpRule) : HttpRule :=
  .mk h.get? h.put? h.post? h.delete? h.patch? h.custom? h.body (h.additional.map flat)

/-- A method whose annotation has no bindings two levels deep. -/
def MethodDefinition.pruned (m : MethodDefinition) : MethodDefinition :=
  { m with http := m.http.map HttpRule.pruned }

/-- A service without bindings two levels deep. -/
def ServiceDefinition.pruned (s : ServiceDefinition) : ServiceDefinition :=
  { s with methods := s.methods.map MethodDefinition.pruned }

/-- Pruning changes nothing in the annotations but their further bindings. -/
theorem MethodDefinition.map_flat_pruned (m : MethodDefinition) :
    m.pruned.annotations.map HttpRule.flat = m.annotations.map HttpRule.flat := by
  cases http : m.http with
  | none => simp [annotations, pruned, http]
  | some h =>
      simp only [annotations, pruned, http, Option.map_some, Option.toList_some,
        List.flatMap_singleton, List.map_cons, HttpRule.pruned, HttpRule.additional, List.map_map]
      rfl

theorem MethodDefinition.fault?_pruned (m : MethodDefinition) : m.pruned.fault? = m.fault? := by
  -- The further bindings of an annotation have no part in its own fault.
  have own : HttpRule.fault? m.name ∘ HttpRule.flat = HttpRule.fault? m.name := rfl
  have faults := congrArg (List.findSome? (HttpRule.fault? m.name)) m.map_flat_pruned
  rw [List.findSome?_map, List.findSome?_map, own] at faults
  exact faults

theorem MethodDefinition.binding?_pruned (m : MethodDefinition) :
    m.pruned.binding? = m.binding? := by
  have own : HttpRule.rule? ∘ HttpRule.flat = HttpRule.rule? := rfl
  have rules := congrArg (List.filterMap HttpRule.rule?) m.map_flat_pruned
  rw [List.filterMap_map, List.filterMap_map, own] at rules
  rw [binding?, rules]
  rfl

namespace ServiceDefinition

theorem fault?_pruned (s : ServiceDefinition) : s.pruned.fault? = s.fault? := by
  rw [fault?, pruned, List.findSome?_map]
  congr 2
  funext m
  exact m.fault?_pruned

theorem binding?_pruned (s : ServiceDefinition) : s.pruned.binding? = s.binding? := by
  have methods : s.pruned.methods.filterMap MethodDefinition.binding? =
      s.methods.filterMap MethodDefinition.binding? := by
    rw [pruned, List.filterMap_map]
    congr 1
    funext m
    exact m.binding?_pruned
  rw [binding?, methods]
  rfl

theorem bindings_map_pruned (services : List ServiceDefinition) :
    bindings (services.map pruned) = bindings services := by
  have faults : fault? ∘ pruned = fault? := funext fault?_pruned
  have kept : binding? ∘ pruned = binding? := funext binding?_pruned
  rw [bindings_eq, bindings_eq, List.findSome?_map, List.filterMap_map, faults, kept]

end ServiceDefinition

/-! ### Trees -/

/-- What a list of services gives in files of any variant. When a declaration sets several
patterns, the first such one is reported, with its service, its method and the patterns in their
order. Otherwise the rules are those that the declarations normalize to, in order and without
those that have no method. Every service and every method with rules is kept for itself, whatever
others are called, and nothing empty is. The parameters of a rule are the placeholders of its
pattern. Bindings that stand two levels deep or more have no part in any of this. -/
theorem SyntaxVariant.bindings_exact (variant : SyntaxVariant) (services : List ServiceDefinition) :
    (match (services.flatMap ServiceDefinition.declarations).find? (·.rule.Conflicting) with
      | some d => variant.bindings services =
          .error (.inService d.service (.conflictingPatterns d.method d.rule.members))
      | none => ∃ found, variant.bindings services = .ok found ∧
          (found.flatMap ServiceBinding.rules).map (fun r => (r.service, r.method.name, r.rule)) =
            (services.flatMap ServiceDefinition.declarations).filterMap (fun d =>
              d.rule.rule?.map fun rule => (d.service, d.method, rule)) ∧
          found = services.filterMap ServiceDefinition.binding? ∧
          ∀ s ∈ found, s.methods ≠ [] ∧ ∀ m ∈ s.methods, m.rules ≠ [] ∧
            ∀ rule ∈ m.rules, rule.pathParams = Path.placeholders rule.pattern) ∧
      variant.bindings (services.map ServiceDefinition.pruned) = variant.bindings services := by
  refine ⟨?_, ServiceDefinition.bindings_map_pruned services⟩
  have result := ServiceDefinition.bindings_eq services
  rw [ServiceDefinition.findSome?_fault?] at result
  cases first : (services.flatMap ServiceDefinition.declarations).find? (·.rule.Conflicting) with
  | some d =>
      rw [first] at result
      exact result
  | none =>
      rw [first] at result
      refine ⟨_, result, ServiceDefinition.map_rules_services services, rfl, ?_⟩
      intro found mem
      obtain ⟨s, _, kept⟩ := List.mem_filterMap.mp mem
      obtain ⟨nonempty, each⟩ := ServiceDefinition.binding?_nonempty kept
      exact ⟨nonempty, fun m mem => ⟨each m mem, fun rule _ => rule.pathParams_eq⟩⟩

end RpcRoutes
