import RpcRoutes.Binding.Tree

/-!
# Extracted rules

What is known of every rule that is extracted from a file: it is bound, whatever its annotation
says. The facts follow the data, from an annotation to a method, a list of methods and a list of
services; for each list an `_ok_iff` lemma says what a successful extraction consists of.

* `FileDescriptor.isBound_of_bindings` states it for the rules of a file.
-/

namespace RpcRoutes

/-! ### Successful extractions -/

theorem HttpRule.rulesOf_cons_ok_iff {method : String} {h : HttpRule} {hs : List HttpRule}
    {found : List Rule} : rulesOf method (h :: hs) = .ok found ↔
      ∃ first rest, h.ownRule method = .ok first ∧ rulesOf method hs = .ok rest ∧
        first.toList ++ rest = found := by
  rw [rulesOf]
  cases h.ownRule method with
  | error e => simp
  | ok first =>
      cases rulesOf method hs with
      | error e => simp
      | ok rest => simp

namespace ServiceDefinition

theorem methodBindings_cons_ok_iff {m : MethodDefinition} {ms : List MethodDefinition}
    {found : List MethodBinding} : methodBindings (m :: ms) = .ok found ↔
      ∃ rules rest, m.rules = .ok rules ∧ methodBindings ms = .ok rest ∧
        (if rules = [] then rest else ⟨m.name, rules⟩ :: rest) = found := by
  rw [methodBindings]
  cases m.rules with
  | error e => simp
  | ok rules =>
      cases methodBindings ms with
      | error e => simp
      | ok rest => simp

theorem bindings_cons_ok_iff {s : ServiceDefinition} {ss : List ServiceDefinition}
    {found : List ServiceBinding} : bindings (s :: ss) = .ok found ↔
      ∃ methods rest, methodBindings s.methods = .ok methods ∧ bindings ss = .ok rest ∧
        (if methods = [] then rest else ⟨s.name, methods⟩ :: rest) = found := by
  rw [bindings]
  cases methodBindings s.methods with
  | error e => simp
  | ok methods =>
      cases bindings ss with
      | error e => simp
      | ok rest => simp

end ServiceDefinition

/-! ### Bound rules -/

theorem HttpRule.isBound_of_ownRule {method : String} {h : HttpRule} {found : Option Rule}
    (extracted : h.ownRule method = .ok found) : ∀ rule ∈ found, rule.IsBound := by
  intro rule mem
  unfold ownRule at extracted
  split at extracted
  · obtain rfl := Except.ok.inj extracted
    cases mem
  · obtain rfl := Except.ok.inj extracted
    split at mem
    · rename_i bound
      obtain rfl := Option.some.inj mem
      exact bound
    · cases mem
  · cases extracted

theorem HttpRule.isBound_of_rulesOf {method : String} {hs : List HttpRule} {found : List Rule}
    (extracted : rulesOf method hs = .ok found) : ∀ rule ∈ found, rule.IsBound := by
  induction hs generalizing found with
  | nil =>
      obtain rfl := Except.ok.inj extracted
      exact nofun
  | cons h hs ih =>
      obtain ⟨first, rest, own, later, rfl⟩ := rulesOf_cons_ok_iff.mp extracted
      rw [List.forall_mem_append]
      constructor
      · intro rule mem
        exact isBound_of_ownRule own rule (Option.mem_toList.mp mem)
      · exact ih later

theorem MethodDefinition.isBound_of_rules {m : MethodDefinition} {found : List Rule}
    (extracted : m.rules = .ok found) : ∀ rule ∈ found, rule.IsBound := by
  rw [rules] at extracted
  cases http : m.http with
  | none =>
      rw [http] at extracted
      obtain rfl := Except.ok.inj extracted
      exact nofun
  | some h =>
      rw [http] at extracted
      exact HttpRule.isBound_of_rulesOf extracted

namespace ServiceDefinition

theorem isBound_of_methodBindings {ms : List MethodDefinition} {found : List MethodBinding}
    (extracted : methodBindings ms = .ok found) : ∀ m ∈ found, ∀ rule ∈ m.rules, rule.IsBound := by
  induction ms generalizing found with
  | nil =>
      obtain rfl := Except.ok.inj extracted
      exact nofun
  | cons m ms ih =>
      obtain ⟨rules, rest, own, later, rfl⟩ := methodBindings_cons_ok_iff.mp extracted
      split
      · exact ih later
      · exact List.forall_mem_cons.mpr ⟨MethodDefinition.isBound_of_rules own, ih later⟩

theorem isBound_of_bindings {ss : List ServiceDefinition} {found : List ServiceBinding}
    (extracted : bindings ss = .ok found) :
    ∀ service ∈ found, ∀ m ∈ service.methods, ∀ rule ∈ m.rules, rule.IsBound := by
  induction ss generalizing found with
  | nil =>
      obtain rfl := Except.ok.inj extracted
      exact nofun
  | cons s ss ih =>
      obtain ⟨methods, rest, own, later, rfl⟩ := bindings_cons_ok_iff.mp extracted
      split
      · exact ih later
      · exact List.forall_mem_cons.mpr ⟨isBound_of_methodBindings own, ih later⟩

end ServiceDefinition

/-- Every rule that is extracted from a file has a method. -/
theorem FileDescriptor.isBound_of_bindings {file : FileDescriptor} {found : List ServiceBinding}
    (extracted : file.bindings = .ok found) :
    ∀ r ∈ found.flatMap ServiceBinding.rules, r.rule.IsBound := by
  intro r mem
  obtain ⟨service, known, inside⟩ := List.mem_flatMap.mp mem
  obtain ⟨m, known', inside'⟩ := List.mem_flatMap.mp inside
  obtain ⟨rule, mem', rfl⟩ := List.mem_map.mp inside'
  exact ServiceDefinition.isBound_of_bindings extracted service known m known' rule mem'

end RpcRoutes
