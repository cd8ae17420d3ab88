import RpcRoutes.Proofs.Routing.Registration
import RpcRoutes.Routing.Mount

/-!
# Plans of binding trees

What the plan of a tree checks, and what it is when nothing is found.

* `Mount.Checked` collects the checks: every method has a handler, every rule a method, and where
  duplicates are errors no key's text is claimed and no key stands twice.
* `Mount.plan_spec`: either all checks pass and the plan lists every rule with its handler, or one
  of them fails and the error names what failed. The plan compares keys, not texts, and reads no
  pattern.
-/

namespace RpcRoutes

variable {H : Type}

/-- The key that a rule has in a group. -/
abbrev Group.ruleKey (g : Group H) (r : OwnedRule) : RouteKey :=
  g.fullKey r.rule.method r.rule.pattern

namespace Mount

/-- The rules of a tree, in order of service, method and rule. -/
def rules (bindings : List ServiceBinding) : List OwnedRule := bindings.flatMap ServiceBinding.rules

/-- The rules of one method of a service. -/
def methodRules (m : String × MethodBinding) : List OwnedRule :=
  m.2.rules.map fun rule => ⟨m.1, m.2, rule⟩

/-- A rule with the handler of its method, if that has one. -/
def planned? (resolver : HandlerResolver H) (r : OwnedRule) : Option (Planned H) :=
  (resolver r.service r.method).map fun handler => ⟨r.rule.method, r.rule.pattern, handler⟩

theorem flatMap_methodRules (bindings : List ServiceBinding) :
    (methodsOf bindings).flatMap methodRules = rules bindings := by
  simp only [methodsOf, rules, List.flatMap_assoc, List.flatMap_map]
  rfl

/-- Keys that a plan takes after those in `seen`: they stand once each, not in `seen`, and none
has a text that is claimed. -/
def Unseen (s : Site H) (seen keys : List RouteKey) : Prop :=
  keys.Nodup ∧ ∀ k ∈ keys, ¬ s.registry.Holds k ∧ k ∉ seen

section Unseen

variable {s : Site H} {seen : List RouteKey}

theorem unseen_nil : Unseen s seen [] := ⟨List.nodup_nil, nofun⟩

theorem unseen_append {keys more : List RouteKey} :
    Unseen s seen (keys ++ more) ↔
      Unseen s seen keys ∧ Unseen s (keys.reverse ++ seen) more := by
  rw [Unseen, List.nodup_append, List.forall_mem_append]
  simp only [Unseen, List.mem_append, List.mem_reverse, not_or]
  constructor
  · rintro ⟨⟨distinct, distinct', apart⟩, free, free'⟩
    refine ⟨⟨distinct, free⟩, distinct', ?_⟩
    intro k mem
    refine ⟨(free' k mem).1, ?_, (free' k mem).2⟩
    intro mem'
    exact apart k mem' k mem rfl
  · rintro ⟨⟨distinct, free⟩, distinct', free'⟩
    refine ⟨⟨distinct, distinct', ?_⟩, free, ?_⟩
    · rintro k mem k' mem' rfl
      exact (free' k mem').2.1 mem
    · intro k mem
      exact ⟨(free' k mem).1, (free' k mem).2.2⟩

theorem unseen_cons {k : RouteKey} {keys : List RouteKey} :
    Unseen s seen (k :: keys) ↔ (¬ s.registry.Holds k ∧ k ∉ seen) ∧ Unseen s (k :: seen) keys := by
  have split : Unseen s seen ([k] ++ keys) ↔
      Unseen s seen [k] ∧ Unseen s ([k].reverse ++ seen) keys := unseen_append
  simpa [Unseen] using split

end Unseen

/-! ### Planning rules -/

/-- Why a plan stops at one of these rules: it has no method, or it is a duplicate. -/
def RuleFault (g : Group H) (s : Site H) (seen : List RouteKey) (rs : List OwnedRule)
    (e : RouteError) : Prop :=
  (∃ r ∈ rs, r.rule.method = "" ∧ e = .emptyMethod r.rule.pattern) ∨
    s.table.policy = .reject ∧ ¬ Unseen s seen (rs.map g.ruleKey) ∧
      ∃ r ∈ rs, e = .duplicateRoute (g.ruleKey r)

/-- The checks of these rules pass. -/
def RulesPass (g : Group H) (s : Site H) (seen : List RouteKey) (rs : List OwnedRule) : Prop :=
  (∀ r ∈ rs, r.rule.method ≠ "") ∧
    (s.table.policy = .reject → Unseen s seen (rs.map g.ruleKey))

section Rules

variable {g : Group H} {s : Site H} {seen : List RouteKey} {rs more : List OwnedRule}
  {e : RouteError}

theorem RuleFault.append_left (fault : RuleFault g s seen rs e) :
    RuleFault g s seen (rs ++ more) e := by
  rcases fault with ⟨r, mem, empty, rfl⟩ | ⟨policy, taken, r, mem, rfl⟩
  · exact Or.inl ⟨r, List.mem_append_left _ mem, empty, rfl⟩
  · refine Or.inr ⟨policy, ?_, r, List.mem_append_left _ mem, rfl⟩
    intro unseen
    rw [List.map_append, unseen_append] at unseen
    exact taken unseen.1

theorem RuleFault.append_right
    (fault : RuleFault g s ((rs.map g.ruleKey).reverse ++ seen) more e) :
    RuleFault g s seen (rs ++ more) e := by
  rcases fault with ⟨r, mem, empty, rfl⟩ | ⟨policy, taken, r, mem, rfl⟩
  · exact Or.inl ⟨r, List.mem_append_right _ mem, empty, rfl⟩
  · refine Or.inr ⟨policy, ?_, r, List.mem_append_right _ mem, rfl⟩
    intro unseen
    rw [List.map_append, unseen_append] at unseen
    exact taken unseen.2

theorem RulesPass.append (first : RulesPass g s seen rs)
    (second : RulesPass g s ((rs.map g.ruleKey).reverse ++ seen) more) :
    RulesPass g s seen (rs ++ more) := by
  constructor
  · exact List.forall_mem_append.mpr ⟨first.1, second.1⟩
  · intro policy
    rw [List.map_append, unseen_append]
    exact ⟨first.2 policy, second.2 policy⟩

theorem RuleFault.not_pass (fault : RuleFault g s seen rs e) : ¬ RulesPass g s seen rs := by
  rintro ⟨named, unseen⟩
  rcases fault with ⟨r, mem, empty, _⟩ | ⟨policy, taken, _⟩
  · exact named r mem empty
  · exact taken (unseen policy)

section Cons

variable {handler : H} {r : OwnedRule}
  (named : r.rule.method ≠ "")
  (free : ¬ (s.table.policy = .reject ∧ (s.registry.Holds (g.ruleKey r) ∨ g.ruleKey r ∈ seen)))

include named free

theorem planRules_cons_error
    (stops : planRules g s handler (g.ruleKey r :: seen) (rs.map (·.rule)) = .error e) :
    planRules g s handler seen ((r :: rs).map (·.rule)) = .error e := by
  have found : g.key r.rule.method r.rule.pattern = .ok (g.ruleKey r) := if_neg named
  rw [List.map_cons, planRules, found]
  simp only [if_neg free, stops]

theorem planRules_cons_ok {keys : List RouteKey} {ps : List (Planned H)}
    (planned : planRules g s handler (g.ruleKey r :: seen) (rs.map (·.rule)) = .ok (keys, ps)) :
    planRules g s handler seen ((r :: rs).map (·.rule)) =
      .ok (keys, ⟨r.rule.method, r.rule.pattern, handler⟩ :: ps) := by
  have found : g.key r.rule.method r.rule.pattern = .ok (g.ruleKey r) := if_neg named
  rw [List.map_cons, planRules, found]
  simp only [if_neg free, planned]

end Cons

/-- The rules of one method are planned in order, or a rule has a fault. -/
theorem planRules_spec (g : Group H) (s : Site H) (handler : H) (seen : List RouteKey)
    (rs : List OwnedRule) :
    (RulesPass g s seen rs ∧ planRules g s handler seen (rs.map (·.rule)) =
        .ok ((rs.map g.ruleKey).reverse ++ seen,
          rs.map fun r => ⟨r.rule.method, r.rule.pattern, handler⟩)) ∨
      ∃ e, RuleFault g s seen rs e ∧
        planRules g s handler seen (rs.map (·.rule)) = .error e := by
  induction rs generalizing seen with
  | nil => exact Or.inl ⟨⟨nofun, fun _ => unseen_nil⟩, rfl⟩
  | cons r rs ih =>
      by_cases empty : r.rule.method = ""
      · refine Or.inr ⟨_, Or.inl ⟨r, List.mem_cons_self, empty, rfl⟩, ?_⟩
        simp [planRules, Group.key, empty]
      have found : g.key r.rule.method r.rule.pattern = .ok (g.ruleKey r) := if_neg empty
      by_cases taken : s.table.policy = .reject ∧
          (s.registry.Holds (g.ruleKey r) ∨ g.ruleKey r ∈ seen)
      · refine Or.inr ⟨_, Or.inr ⟨taken.1, ?_, r, List.mem_cons_self, rfl⟩, ?_⟩
        · rw [List.map_cons, unseen_cons, ← not_or]
          intro unseen
          exact unseen.1 taken.2
        · rw [List.map_cons, planRules, found]
          exact if_pos taken
      · have head : RulesPass g s seen [r] := by
          constructor
          · exact List.forall_mem_singleton.mpr empty
          · intro policy
            rw [List.map_singleton, unseen_cons, ← not_or]
            refine ⟨?_, unseen_nil⟩
            intro held
            exact taken ⟨policy, held⟩
        rcases ih (g.ruleKey r :: seen) with ⟨pass, planned⟩ | ⟨e, fault, stops⟩
        · refine Or.inl ⟨head.append pass, ?_⟩
          rw [planRules_cons_ok empty taken planned]
          simp
        · have later : RuleFault g s seen ([r] ++ rs) e := RuleFault.append_right fault
          exact Or.inr ⟨e, later, planRules_cons_error empty taken stops⟩

end Rules

/-! ### Planning a tree -/

/-- What the plan of a tree checks. -/
structure Checked (g : Group H) (s : Site H) (bindings : List ServiceBinding)
    (resolver : HandlerResolver H) : Prop where
  handled : ∀ m ∈ methodsOf bindings, resolver m.1 m.2 ≠ none
  named : ∀ r ∈ rules bindings, r.rule.method ≠ ""
  distinct : s.table.policy = .reject → ((rules bindings).map g.ruleKey).Nodup
  unclaimed : s.table.policy = .reject → ∀ r ∈ rules bindings, ¬ s.registry.Holds (g.ruleKey r)

/-- Why a plan stops: a method has no handler, or a rule has a fault. -/
def PlanFault (g : Group H) (s : Site H) (seen : List RouteKey)
    (methods : List (String × MethodBinding)) (resolver : HandlerResolver H) (e : RouteError) :
    Prop :=
  (∃ m ∈ methods, resolver m.1 m.2 = none ∧ e = .missingHandler m.1 m.2.name) ∨
    RuleFault g s seen (methods.flatMap methodRules) e

variable {g : Group H} {s : Site H} {resolver : HandlerResolver H}

theorem planned_methodRules {m : String × MethodBinding} {handler : H}
    (found : resolver m.1 m.2 = some handler) : (methodRules m).filterMap (planned? resolver) =
      (methodRules m).map fun r => ⟨r.rule.method, r.rule.pattern, handler⟩ := by
  rw [methodRules, List.filterMap_map, List.map_map, ← List.filterMap_eq_map]
  congr 1
  funext rule
  simp [planned?, found]

/-- Methods are planned in order, or one has no handler or a rule with a fault. -/
theorem planMethods_spec (seen : List RouteKey) (methods : List (String × MethodBinding)) :
    ((∀ m ∈ methods, resolver m.1 m.2 ≠ none) ∧
        RulesPass g s seen (methods.flatMap methodRules) ∧
        planMethods g s resolver seen methods =
          .ok ((methods.flatMap methodRules).filterMap (planned? resolver))) ∨
      ∃ e, PlanFault g s seen methods resolver e ∧
        planMethods g s resolver seen methods = .error e := by
  induction methods generalizing seen with
  | nil => exact Or.inl ⟨nofun, ⟨nofun, fun _ => unseen_nil⟩, rfl⟩
  | cons m methods ih =>
      obtain ⟨service, method⟩ := m
      cases found : resolver service method with
      | none =>
          refine Or.inr ⟨_, Or.inl ⟨_, List.mem_cons_self, found, rfl⟩, ?_⟩
          simp [planMethods, found]
      | some handler =>
          have rules_eq : method.rules = (methodRules (service, method)).map (·.rule) := by
            simp [methodRules, Function.comp_def]
          rcases planRules_spec g s handler seen (methodRules (service, method)) with
            ⟨pass, planned⟩ | ⟨e, fault, stops⟩
          · rw [← rules_eq] at planned
            rcases ih (((methodRules (service, method)).map g.ruleKey).reverse ++ seen) with
              ⟨handled, pass', planned'⟩ | ⟨e, fault, stops⟩
            · refine Or.inl ⟨List.forall_mem_cons.mpr ⟨by simp [found], handled⟩,
                pass.append pass', ?_⟩
              rw [List.flatMap_cons, List.filterMap_append, planned_methodRules found]
              simp [planMethods, found, planned, planned']
            · refine Or.inr ⟨e, ?_, by simp [planMethods, found, planned, stops]⟩
              rcases fault with ⟨m, mem, missing⟩ | fault
              · exact Or.inl ⟨m, List.mem_cons_of_mem _ mem, missing⟩
              · exact Or.inr fault.append_right
          · rw [← rules_eq] at stops
            exact Or.inr ⟨e, Or.inr fault.append_left, by simp [planMethods, found, stops]⟩

variable (g s resolver)

/-- A tree that passes all checks is planned in full; any other is refused for a fault. -/
theorem plan_spec (bindings : List ServiceBinding) :
    (Checked g s bindings resolver ∧
        plan g s bindings resolver = .ok ((rules bindings).filterMap (planned? resolver))) ∨
      (¬ Checked g s bindings resolver ∧
        ∃ e, PlanFault g s [] (methodsOf bindings) resolver e ∧
          plan g s bindings resolver = .error e) := by
  have spec := @planMethods_spec H g s resolver [] (methodsOf bindings)
  rw [flatMap_methodRules] at spec
  rcases spec with ⟨handled, ⟨named, unseen⟩, planned⟩ | ⟨e, fault, stops⟩
  · refine Or.inl ⟨⟨handled, named, ?_, ?_⟩, planned⟩
    · intro policy
      exact (unseen policy).1
    · intro policy r mem
      exact ((unseen policy).2 _ (List.mem_map_of_mem mem)).1
  · refine Or.inr ⟨?_, e, fault, stops⟩
    intro checked
    rcases fault with ⟨m, mem, missing, _⟩ | fault
    · exact checked.handled m mem missing
    · rw [flatMap_methodRules] at fault
      apply fault.not_pass
      refine ⟨checked.named, ?_⟩
      intro policy
      refine ⟨checked.distinct policy, ?_⟩
      rw [List.forall_mem_map]
      intro r mem
      exact ⟨checked.unclaimed policy r mem, List.not_mem_nil⟩

end Mount

end RpcRoutes
