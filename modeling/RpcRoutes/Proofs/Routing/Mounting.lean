import RpcRoutes.Proofs.Routing.Planning

/-!
# Mounting binding trees

When a tree is mounted, and what it then adds to its site.

* `Mount.Mountable` says when rules can be mounted one after another: each has a method and a
  template, and where duplicates are errors their texts are fresh.
* `Group.mount_spec`: mounting succeeds exactly when every method has a handler and the rules are
  mountable; then the texts are claimed in order and every rule whose text is admitted gives a
  route (`Mount.Mounts`). Otherwise the error names a fault of the tree.
* `Group.grows_mount`: whatever the result, mounting is a series of registrations.
-/

namespace RpcRoutes

variable [PatternEngine] {H : Type}

/-- The route that a rule gives in a group, if its method has a handler and its pattern a
template. -/
def Group.route? (g : Group H) (resolver : HandlerResolver H) (r : OwnedRule) : Option (Route H) :=
  (resolver r.service r.method).bind fun handler =>
    (Template.compile? (g.ruleKey r).pattern).map fun t =>
      ⟨r.rule.method, t, Middleware.compose handler g.stack []⟩

namespace Mount

/-- Rules that can be registered one after another. -/
structure Mountable (g : Group H) (s : Site H) (rs : List OwnedRule) : Prop where
  named : ∀ r ∈ rs, r.rule.method ≠ ""
  compiles : ∀ r ∈ rs, Template.Compiles (g.ruleKey r).pattern
  fresh : s.table.policy = .reject → s.registry.Fresh (rs.map g.ruleKey)

/-- Why rules cannot be registered one after another. -/
inductive Fault (g : Group H) (s : Site H) (rs : List OwnedRule) : RouteError → Prop where
  | unnamed {r : OwnedRule} (mem : r ∈ rs) (empty : r.rule.method = "") :
      Fault g s rs (.emptyMethod r.rule.pattern)
  | uncompiled {r : OwnedRule} (mem : r ∈ rs)
      (fails : ¬ Template.Compiles (g.ruleKey r).pattern) :
      Fault g s rs (.invalidPattern (g.ruleKey r).pattern)
  | duplicate {r : OwnedRule} (mem : r ∈ rs) (policy : s.table.policy = .reject)
      (taken : ¬ s.registry.Fresh (rs.map g.ruleKey)) : Fault g s rs (.duplicateRoute (g.ruleKey r))

/-- The site after all of these rules were registered. -/
structure Mounts (g : Group H) (s : Site H) (resolver : HandlerResolver H) (rs : List OwnedRule)
    (after : Site H) : Prop where
  registry_eq : after.registry = s.registry.claimAll g.ruleKey rs
  table_eq : after.table = { s.table with
    routes := s.table.routes ++ (s.registry.admitted g.ruleKey rs).filterMap (g.route? resolver) }

variable {g : Group H} {s after : Site H} {resolver : HandlerResolver H} {r : OwnedRule}
  {rs : List OwnedRule} {e : RouteError}

theorem Fault.not_mountable (fault : Fault g s rs e) : ¬ Mountable g s rs := by
  intro mountable
  cases fault with
  | unnamed mem empty => exact mountable.named _ mem empty
  | uncompiled mem fails => exact fails (mountable.compiles _ mem)
  | duplicate _ policy taken => exact taken (mountable.fresh policy)

/-- A fault that a plan finds is a fault of the rules. -/
theorem RuleFault.fault (fault : RuleFault g s [] rs e) : Fault g s rs e := by
  rcases fault with ⟨r, mem, empty, rfl⟩ | ⟨policy, taken, r, mem, rfl⟩
  · exact .unnamed mem empty
  · refine .duplicate mem policy ?_
    intro fresh
    refine taken ⟨?_, ?_⟩
    · exact List.Pairwise.of_map RouteKey.text (fun a b apart eq => apart (congrArg _ eq)) fresh.1
    · intro k mem
      exact ⟨fresh.2 k mem, List.not_mem_nil⟩

/-! ### Routes of rules -/

/-- A rule with a handler and a template gives a route with the key of the rule. -/
theorem exists_route? {handler : H} (found : resolver r.service r.method = some handler)
    (compiles : Template.Compiles (g.ruleKey r).pattern) :
    ∃ route, g.route? resolver r = some route ∧ route.key = g.ruleKey r ∧
      route.handler = Middleware.compose handler g.stack [] := by
  obtain ⟨t, compiled⟩ := Option.isSome_iff_exists.mp compiles
  refine ⟨⟨r.rule.method, t, Middleware.compose handler g.stack []⟩, ?_, ?_, rfl⟩
  · rw [Group.route?, found, Option.bind_some, compiled]
    rfl
  · exact Route.key_of_compile? compiled

theorem map_key_filterMap_route? (handled : ∀ r ∈ rs, resolver r.service r.method ≠ none)
    (compiles : ∀ r ∈ rs, Template.Compiles (g.ruleKey r).pattern) :
    (rs.filterMap (g.route? resolver)).map Route.key = rs.map g.ruleKey := by
  induction rs with
  | nil => rfl
  | cons r rs ih =>
      obtain ⟨known, handled⟩ := List.forall_mem_cons.mp handled
      obtain ⟨small, compiles⟩ := List.forall_mem_cons.mp compiles
      obtain ⟨handler, found⟩ := Option.ne_none_iff_exists'.mp known
      obtain ⟨route, route_eq, key_eq, _⟩ := exists_route? found small
      rw [List.filterMap_cons_some route_eq, List.map_cons, List.map_cons, key_eq,
        ih handled compiles]

/-- The table lists the keys of the admitted rules after those that it had. -/
theorem Mounts.keys_eq (mounts : Mounts g s resolver rs after)
    (handled : ∀ r ∈ rs, resolver r.service r.method ≠ none)
    (compiles : ∀ r ∈ rs, Template.Compiles (g.ruleKey r).pattern) :
    after.table.keys =
      s.table.keys ++ (s.registry.admitted g.ruleKey rs).map g.ruleKey := by
  have kept : s.registry.admitted g.ruleKey rs ⊆ rs := Registry.admitted_sublist.subset
  rw [mounts.table_eq, Table.keys, List.map_append,
    map_key_filterMap_route? (fun r mem => handled r (kept mem)) fun r mem =>
      compiles r (kept mem)]
  rfl

/-! ### Carrying out a plan -/

section Advance

variable (registry_eq : after.registry = (s.registry.claim (g.ruleKey r)).1)
  (policy_eq : after.table.policy = s.table.policy)

include registry_eq policy_eq

/-- Once its first rule is registered, the rest of a list is mountable if the list was. -/
theorem mountable_cons (named : r.rule.method ≠ "")
    (compiles : Template.Compiles (g.ruleKey r).pattern)
    (free : s.table.policy = .reject → ¬ s.registry.Holds (g.ruleKey r)) :
    Mountable g s (r :: rs) ↔ Mountable g after rs := by
  constructor
  · rintro ⟨named', compiles', fresh⟩
    refine ⟨?_, ?_, ?_⟩
    · intro q mem
      exact named' q (List.mem_cons_of_mem _ mem)
    · intro q mem
      exact compiles' q (List.mem_cons_of_mem _ mem)
    · intro policy
      have fresh := fresh (policy_eq ▸ policy)
      rw [List.map_cons, Registry.fresh_cons] at fresh
      rw [registry_eq]
      exact fresh.2
  · rintro ⟨named', compiles', fresh⟩
    refine ⟨List.forall_mem_cons.mpr ⟨named, named'⟩,
      List.forall_mem_cons.mpr ⟨compiles, compiles'⟩, ?_⟩
    intro policy
    rw [List.map_cons, Registry.fresh_cons, ← registry_eq]
    exact ⟨free policy, fresh (policy_eq ▸ policy)⟩

theorem Fault.cons (fault : Fault g after rs e) : Fault g s (r :: rs) e := by
  cases fault with
  | unnamed mem empty => exact .unnamed (List.mem_cons_of_mem _ mem) empty
  | uncompiled mem fails => exact .uncompiled (List.mem_cons_of_mem _ mem) fails
  | duplicate mem policy taken =>
      refine .duplicate (List.mem_cons_of_mem _ mem) (policy_eq ▸ policy) ?_
      intro fresh
      rw [List.map_cons, Registry.fresh_cons, ← registry_eq] at fresh
      exact taken fresh.2

end Advance

section Execute

variable {p : Planned H} {ps : List (Planned H)} {report : MountReport}

theorem execute_cons_error
    (stops : g.register s p.method p.pattern p.handler [] = (after, .error e)) :
    execute g s report (p :: ps) = (after, .error e) := by
  rw [execute, stops]

theorem execute_cons_ok {done : Registration}
    (goes_on : g.register s p.method p.pattern p.handler [] = (after, .ok done)) :
    execute g s report (p :: ps) = execute g after (report.add done) ps := by
  rw [execute, goes_on]

/-- Whatever comes of it, carrying out a plan is a series of registrations. -/
theorem grows_execute (isBase : Path.IsBase g.base) (report : MountReport)
    (ps : List (Planned H)) : ∃ routes, Site.Grows s routes (execute g s report ps).1 := by
  induction ps generalizing s report with
  | nil => exact ⟨[], .done s⟩
  | cons p ps ih =>
      obtain ⟨routes, first⟩ := (g.registers s p.method p.pattern p.handler []).grows isBase
      rcases result : g.register s p.method p.pattern p.handler [] with ⟨after, outcome⟩
      rw [result] at first
      cases outcome with
      | error e => exact ⟨routes, by rwa [execute_cons_error result]⟩
      | ok done =>
          obtain ⟨more, rest⟩ := ih (s := after) (report.add done)
          exact ⟨routes ++ more, by rw [execute_cons_ok result]; exact first.trans rest⟩

end Execute

omit [PatternEngine] in
theorem planned?_eq_some {handler : H} (found : resolver r.service r.method = some handler) :
    planned? resolver r = some ⟨r.rule.method, r.rule.pattern, handler⟩ := by
  simp [planned?, found]

/-- Rules that have handlers are registered one after another when they are mountable, and
otherwise up to one that has a fault. -/
theorem execute_spec (handled : ∀ r ∈ rs, resolver r.service r.method ≠ none)
    (report : MountReport) :
    (Mountable g s rs ∧ ∃ after report',
        execute g s report (rs.filterMap (planned? resolver)) = (after, .ok report') ∧
          Mounts g s resolver rs after) ∨
      ∃ after e, execute g s report (rs.filterMap (planned? resolver)) = (after, .error e) ∧
        Fault g s rs e := by
  induction rs generalizing s report with
  | nil =>
      exact Or.inl ⟨⟨nofun, nofun, fun _ => ⟨List.nodup_nil, nofun⟩⟩, s, report, rfl, rfl, by simp⟩
  | cons r rs ih =>
      obtain ⟨known, handled⟩ := List.forall_mem_cons.mp handled
      obtain ⟨handler, found⟩ := Option.ne_none_iff_exists'.mp known
      rw [List.filterMap_cons_some (planned?_eq_some found)]
      cases g.registers s r.rule.method r.rule.pattern handler [] with
      | unnamed empty eq =>
          exact Or.inr ⟨s, _, execute_cons_error eq, .unnamed List.mem_cons_self empty⟩
      | uncompiled named fails eq =>
          exact Or.inr ⟨s, _, execute_cons_error eq, .uncompiled List.mem_cons_self fails⟩
      | rejected named compiles held policy eq =>
          refine Or.inr ⟨_, _, execute_cons_error eq, .duplicate List.mem_cons_self policy ?_⟩
          intro fresh
          exact fresh.2 _ List.mem_cons_self held
      | ignored named compiles held policy eq =>
          have registry_eq : (s.refused (g.ruleKey r)).registry =
              (s.registry.claim (g.ruleKey r)).1 := by
            rw [Registry.claim_of_holds held]
            rfl
          rw [execute_cons_ok eq]
          rcases ih (s := s.refused (g.ruleKey r)) handled (report.add _) with
            ⟨mountable, after, report', done, mounts⟩ | ⟨after, e, stops, fault⟩
          · refine Or.inl ⟨?_, after, report', done, ?_, ?_⟩
            · exact (mountable_cons registry_eq rfl named compiles (by simp [policy])).mpr mountable
            · rw [mounts.registry_eq, registry_eq]
              rfl
            · rw [mounts.table_eq, Registry.admitted_cons_of_holds g.ruleKey held]
              rfl
          · exact Or.inr ⟨after, e, stops, fault.cons registry_eq rfl⟩
      | mounted named t compiled new eq =>
          have route_eq : g.route? resolver r =
              some ⟨r.rule.method, t, Middleware.compose handler g.stack []⟩ := by
            rw [Group.route?, found, Option.bind_some, compiled]
            rfl
          generalize Middleware.compose handler g.stack [] = layered at eq route_eq
          have key_eq : Route.key ⟨r.rule.method, t, layered⟩ = g.ruleKey r :=
            Route.key_of_compile? compiled
          have registry_eq : (s.mounted ⟨r.rule.method, t, layered⟩).registry =
              (s.registry.claim (g.ruleKey r)).1 := by
            rw [Site.registry_mounted, key_eq]
          have compiles : Template.Compiles (g.ruleKey r).pattern :=
            Option.isSome_iff_exists.mpr ⟨t, compiled⟩
          rw [execute_cons_ok eq]
          rcases ih (s := s.mounted ⟨r.rule.method, t, layered⟩) handled (report.add _) with
            ⟨mountable, after, report', done, mounts⟩ | ⟨after, e, stops, fault⟩
          · refine Or.inl ⟨?_, after, report', done, ?_, ?_⟩
            · exact (mountable_cons registry_eq rfl named compiles fun _ => new).mpr mountable
            · rw [mounts.registry_eq, registry_eq]
              rfl
            · rw [mounts.table_eq, registry_eq,
                Registry.admitted_cons_of_not_holds g.ruleKey new,
                List.filterMap_cons_some route_eq]
              simp [Table.insert]
          · exact Or.inr ⟨after, e, stops, fault.cons registry_eq rfl⟩

omit [PatternEngine] in
/-- In a checked tree every rule's method has a handler. -/
theorem Checked.handled_rules {bindings : List ServiceBinding}
    (handled : ∀ m ∈ methodsOf bindings, resolver m.1 m.2 ≠ none) :
    ∀ r ∈ rules bindings, resolver r.service r.method ≠ none := by
  intro r mem
  rw [← flatMap_methodRules] at mem
  obtain ⟨m, known, mem⟩ := List.mem_flatMap.mp mem
  obtain ⟨rule, _, rfl⟩ := List.mem_map.mp mem
  exact handled m known

end Mount

/-! ### Mounting -/

namespace Group

variable {g : Group H} {s : Site H}

open Mount

/-- A tree is mounted when every method has a handler and the rules are mountable; otherwise a
method has none or a rule has a fault, and the error says which. -/
theorem mount_spec (g : Group H) (s : Site H) (bindings : List ServiceBinding)
    (resolver : HandlerResolver H) :
    ((∀ m ∈ methodsOf bindings, resolver m.1 m.2 ≠ none) ∧ Mountable g s (rules bindings) ∧
        ∃ after report, g.mount s bindings resolver = (after, .ok report) ∧
          Mounts g s resolver (rules bindings) after) ∨
      ∃ after e, g.mount s bindings resolver = (after, .error e) ∧
        ((∃ m ∈ methodsOf bindings, resolver m.1 m.2 = none ∧ e = .missingHandler m.1 m.2.name) ∨
          Fault g s (rules bindings) e) := by
  rcases plan_spec g s resolver bindings with ⟨checked, planned⟩ | ⟨_, e, fault, stops⟩
  · rcases execute_spec (g := g) (s := s) (Checked.handled_rules checked.handled) .empty with
      ⟨mountable, after, report, done, mounts⟩ | ⟨after, e, stops, fault⟩
    · refine Or.inl ⟨checked.handled, mountable, after, report, ?_, mounts⟩
      rw [mount, planned]
      exact done
    · exact Or.inr ⟨after, e, by rw [mount, planned]; exact stops, Or.inr fault⟩
  · refine Or.inr ⟨_, e, by rw [mount, stops], ?_⟩
    rcases fault with missing | fault
    · exact Or.inl missing
    · rw [flatMap_methodRules] at fault
      exact Or.inr fault.fault

/-- Where methods have handlers and rules have methods and templates, nothing but a duplicate stops
a tree. -/
theorem mount_of_compiles (g : Group H) (s : Site H) {bindings : List ServiceBinding}
    {resolver : HandlerResolver H} (handled : ∀ m ∈ methodsOf bindings, resolver m.1 m.2 ≠ none)
    (named : ∀ r ∈ rules bindings, r.rule.method ≠ "")
    (compiles : ∀ r ∈ rules bindings, Template.Compiles (g.ruleKey r).pattern) :
    (Mountable g s (rules bindings) ∧
        ∃ after report, g.mount s bindings resolver = (after, .ok report) ∧
          Mounts g s resolver (rules bindings) after) ∨
      s.table.policy = .reject ∧ ¬ s.registry.Fresh ((rules bindings).map g.ruleKey) ∧
        ∃ after, ∃ r ∈ rules bindings,
          g.mount s bindings resolver = (after, .error (.duplicateRoute (g.ruleKey r))) := by
  rcases mount_spec g s bindings resolver with
    ⟨_, mounted⟩ | ⟨after, e, stops, ⟨m, mem, missing, _⟩ | fault⟩
  · exact Or.inl mounted
  · exact absurd missing (handled m mem)
  · cases fault with
    | unnamed mem empty => exact absurd empty (named _ mem)
    | uncompiled mem fails => exact absurd (compiles _ mem) fails
    | duplicate mem policy taken => exact Or.inr ⟨policy, taken, after, _, mem, stops⟩

/-- A tree that is mounted has handlers and mountable rules, and what was added is theirs. -/
theorem mounts_of_mount_ok {bindings : List ServiceBinding} {resolver : HandlerResolver H}
    {after : Site H} {report : MountReport}
    (done : g.mount s bindings resolver = (after, .ok report)) :
    (∀ m ∈ methodsOf bindings, resolver m.1 m.2 ≠ none) ∧ Mountable g s (rules bindings) ∧
      Mounts g s resolver (rules bindings) after := by
  rcases mount_spec g s bindings resolver with
    ⟨handled, mountable, after', report', done', mounts⟩ | ⟨_, _, fails, _⟩
  · obtain ⟨rfl, _⟩ := Prod.mk.inj (done.symm.trans done')
    exact ⟨handled, mountable, mounts⟩
  · rw [done] at fails
    simp at fails

/-- A tree with handlers and mountable rules is mounted. -/
theorem mount_ok_of_mountable {bindings : List ServiceBinding} {resolver : HandlerResolver H}
    (handled : ∀ m ∈ methodsOf bindings, resolver m.1 m.2 ≠ none)
    (mountable : Mountable g s (rules bindings)) :
    ∃ after report, g.mount s bindings resolver = (after, .ok report) := by
  rcases mount_spec g s bindings resolver with
    ⟨_, _, after, report, done, _⟩ | ⟨_, _, _, ⟨m, mem, missing, _⟩ | fault⟩
  · exact ⟨after, report, done⟩
  · exact absurd missing (handled m mem)
  · exact absurd mountable fault.not_mountable

/-- Whatever comes of it, mounting a tree is a series of registrations. -/
theorem grows_mount (isBase : Path.IsBase g.base) (bindings : List ServiceBinding)
    (resolver : HandlerResolver H) :
    ∃ routes, Site.Grows s routes (g.mount s bindings resolver).1 := by
  cases planned : plan g s bindings resolver with
  | error e =>
      rw [mount, planned]
      cases e with
      | duplicateRoute key => exact ⟨[], .refuse key (.done _)⟩
      | emptyMethod _ => exact ⟨[], .done _⟩
      | invalidPattern _ => exact ⟨[], .done _⟩
      | missingHandler _ _ => exact ⟨[], .done _⟩
  | ok ps =>
      rw [mount, planned]
      exact grows_execute isBase .empty ps

end Group

end RpcRoutes
