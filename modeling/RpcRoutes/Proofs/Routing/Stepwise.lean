import RpcRoutes.Program.Engine
import RpcRoutes.Proofs.Routing.Mounting

/-!
# Mounting rule by rule

A tree is mounted in one call, which plans all of its rules before it registers any. Where every
method has a handler the plan makes no difference to what comes out: it refuses nothing that
registering the rules one by one would not refuse as well.

* `Group.registerEach` registers rules one by one and lists the answers.
* `Mount.execute_ok_iff`: carrying out a plan succeeds when no answer is an error, and reports the
  answers.
* `Group.mount_iff_registerEach`: so does mounting a tree, and it leaves the same site.
-/

namespace RpcRoutes

variable {H : Type}

/-- Registers rules one after another, each under the handler of its method and without layers of
its own, and lists the answers. An error does not end it. A rule whose method has no handler is
passed over. -/
def Group.registerEach [PatternEngine] (g : Group H) (resolver : HandlerResolver H) :
    Site H → List OwnedRule → Site H × List (Except RouteError Registration)
  | s, [] => (s, [])
  | s, r :: rs =>
    match resolver r.service r.method with
    | none => registerEach g resolver s rs
    | some handler =>
      let (middle, answer) := g.register s r.rule.method r.rule.pattern handler []
      let (after, answers) := registerEach g resolver middle rs
      (after, answer :: answers)

/-- Answers of which none is an error are a list of values. -/
theorem exists_eq_map_ok {ε α : Type} {answers : List (Except ε α)}
    (unfailing : ∀ answer ∈ answers, ∃ a, answer = .ok a) :
    ∃ done : List α, answers = done.map .ok := by
  induction answers with
  | nil => exact ⟨[], rfl⟩
  | cons answer answers ih =>
      obtain ⟨⟨first, rfl⟩, later⟩ := List.forall_mem_cons.mp unfailing
      obtain ⟨done, rfl⟩ := ih later
      exact ⟨first :: done, rfl⟩

/-- A report lists the keys of the registrations in order, the mounted ones apart. -/
theorem MountReport.foldl_add (report : MountReport) (done : List Registration) :
    done.foldl add report =
      ⟨report.mounted ++ (done.filter (·.isMounted)).map Registration.key,
        report.ignored ++ (done.filter (!·.isMounted)).map Registration.key⟩ := by
  induction done generalizing report with
  | nil => simp
  | cons first done ih =>
      rw [List.foldl_cons, ih]
      cases first <;> simp [add, Registration.isMounted, Registration.key]

namespace Group

variable [PatternEngine] {g : Group H} {s after : Site H} {resolver : HandlerResolver H}
  {r : OwnedRule} {rs : List OwnedRule} {handler : H} {done : List Registration}

theorem registerEach_cons_of_none (missing : resolver r.service r.method = none) :
    g.registerEach resolver s (r :: rs) = g.registerEach resolver s rs := by
  rw [registerEach, missing]

theorem registerEach_cons_of_some (found : resolver r.service r.method = some handler)
    {middle : Site H} {answer : Except RouteError Registration}
    (eq : g.register s r.rule.method r.rule.pattern handler [] = (middle, answer)) :
    g.registerEach resolver s (r :: rs) =
      ((g.registerEach resolver middle rs).1, answer :: (g.registerEach resolver middle rs).2) := by
  rw [registerEach, found]
  simp only [eq]

/-- A registration that succeeds answers for the key of its pattern, keeps the policy, and mounts
the route where duplicates are errors. -/
theorem register_ok {middle : Site H} {method pattern : String} {own : List (Middleware H)}
    {first : Registration}
    (eq : g.register s method pattern handler own = (middle, .ok first)) :
    first.key = g.fullKey method pattern ∧ middle.table.policy = s.table.policy ∧
      (s.table.policy = .reject → first.isMounted = true) := by
  cases g.registers s method pattern handler own with
  | unnamed _ eq' | uncompiled _ _ eq' | rejected _ _ _ _ eq' =>
      rw [eq'] at eq
      cases eq
  | ignored _ _ _ policy eq' =>
      obtain ⟨rfl, same⟩ := Prod.mk.inj (eq'.symm.trans eq)
      obtain rfl := Except.ok.inj same
      exact ⟨rfl, rfl, by simp [policy]⟩
  | mounted _ t compiled _ eq' =>
      obtain ⟨rfl, same⟩ := Prod.mk.inj (eq'.symm.trans eq)
      obtain rfl := Except.ok.inj same
      exact ⟨rfl, rfl, fun _ => rfl⟩

/-- Where all rules have handlers and none is an error, each is answered for its own key, and all
are mounted where duplicates are errors. -/
theorem registerEach_ok (handled : ∀ r ∈ rs, resolver r.service r.method ≠ none)
    (eq : g.registerEach resolver s rs = (after, done.map .ok)) :
    done.map Registration.key = rs.map g.ruleKey ∧
      (s.table.policy = .reject → ∀ first ∈ done, first.isMounted = true) := by
  induction rs generalizing s done with
  | nil =>
      obtain ⟨_, none_done⟩ := Prod.mk.inj eq
      obtain rfl := List.map_eq_nil_iff.mp none_done.symm
      exact ⟨rfl, fun _ => List.forall_mem_nil _⟩
  | cons r rs ih =>
      obtain ⟨known, handled⟩ := List.forall_mem_cons.mp handled
      obtain ⟨handler, found⟩ := Option.ne_none_iff_exists'.mp known
      rcases result : g.register s r.rule.method r.rule.pattern handler [] with ⟨middle, answer⟩
      rw [registerEach_cons_of_some found result] at eq
      obtain ⟨rfl, answers⟩ := Prod.mk.inj eq
      obtain ⟨first, done, rfl, rfl, later⟩ := List.map_eq_cons_iff.mp answers.symm
      obtain ⟨keys, mounted⟩ := ih handled (Prod.ext rfl later.symm)
      obtain ⟨key_eq, policy_eq, mounts⟩ := register_ok result
      refine ⟨by rw [List.map_cons, List.map_cons, key_eq, keys], ?_⟩
      intro policy
      exact List.forall_mem_cons.mpr ⟨mounts policy, mounted (policy_eq.trans policy)⟩

end Group

namespace Mount

variable [PatternEngine] {g : Group H} {s after : Site H} {resolver : HandlerResolver H}
  {rs : List OwnedRule} {report report' : MountReport} {bindings : List ServiceBinding}

/-- Carrying out the plan of rules succeeds when no rule is answered with an error. -/
theorem execute_ok_iff :
    execute g s report (rs.filterMap (planned? resolver)) = (after, .ok report') ↔
      ∃ done : List Registration, g.registerEach resolver s rs = (after, done.map .ok) ∧
        report' = done.foldl MountReport.add report := by
  induction rs generalizing s report with
  | nil =>
      constructor
      · intro eq
        obtain ⟨rfl, same⟩ := Prod.mk.inj eq
        exact ⟨[], rfl, (Except.ok.inj same).symm⟩
      · rintro ⟨done, eq, rfl⟩
        obtain ⟨rfl, none_done⟩ := Prod.mk.inj eq
        obtain rfl := List.map_eq_nil_iff.mp none_done.symm
        rfl
  | cons r rs ih =>
      cases found : resolver r.service r.method with
      | none =>
          have unplanned : planned? resolver r = none := by simp [planned?, found]
          rw [List.filterMap_cons_none unplanned, Group.registerEach_cons_of_none found]
          exact ih
      | some handler =>
          rcases result : g.register s r.rule.method r.rule.pattern handler [] with
            ⟨middle, answer⟩
          rw [List.filterMap_cons_some (planned?_eq_some found),
            Group.registerEach_cons_of_some found result]
          cases answer with
          | error e =>
              rw [execute_cons_error result]
              apply iff_of_false
              · simp
              · rintro ⟨done, eq, _⟩
                cases done with
                | nil => simp at eq
                | cons first done => simp at eq
          | ok first =>
              rw [execute_cons_ok result, ih]
              constructor
              · rintro ⟨done, eq, rfl⟩
                exact ⟨first :: done, by rw [eq]; rfl, rfl⟩
              · rintro ⟨done, eq, rfl⟩
                obtain ⟨rfl, answers⟩ := Prod.mk.inj eq
                obtain ⟨_, done, rfl, same, later⟩ := List.map_eq_cons_iff.mp answers.symm
                obtain rfl := Except.ok.inj same
                exact ⟨done, Prod.ext rfl later.symm, rfl⟩

/-- Carrying out the plan of a checked tree is mounting it. -/
theorem Checked.mount_eq (checked : Checked g s bindings resolver) :
    g.mount s bindings resolver =
      execute g s .empty ((rules bindings).filterMap (planned? resolver)) := by
  rcases plan_spec g s resolver bindings with ⟨_, planned⟩ | ⟨unchecked, _⟩
  · rw [Group.mount, planned]
  · exact absurd checked unchecked

/-- A tree with handlers whose rules are mountable passes the checks of a plan. -/
theorem Mountable.checked (mountable : Mountable g s (rules bindings))
    (handled : ∀ m ∈ methodsOf bindings, resolver m.1 m.2 ≠ none) :
    Checked g s bindings resolver where
  handled := handled
  named := mountable.named
  distinct := by
    intro policy
    have distinct := (mountable.fresh policy).1
    exact List.Pairwise.of_map RouteKey.text (fun a b apart eq => apart (congrArg _ eq)) distinct
  unclaimed := by
    intro policy r mem
    exact (mountable.fresh policy).2 _ (List.mem_map_of_mem mem)

end Mount

namespace Group

open Mount

/-- Mounting a tree whose methods all have handlers succeeds exactly when registering its rules
one by one meets no error. It then leaves the same table, registry and counters, and its report
lists the keys that were mounted and those that were ignored one by one, in order. Each rule is
answered once and for its own key; where duplicates are errors, none is ignored. -/
theorem mount_iff_registerEach [PatternEngine] (g : Group H) (s : Site H)
    (bindings : List ServiceBinding) (resolver : HandlerResolver H)
    (handled : ∀ m ∈ methodsOf bindings, resolver m.1 m.2 ≠ none) :
    ((∃ after report, g.mount s bindings resolver = (after, .ok report)) ↔
      ∀ answer ∈ (g.registerEach resolver s (rules bindings)).2, ∃ done, answer = .ok done) ∧
    ∀ after report, g.mount s bindings resolver = (after, .ok report) →
      ∃ done : List Registration,
        g.registerEach resolver s (rules bindings) = (after, done.map .ok) ∧
        report.mounted = (done.filter (·.isMounted)).map Registration.key ∧
        report.ignored = (done.filter (!·.isMounted)).map Registration.key ∧
        done.map Registration.key = (rules bindings).map g.ruleKey ∧
        (report.mounted ++ report.ignored).Perm ((rules bindings).map g.ruleKey) ∧
        (s.table.policy = .reject → report.ignored = []) := by
  have handled_rules := Checked.handled_rules handled
  -- A tree that is mounted, or whose rules are all registered, passes the checks of the plan.
  have mount_ok_iff (after : Site H) (report : MountReport) :
      g.mount s bindings resolver = (after, .ok report) ↔
        ∃ done : List Registration,
          g.registerEach resolver s (rules bindings) = (after, done.map .ok) ∧
            report = done.foldl MountReport.add .empty := by
    rw [← execute_ok_iff]
    rcases execute_spec (g := g) (s := s) handled_rules .empty with
      ⟨mountable, _⟩ | ⟨stopped, e, stops, fault⟩
    · rw [(mountable.checked handled).mount_eq]
    · apply iff_of_false
      · rcases mount_spec g s bindings resolver with ⟨_, mountable, _⟩ | ⟨_, _, fails, _⟩
        · exact absurd mountable fault.not_mountable
        · simp [fails]
      · simp [stops]
  constructor
  · constructor
    · rintro ⟨after, report, mounts⟩ answer mem
      obtain ⟨done, each, _⟩ := (mount_ok_iff after report).mp mounts
      rw [each] at mem
      obtain ⟨first, _, rfl⟩ := List.mem_map.mp mem
      exact ⟨first, rfl⟩
    · intro unfailing
      obtain ⟨done, answers⟩ := exists_eq_map_ok unfailing
      exact ⟨_, _, (mount_ok_iff _ _).mpr ⟨done, Prod.ext rfl answers, rfl⟩⟩
  · intro after report mounts
    obtain ⟨done, each, rfl⟩ := (mount_ok_iff after report).mp mounts
    obtain ⟨keys, mounted⟩ := registerEach_ok handled_rules each
    rw [MountReport.foldl_add]
    refine ⟨done, each, List.nil_append _, List.nil_append _, keys, ?_, ?_⟩
    · rw [← keys, MountReport.empty, List.nil_append, List.nil_append, ← List.map_append]
      exact (List.filter_append_perm (·.isMounted) done).map Registration.key
    · intro policy
      have none_ignored : done.filter (!·.isMounted) = [] := by
        rw [List.filter_eq_nil_iff]
        intro first mem
        simp [mounted policy first mem]
      rw [none_ignored]
      rfl

/-- A pattern that is written twice is mounted and then ignored, in one call as one by one. -/
theorem mount_iff_registerEach_repeated :
    ∃ (after : Site Unit) (done : List Registration),
      (root "/v1").mount ⟨.empty, .empty .warn, .zero⟩
          [⟨"a.A", [⟨"Get", [⟨"GET", "/x", ""⟩, ⟨"GET", "x", ""⟩]⟩]⟩] (fun _ _ => some ()) =
        (after, .ok ⟨[⟨"GET", "/v1/x"⟩], [⟨"GET", "/v1/x"⟩]⟩) ∧
      (root "/v1").registerEach (fun _ _ => some ()) ⟨.empty, .empty .warn, .zero⟩
          (rules [⟨"a.A", [⟨"Get", [⟨"GET", "/x", ""⟩, ⟨"GET", "x", ""⟩]⟩]⟩]) =
        (after, done.map .ok) ∧
      done.map Registration.key = [⟨"GET", "/v1/x"⟩, ⟨"GET", "/v1/x"⟩] := by
  have mounts := mount_iff_registerEach (root "/v1") ⟨.empty, .empty .warn, .zero⟩
    [⟨"a.A", [⟨"Get", [⟨"GET", "/x", ""⟩, ⟨"GET", "x", ""⟩]⟩]⟩] (fun _ _ => some ()) (by simp)
  obtain ⟨done, each, _, _, keys, _⟩ := mounts.2 _ _ rfl
  exact ⟨_, done, rfl, each, keys⟩

end Group

end RpcRoutes
