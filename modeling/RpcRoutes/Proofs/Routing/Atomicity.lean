import RpcRoutes.Program.Engine
import RpcRoutes.Proofs.Routing.Mounting
import RpcRoutes.Proofs.Routing.Sessions

/-!
# Atomicity of mounting

A tree whose mounting fails should leave no trace. The plan refuses most faulty trees before
anything is registered, but it compares keys where a registry compares texts, and it reads no
pattern.

* `Mount.Torn` holds of the trees that slip through: the plan passes, a first route is mounted,
  and a later rule fails.
* `Group.untouched_iff_not_torn`: at one site a failure leaves no trace exactly when the tree is
  not torn.
* `Session.mount_untouched_iff` states it for every session that a run can reach.
-/

namespace RpcRoutes

variable {H : Type}

namespace Mount

/-- Carrying out the plan of these rules mounts a route: before the first pattern that does
not compile comes a rule with a new text. -/
def Begun [PatternEngine] (g : Group H) (s : Site H) (rs : List OwnedRule) : Prop :=
  ∃ r ∈ rs.takeWhile fun r => Template.Compiles (g.ruleKey r).pattern,
    ¬ s.registry.Holds (g.ruleKey r)

/-- A tree that is mounted in part: the plan passes all checks and a route is mounted, but a
pattern does not compile, or duplicates are errors and two keys have one text. -/
structure Torn [PatternEngine] (g : Group H) (s : Site H) (bindings : List ServiceBinding)
    (resolver : HandlerResolver H) : Prop where
  checked : Checked g s bindings resolver
  begun : Begun g s (rules bindings)
  flawed : (∃ r ∈ rules bindings, ¬ Template.Compiles (g.ruleKey r).pattern) ∨
    s.table.policy = .reject ∧ ¬ ((rules bindings).map fun r => (g.ruleKey r).text).Nodup

variable {g : Group H} {s : Site H} {resolver : HandlerResolver H} {r : OwnedRule}
  {rs : List OwnedRule} {bindings : List ServiceBinding}

theorem begun_cons [PatternEngine] : Begun g s (r :: rs) ↔ Template.Compiles (g.ruleKey r).pattern ∧
    (¬ s.registry.Holds (g.ruleKey r) ∨ Begun g s rs) := by
  by_cases compiles : Template.Compiles (g.ruleKey r).pattern
  · simp [Begun, compiles]
  · simp [Begun, compiles]

/-- Nothing but the counters changed. -/
def Untouched (s after : Site H) : Prop := after.registry = s.registry ∧ after.table = s.table

/-- A mounted route is never taken back. -/
theorem not_untouched_of_mounted {after : Site H} {route : Route H} {routes : List (Route H)}
    (grows : Site.Grows (s.mounted route) routes after) : ¬ Untouched s after := by
  rintro ⟨_, same⟩
  rw [grows.table_eq] at same
  simpa [Table.insert] using congrArg Table.routes same

/-- Rules that passed a plan leave a trace exactly when one of them is mounted. -/
theorem untouched_execute_iff [PatternEngine] (isBase : Path.IsBase g.base)
    (handled : ∀ r ∈ rs, resolver r.service r.method ≠ none)
    (named : ∀ r ∈ rs, r.rule.method ≠ "")
    (unclaimed : s.table.policy = .reject → ∀ r ∈ rs, ¬ s.registry.Holds (g.ruleKey r))
    (report : MountReport) :
    Untouched s (execute g s report (rs.filterMap (planned? resolver))).1 ↔ ¬ Begun g s rs := by
  induction rs generalizing s report with
  | nil => simp [Begun, Untouched, execute]
  | cons r rs ih =>
      obtain ⟨known, handled⟩ := List.forall_mem_cons.mp handled
      obtain ⟨handler, found⟩ := Option.ne_none_iff_exists'.mp known
      obtain ⟨_, named'⟩ := List.forall_mem_cons.mp named
      rw [List.filterMap_cons_some (planned?_eq_some found), begun_cons]
      cases g.registers s r.rule.method r.rule.pattern handler [] with
      | unnamed empty eq => exact absurd empty (named r List.mem_cons_self)
      | uncompiled _ fails eq =>
          rw [execute_cons_error eq]
          simp [Untouched, fails]
      | rejected _ _ held policy eq =>
          exact absurd held (unclaimed policy r List.mem_cons_self)
      | ignored _ compiles held policy eq =>
          have later : Untouched s _ ↔ ¬ Begun g s rs :=
            ih (s := s.refused (g.ruleKey r)) handled named' (by simp [policy])
              (report.add (.ignored (g.ruleKey r)))
          rw [execute_cons_ok eq, later]
          simp [compiles, held]
      | mounted _ t compiled new eq =>
          have compiles : Template.Compiles (g.ruleKey r).pattern :=
            Option.isSome_iff_exists.mpr ⟨t, compiled⟩
          obtain ⟨routes, grows⟩ := grows_execute isBase
            (s := s.mounted ⟨r.rule.method, t, Middleware.compose handler g.stack []⟩)
            (report.add (.mounted (g.ruleKey r))) (rs.filterMap (planned? resolver))
          rw [execute_cons_ok eq]
          exact iff_of_false (not_untouched_of_mounted grows)
            (not_not_intro ⟨compiles, Or.inl new⟩)

/-- A tree that the plan passes is mountable unless it is flawed. -/
theorem Checked.mountable_iff [PatternEngine] (checked : Checked g s bindings resolver) :
    Mountable g s (rules bindings) ↔
      ¬ ((∃ r ∈ rules bindings, ¬ Template.Compiles (g.ruleKey r).pattern) ∨
        s.table.policy = .reject ∧ ¬ ((rules bindings).map fun r => (g.ruleKey r).text).Nodup) := by
  constructor
  · rintro mountable (⟨r, mem, fails⟩ | ⟨policy, repeated⟩)
    · exact fails (mountable.compiles r mem)
    · have distinct := (mountable.fresh policy).1
      rw [List.map_map] at distinct
      exact repeated distinct
  · intro sound
    rw [not_or, not_and] at sound
    obtain ⟨compiles, distinct⟩ := sound
    refine ⟨checked.named, ?_, ?_⟩
    · intro r mem
      apply Decidable.not_not.mp
      intro fails
      exact compiles ⟨r, mem, fails⟩
    · intro policy
      constructor
      · rw [List.map_map]
        exact Decidable.not_not.mp (distinct policy)
      · exact List.forall_mem_map.mpr (checked.unclaimed policy)

end Mount

/-! ### Mounting at a site -/

namespace Group

open Mount

variable {g : Group H}

/-- Where a group has a proper base, a failure leaves no trace exactly when the tree is not
torn. -/
theorem untouched_iff_not_torn [PatternEngine] (isBase : Path.IsBase g.base) (s : Site H)
    (bindings : List ServiceBinding) (resolver : HandlerResolver H) :
    (∀ after e, g.mount s bindings resolver = (after, .error e) → Untouched s after) ↔
      ¬ Torn g s bindings resolver := by
  rcases plan_spec g s resolver bindings with ⟨checked, planned⟩ | ⟨unchecked, e, _, stops⟩
  · have mount_eq : g.mount s bindings resolver =
        execute g s .empty ((rules bindings).filterMap (planned? resolver)) := by
      rw [mount, planned]
    have trace := untouched_execute_iff (s := s) isBase (Checked.handled_rules checked.handled)
      checked.named checked.unclaimed .empty
    have outcome := execute_spec (g := g) (s := s) (Checked.handled_rules checked.handled) .empty
    rw [← mount_eq] at trace outcome
    rcases outcome with ⟨mountable, after, report, done, _⟩ | ⟨after, e, stops, fault⟩
    · apply iff_of_true
      · intro _ _ stops
        rw [done] at stops
        simp at stops
      · intro torn
        exact checked.mountable_iff.mp mountable torn.flawed
    · rw [stops] at trace ⊢
      have flawed := Decidable.not_not.mp (mt checked.mountable_iff.mpr fault.not_mountable)
      constructor
      · intro untouched torn
        exact trace.mp (untouched after e rfl) torn.begun
      · rintro whole _ _ ⟨⟩
        apply trace.mpr
        intro begun
        exact whole ⟨checked, begun, flawed⟩
  · apply iff_of_true
    · intro after e' refused
      rw [mount, stops] at refused
      obtain ⟨rfl, _⟩ := Prod.mk.inj refused
      cases e <;> exact ⟨rfl, rfl⟩
    · intro torn
      exact unchecked torn.checked

end Group

/-! ### Mounting in a session -/

namespace Session

open Mount

section Site

variable {s : Session H} {group number : Nat} {site after : Site H}

/-- Writing a site back leaves the tables and registries as they were exactly when nothing but
the counters changed. -/
theorem putSite_untouched_iff (found : s.site? number = some site) :
    ((s.putSite number after).tables = s.tables ∧
      (s.putSite number after).registries = s.registries) ↔ Untouched site after := by
  obtain ⟨slot, r, table, registry, rfl⟩ := site?_eq_some found
  simp only [putSite, table, set_eq_self_iff table, set_eq_self_iff registry, Untouched]
  constructor
  · rintro ⟨same, same'⟩
    exact ⟨same', congrArg TableSlot.table same⟩
  · rintro ⟨same, same'⟩
    exact ⟨by rw [same'], same⟩

end Site

/-- In every session that a run reaches, a mounting that fails leaves all tables and registries
as they were exactly when the tree is not torn at the group's site. -/
theorem mount_untouched_iff [PatternEngine] (actions : List (Action H)) (group : Nat)
    (bindings : List ServiceBinding) (resolver : HandlerResolver H) :
    (∀ after e, (run actions).step (.mount group bindings resolver) = (after, .mounted (.error e)) →
        after.tables = (run actions).tables ∧ after.registries = (run actions).registries) ↔
      ∀ slot site, (run actions).groups[group]? = some slot →
        (run actions).site? slot.table = some site → ¬ Torn slot.group site bindings resolver := by
  have bases := bases_run actions
  generalize run actions = s at bases ⊢
  cases known : s.groups[group]? with
  | none => simp [step, atGroup, known]
  | some slot =>
      cases found : s.site? slot.table with
      | none =>
          refine iff_of_true (by simp [step, atGroup, known, found]) ?_
          rintro _ site ⟨⟩ found'
          rw [found] at found'
          cases found'
      | some site =>
          have whole := Group.untouched_iff_not_torn (bases slot (List.mem_of_getElem? known)) site
            bindings resolver
          have step_eq : s.step (.mount group bindings resolver) =
              (s.putSite slot.table (slot.group.mount site bindings resolver).1,
                .mounted (slot.group.mount site bindings resolver).2) := by
            simp only [step, atGroup, known, found]
          rcases result : slot.group.mount site bindings resolver with ⟨after, outcome⟩
          rw [result] at step_eq whole
          rw [step_eq]
          constructor
          · rintro untouched _ _ ⟨⟩ found'
            obtain rfl := Option.some.inj (found.symm.trans found')
            refine whole.mp ?_
            rintro _ e ⟨⟩
            exact (putSite_untouched_iff found).mp (untouched _ e rfl)
          · rintro sound _ e ⟨⟩
            exact (putSite_untouched_iff found).mpr
              (whole.mpr (sound slot site rfl found) after e rfl)

/-- A method with a blank in it gives two keys of one text, which the plan takes for different
routes: the first is mounted, and then the second is refused. -/
theorem mount_torn_by_blank :
    ∃ before after : Session Unit,
      run [.openTable none .reject, .openRoot 0 ""] = before ∧
      before.step (.mount 0 [⟨"a.A", [⟨"Get", [⟨"A /b", "/c", ""⟩, ⟨"A", "/b /c", ""⟩]⟩]⟩]
          fun _ _ => some ()) =
        (after, .mounted (.error (.duplicateRoute ⟨"A", "/b /c"⟩))) ∧
      before.tables ≠ after.tables ∧ before.registries ≠ after.registries := by
  refine ⟨_, _, rfl, rfl, ?_, ?_⟩
  · intro same
    have keys := congrArg (List.map fun slot => slot.table.keys.length) same
    exact absurd keys (by decide)
  · intro same
    have sizes := congrArg (List.map Registry.size) same
    exact absurd sizes (by decide)

end Session

end RpcRoutes
