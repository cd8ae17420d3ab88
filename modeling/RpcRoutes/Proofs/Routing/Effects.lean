import RpcRoutes.Program.Engine
import RpcRoutes.Proofs.Routing.Accounts
import RpcRoutes.Proofs.Routing.History

/-!
# Effects of a registration

A registration changes what is mounted only when it mounts: then one table has one more route, and
one registry one more text, whichever other tables and groups share them. Otherwise everything
stays as it was, but that a duplicate is counted.

* `Session.anchored_run`: every group of a run registers in a table that is open, over a registry
  that is.
* `Session.Unmoved` and `Session.Gains` say what a registration leaves in the two cases, and
  `Group.Repeats` when it is a duplicate.
* `Session.register_run` settles every registration in every session that a run reaches.
-/

namespace RpcRoutes

variable {H : Type}

/-- The route has a method and a template, and its text is claimed. -/
def Group.Repeats [PatternEngine] (g : Group H) (r : Registry) (method pattern : String) : Prop :=
  method ≠ "" ∧ Template.Compiles (g.fullKey method pattern).pattern ∧
    r.Holds (g.fullKey method pattern)

instance [PatternEngine] (g : Group H) (r : Registry) (method pattern : String) :
    Decidable (g.Repeats r method pattern) :=
  inferInstanceAs (Decidable (_ ∧ _ ∧ _))

namespace Session

/-! ### Groups over open tables -/

section Anchored

variable {s : Session H} {event : Event H} {groups : List (GroupSlot H)}

/-- What holds of the tables of all groups, and of a table that a root is opened at, holds of the
tables of all groups afterwards. -/
theorem Regroups.forall_table {P : Nat → Prop} (regroups : s.Regroups event groups)
    (all : ∀ member ∈ s.groups, P member.table)
    (root : ∀ table base number, event = (.openRoot table base, .opened number) → P table) :
    ∀ member ∈ groups, P member.table := by
  have opened (slot : GroupSlot H) (holds : P slot.table) :
      ∀ member ∈ s.groups ++ [slot], P member.table :=
    List.forall_mem_append.mpr ⟨all, List.forall_mem_singleton.mpr holds⟩
  cases regroups with
  | root table base => exact opened _ (root table base _ rfl)
  | child found fragment middleware => exact opened _ (all _ (List.mem_of_getElem? found) :)
  | copy found => exact opened _ (all _ (List.mem_of_getElem? found))
  | install found middleware =>
      intro member mem
      rcases List.mem_or_eq_of_mem_set mem with old | rfl
      · exact all member old
      · exact (all _ (List.mem_of_getElem? found) :)
  | idle _ _ => exact all

/-- Every group registers in a table that is open. -/
def Anchored (s : Session H) : Prop :=
  ∀ member ∈ s.groups, ∃ slot, s.tables[member.table]? = some slot

theorem step_anchored [PatternEngine] (bases : s.Bases) (anchored : s.Anchored)
    (action : Action H) : (s.step action).1.Anchored := by
  have kept : ∀ table : Nat, (∃ slot, s.tables[table]? = some slot) →
      ∃ slot, (s.step action).1.tables[table]? = some slot := by
    rintro table ⟨slot, found⟩
    obtain ⟨slot', found', -⟩ := (step_moves s action).extends bases table slot found
    exact ⟨slot', found'⟩
  refine (step_regroups s action).forall_table
    (P := fun table => ∃ slot, (s.step action).1.tables[table]? = some slot)
    (fun member mem => kept _ (anchored member mem)) ?_
  intro table base number opened
  obtain ⟨rfl, answer⟩ := Prod.mk.inj opened
  by_cases known : table < s.tables.length
  · exact kept table ⟨_, List.getElem?_eq_getElem known⟩
  · rw [step, if_neg known] at answer
    cases answer

/-- Every group of a run registers in a table that is open, over a registry that is. -/
theorem anchored_run [PatternEngine] (actions : List (Action H)) {group : Nat}
    {member : GroupSlot H} (found : (run actions).groups[group]? = some member) :
    ∃ slot r, (run actions).tables[member.table]? = some slot ∧
      (run actions).registries[slot.registry]? = some r := by
  have anchored : (run actions).Anchored := by
    clear found
    induction actions using List.reverseRecOn with
    | nil => exact nofun
    | append_singleton actions action ih =>
        rw [run_concat]
        exact step_anchored (bases_run actions) ih action
  obtain ⟨slot, table⟩ := anchored member (List.mem_of_getElem? found)
  have known := (sound_runFrom sound_empty actions).known slot (List.mem_of_getElem? table)
  exact ⟨slot, _, table, List.getElem?_eq_getElem known⟩

end Anchored

/-! ### What a registration leaves -/

/-- Nothing has changed but the counter of duplicates. -/
structure Unmoved (s after : Session H) : Prop where
  tables_eq : after.tables = s.tables
  registries_eq : after.registries = s.registries
  groups_eq : after.groups = s.groups
  registered_eq : after.counters.registered = s.counters.registered

/-- A table has one more route at its end, its registry one more text, and nothing else has
changed but the counter of mounted routes. -/
structure Gains (s after : Session H) (number : Nat) (slot : TableSlot H) (r : Registry)
    (route : Route H) : Prop where
  table : after.tables[number]? =
    some { slot with table := { slot.table with routes := slot.table.routes ++ [route] } }
  registry : ∃ r', after.registries[slot.registry]? = some r' ∧ r'.size = r.size + 1 ∧
    ∀ text, text ∈ r'.texts ↔ text ∈ r.texts ∨ text = route.key.text
  tables : ∀ other, other ≠ number → after.tables[other]? = s.tables[other]?
  registries : ∀ other, other ≠ slot.registry → after.registries[other]? = s.registries[other]?
  groups_eq : after.groups = s.groups
  duplicate_eq : after.counters.duplicate = s.counters.duplicate
  registered_eq : after.counters.registered = s.counters.registered.add route.method

section Effects

variable {s : Session H} {number : Nat} {slot : TableSlot H} {r : Registry}

theorem gains_mounted {route : Route H} (table : s.tables[number]? = some slot)
    (registry : s.registries[slot.registry]? = some r) (new : ¬ r.Holds route.key) :
    s.Gains (s.putSite number (Site.mounted ⟨r, slot.table, s.counters⟩ route)) number slot r
      route := by
  have claimed := Registry.claim_of_not_holds new
  have bound := (List.getElem?_eq_some_iff.mp table).1
  have bound' := (List.getElem?_eq_some_iff.mp registry).1
  simp only [putSite, table]
  constructor
  case table => exact List.getElem?_set_self bound
  case registry =>
    refine ⟨_, List.getElem?_set_self bound', ?_, ?_⟩
    · rw [Site.registry_mounted, claimed]
      rfl
    · intro text
      rw [Site.registry_mounted, claimed, List.mem_cons, or_comm]
  case tables => exact fun other apart => List.getElem?_set_ne apart.symm
  case registries => exact fun other apart => List.getElem?_set_ne apart.symm
  case groups_eq => rfl
  case duplicate_eq => rfl
  case registered_eq => rfl

variable [PatternEngine]

/-- What a registration answers at a table over a registry, and what it leaves: nothing but a
counted duplicate when it is not mounted, and its own route and text when it is. -/
structure Effect (s after : Session H) (member : GroupSlot H) (slot : TableSlot H) (r : Registry)
    (method pattern : String) (handler : H) (own : List (Middleware H))
    (result : Except RouteError Registration) : Prop where
  unmounted : (∀ key, result ≠ .ok (.mounted key)) → s.Unmoved after ∧
    after.counters.duplicate =
      if member.group.Repeats r method pattern then s.counters.duplicate.add method
      else s.counters.duplicate
  repeated : member.group.Repeats r method pattern → result = match slot.table.policy with
    | .reject => .error (.duplicateRoute (member.group.fullKey method pattern))
    | .warn => .ok (.ignored (member.group.fullKey method pattern))
  mounted_iff : ∀ key, result = .ok (.mounted key) ↔ key = member.group.fullKey method pattern ∧
    method ≠ "" ∧ Template.Compiles key.pattern ∧ ¬ r.Holds key
  mounted : ∀ key, result = .ok (.mounted key) →
    ∃ t, Template.compile? key.pattern = some t ∧
      s.Gains after member.table slot r
        ⟨method, t, Middleware.compose handler member.group.stack own⟩

variable {member : GroupSlot H} {method pattern : String} {handler : H}
  {own : List (Middleware H)} {result : Except RouteError Registration}

/-- An error about the method or the pattern is no duplicate and leaves everything. -/
theorem effect_unfit {error : RouteError}
    (unfit : ¬ (method ≠ "" ∧ Template.Compiles (member.group.fullKey method pattern).pattern)) :
    s.Effect s member slot r method pattern handler own (.error error) where
  unmounted _ := ⟨⟨rfl, rfl, rfl, rfl⟩, (if_neg fun repeats => unfit ⟨repeats.1, repeats.2.1⟩).symm⟩
  repeated repeats := absurd ⟨repeats.1, repeats.2.1⟩ unfit
  mounted_iff key := by
    refine iff_of_false nofun ?_
    rintro ⟨rfl, named, compiles, -⟩
    exact unfit ⟨named, compiles⟩
  mounted := nofun

/-- A duplicate is counted and answered as the policy says. -/
theorem effect_repeated (repeats : member.group.Repeats r method pattern)
    (answer : result = match slot.table.policy with
      | .reject => .error (.duplicateRoute (member.group.fullKey method pattern))
      | .warn => .ok (.ignored (member.group.fullKey method pattern))) :
    s.Effect { s with counters := s.counters.addDuplicate method } member slot r method pattern
      handler own result := by
  have unmounted : ∀ key, result ≠ .ok (.mounted key) := by
    rintro key rfl
    cases policy : slot.table.policy <;> simp [policy] at answer
  constructor
  case unmounted => exact fun _ => ⟨⟨rfl, rfl, rfl, rfl⟩, (if_pos repeats).symm⟩
  case repeated => exact fun _ => answer
  case mounted_iff =>
    refine fun key => iff_of_false (unmounted key) ?_
    rintro ⟨rfl, -, -, new⟩
    exact new repeats.2.2
  case mounted => exact fun key mounted => absurd mounted (unmounted key)

/-- A new route is mounted. -/
theorem effect_mounted (table : s.tables[member.table]? = some slot)
    (registry : s.registries[slot.registry]? = some r) (named : method ≠ "") {t : Template}
    (compiled : Template.compile? (member.group.fullKey method pattern).pattern = some t)
    (new : ¬ r.Holds (member.group.fullKey method pattern)) :
    s.Effect (s.putSite member.table (Site.mounted ⟨r, slot.table, s.counters⟩
        ⟨method, t, Middleware.compose handler member.group.stack own⟩)) member slot r method
      pattern handler own (.ok (.mounted (member.group.fullKey method pattern))) where
  unmounted other := absurd rfl (other _)
  repeated repeats := absurd repeats.2.2 new
  mounted_iff key := by
    constructor
    · intro same
      obtain rfl := Registration.mounted.inj (Except.ok.inj same)
      exact ⟨rfl, named, Option.isSome_iff_exists.mpr ⟨t, compiled⟩, new⟩
    · rintro ⟨rfl, -⟩
      rfl
  mounted key same := by
    obtain rfl := Registration.mounted.inj (Except.ok.inj same)
    refine ⟨t, compiled, gains_mounted table registry ?_⟩
    have key_eq : Route.key ⟨method, t, Middleware.compose handler member.group.stack own⟩ =
        member.group.fullKey method pattern := Route.key_of_compile? compiled
    rwa [key_eq]

end Effects

/-- A registration at any group of a run is answered from what its table and registry hold. When it
is not mounted nothing changes, but that a duplicate is counted for its method: one with a method, a
template and a text that is claimed, which is refused or ignored with its full key, as the policy of
the table says. When it is mounted, which is when it has a method and a template and its text is
new, the group's table gains the route and its registry the text, and no other table, registry or
group changes. -/
theorem register_run [PatternEngine] (actions : List (Action H)) {group : Nat}
    {member : GroupSlot H}
    (found : (run actions).groups[group]? = some member) (method pattern : String) (handler : H)
    (own : List (Middleware H)) :
    ∃ slot r after result, (run actions).tables[member.table]? = some slot ∧
      (run actions).registries[slot.registry]? = some r ∧
      (run actions).step (.register group method pattern handler own) =
        (after, .registered result) ∧
      (run actions).Effect after member slot r method pattern handler own result := by
  obtain ⟨slot, r, table, registry⟩ := anchored_run actions found
  generalize run actions = s at found table registry ⊢
  refine ⟨slot, r, _, _, table, registry, step_register_eq found table registry .., ?_⟩
  cases member.group.registers ⟨r, slot.table, s.counters⟩ method pattern handler own with
  | unnamed empty eq =>
      rw [eq, putSite_counters table registry]
      exact effect_unfit fun fit => fit.1 empty
  | uncompiled _ fails eq =>
      rw [eq, putSite_counters table registry]
      exact effect_unfit fun fit => fails fit.2
  | rejected named compiles held policy eq =>
      rw [eq, Site.refused, putSite_counters table registry]
      exact effect_repeated ⟨named, compiles, held⟩ (by rw [policy]; rfl)
  | ignored named compiles held policy eq =>
      rw [eq, Site.refused, putSite_counters table registry]
      exact effect_repeated ⟨named, compiles, held⟩ (by rw [policy]; rfl)
  | mounted named t compiled new eq =>
      rw [eq]
      exact effect_mounted table registry named compiled new

/-- Two tables claim in one registry: what the first has mounted, the second ignores, and a counted
duplicate is all that this leaves. -/
theorem register_run_shared :
    ∃ after : Session String,
      (run [.openRegistry, .openTable (some 0) .reject, .openTable (some 0) .warn,
          .openRoot 0 "/x", .openRoot 1 "", .register 0 "GET" "/a" "first" []]).step
            (.register 1 "GET" "x/a" "second" []) =
        (after, .registered (.ok (.ignored ⟨"GET", "/x/a"⟩))) ∧
      after.tables.map (fun slot => slot.table.keys) = [[⟨"GET", "/x/a"⟩], []] ∧
      after.registries = [⟨["GET /x/a"]⟩] ∧ after.counters.registered.count "GET" = 1 ∧
      after.counters.duplicate.count "GET" = 1 := by
  obtain ⟨slot, r, after, result, table, registry, answer, effect⟩ := @register_run String _
    [.openRegistry, .openTable (some 0) .reject, .openTable (some 0) .warn, .openRoot 0 "/x",
      .openRoot 1 "", .register 0 "GET" "/a" "first" []] 1 _ rfl "GET" "x/a" "second" []
  obtain rfl := Option.some.inj table
  obtain rfl := Option.some.inj registry
  have repeats : Group.Repeats (Group.root (H := String) "") ⟨["GET /x/a"]⟩ "GET" "x/a" := by
    decide
  obtain rfl := effect.repeated repeats
  obtain ⟨unmoved, counted⟩ := effect.unmounted nofun
  refine ⟨after, answer, ?_, unmoved.registries_eq, ?_, ?_⟩
  · rw [unmoved.tables_eq]
    rfl
  · rw [unmoved.registered_eq]
    rfl
  · rw [counted.trans (if_pos repeats)]
    rfl

end Session

end RpcRoutes
