import RpcRoutes.Config.Validate
import RpcRoutes.Program.Engine
import RpcRoutes.Proofs.Routing.Nesting
import RpcRoutes.Proofs.Startup.Building

/-!
# Advertised parameters

A manifest advertises the parameters of the rule as it was written; a request is given those that
the full pattern captures. Where the base has no placeholders of its own, they are the same.

* `Manifest.placeholders_entry`: under a base without braces an entry advertises the placeholders
  of its full pattern.
* `advertised_eq_captured`: joined paths have the parameters of both sides, routes those of their
  prefixes and of their rule, and the entries of a manifest those that a match of their pattern
  captures.
-/

namespace RpcRoutes

variable {H : Type}

/-- Nothing is wrong with the base. -/
def Config.AcceptsBase (c : Config) : Prop := ∀ f ∈ c.faults, f.field ≠ "routing.root_prefix"

instance (c : Config) : Decidable c.AcceptsBase := inferInstanceAs (Decidable (∀ f ∈ _, _))

/-- A base is accepted when it is empty or rooted, and has no braces. -/
theorem Config.acceptsBase_iff {c : Config} : c.AcceptsBase ↔
    (c.routing.base = "" ∨ Path.IsRooted c.routing.base) ∧
      '{' ∉ c.routing.base.toList ∧ '}' ∉ c.routing.base.toList := by
  constructor
  · intro accepts
    refine ⟨?_, ?_⟩
    · by_contra wrong
      have relative : c.routing.base ≠ "" ∧ c.routing.base.toList.head? ≠ some '/' :=
        not_or.mp wrong
      refine accepts (.relativeBase c.routing.base) ?_ rfl
      simp [faults, relative]
    · by_contra wrong
      refine accepts .baseWithBraces ?_ rfl
      have braced : '{' ∈ c.routing.base.toList ∨ '}' ∈ c.routing.base.toList := by tauto
      simp [faults, braced]
  · rintro ⟨rooted, left, right⟩ f mem
    have absolute : ¬ (c.routing.base ≠ "" ∧ c.routing.base.toList.head? ≠ some '/') := by
      rw [← not_or, Classical.not_not]
      exact rooted
    have plain : ¬ ('{' ∈ c.routing.base.toList ∨ '}' ∈ c.routing.base.toList) :=
      not_or.mpr ⟨left, right⟩
    rw [faults] at mem
    simp only [if_neg absolute, if_neg plain, List.nil_append, List.mem_append] at mem
    rcases mem with level | address
    · split at level
      · cases level
      · obtain rfl := List.mem_singleton.mp level
        show "observability.log_level" ≠ "routing.root_prefix"
        decide
    · split at address
      · cases address
      · obtain rfl := List.mem_singleton.mp address
        show "server.bind_address" ≠ "routing.root_prefix"
        decide

theorem Config.AcceptsBase.unbraced {c : Config} (accepts : c.AcceptsBase) :
    '{' ∉ c.routing.base.toList :=
  (acceptsBase_iff.mp accepts).2.1

namespace Manifest

/-- Under a base without braces, an entry advertises the placeholders of its full pattern. -/
theorem placeholders_entry {base : String} (unbraced : '{' ∉ base.toList) (r : OwnedRule) :
    Path.placeholders (entry base r).pattern = (entry base r).pathParams := by
  have pattern_eq : (entry base r).pattern = Path.join base r.rule.pattern := rfl
  rw [pattern_eq, Path.placeholders_join, Path.placeholders_eq_nil unbraced]
  exact r.rule.pathParams_eq.symm

/-- A list of entries consists of entries of its rules. -/
theorem exists_rule_of_list {base : String} {policy : DuplicatePolicy} {s after : State}
    {bindings : List ServiceBinding} {entries : List ManifestEntry}
    (listed : list base policy s bindings = (after, .ok entries)) :
    ∀ e ∈ entries, ∃ r ∈ Mount.rules bindings, e = entry base r := by
  intro e mem
  rcases listRules_spec base policy s (bindings.flatMap ServiceBinding.rules) with
    ⟨_, _, lists⟩ | ⟨_, _, _, _, stops⟩
  · obtain ⟨_, same⟩ := Prod.mk.inj (listed.symm.trans lists)
    obtain rfl := Except.ok.inj same
    obtain ⟨r, admitted, rfl⟩ := List.mem_map.mp mem
    exact ⟨r, Registry.admitted_sublist.subset admitted, rfl⟩
  · cases (Prod.mk.inj (listed.symm.trans stops)).2

end Manifest

theorem exists_rule_of_buildManifest {config : RoutingConfig} {files : List FileDescriptor}
    {entries : List ManifestEntry} (listed : (buildManifest config files).2 = .ok entries) :
    ∀ e ∈ entries, ∃ r, e = Manifest.entry config.base r := by
  intro e mem
  obtain ⟨_, _, rfl⟩ := buildManifest_ok_iff.mp listed
  obtain ⟨r, _, rfl⟩ := List.mem_map.mp mem
  exact ⟨r, rfl⟩

/-- An entry advertises what requests that match its pattern capture: the same names in the same
order. -/
def ManifestEntry.Honest [PatternEngine] (e : ManifestEntry) : Prop :=
  ∀ (t : Template) (path : String) (params : PathParams), Template.compile? e.pattern = some t →
    t.params? path = some params → params.entries.map Prod.fst = e.pathParams

theorem Manifest.honest_entry [PatternEngine] {base : String}
    (unbraced : '{' ∉ base.toList) (r : OwnedRule) :
    (entry base r).Honest := by
  intro t path params compiled found
  rw [Template.names_of_params? found, Template.pattern_of_compile? compiled,
    placeholders_entry unbraced]

/-- Joining two texts joins their placeholders. So a request that resolves to a route of a run
gets a parameter for each placeholder of the prefixes of the group in which the route was
registered, from the outermost, and then for each one of its rule. Where the base is accepted, the
entries of a list or of a whole manifest advertise just the parameters that a match captures. -/
theorem advertised_eq_captured [PatternEngine] :
    (∀ base fragment : String, Path.placeholders (Path.join base fragment) =
      Path.placeholders base ++ Path.placeholders fragment) ∧
    (∀ (actions : List (Action H)) (table index : Nat) (route : Route H),
      ((Session.run actions).routesAt table)[index]? = some route →
        ∃ before action later, actions = before ++ action :: later ∧
          Session.Adds before action table index route) ∧
    (∀ (before : List (Action H)) (action : Action H) (table index : Nat) (route : Route H),
      Session.Adds before action table index route →
        ∃ (group : Nat) (slot : GroupSlot H) (prefixes : List String), ∃ rule ∈ action.rules,
          (Session.run before).groups[group]? = some slot ∧ slot.table = table ∧
          (∃ handler own, action.Gives slot.group group route.key handler own) ∧
          (Session.nestings (Session.events before))[group]? = some prefixes ∧
          route.key = slot.group.fullKey rule.method rule.pattern ∧
          ∀ (tables : List (Table H)) (method path : String) (params : PathParams),
            Table.resolveAll tables method path = .matched ⟨route, params⟩ →
              params.entries.map Prod.fst =
                prefixes.flatMap Path.placeholders ++ rule.pathParams) ∧
    ∀ c : Config, c.AcceptsBase →
      (∀ (policy : DuplicatePolicy) (s after : Manifest.State) (bindings : List ServiceBinding)
        (entries : List ManifestEntry),
        Manifest.list c.routing.base policy s bindings = (after, .ok entries) →
          ∀ e ∈ entries, e.Honest) ∧
      ∀ (files : List FileDescriptor) (entries : List ManifestEntry),
        (buildManifest c.routing files).2 = .ok entries → ∀ e ∈ entries, e.Honest := by
  refine ⟨Path.placeholders_join, fun _ _ _ _ => Session.routesAt_run_iff.mp,
    fun _ _ _ _ _ => Session.Adds.names_of_resolved, ?_⟩
  intro c accepts
  constructor
  · intro policy s after bindings entries listed e mem
    obtain ⟨r, _, rfl⟩ := Manifest.exists_rule_of_list listed e mem
    exact Manifest.honest_entry accepts.unbraced r
  · intro files entries listed e mem
    obtain ⟨r, rfl⟩ := exists_rule_of_buildManifest listed e mem
    exact Manifest.honest_entry accepts.unbraced r

/-- Two prefixes and a rule with placeholders. Of two braces the outer one opens none. -/
theorem advertised_eq_captured_nested :
    ∃ route : Route String,
      Session.Adds [.openTable none .reject, .openRoot 0 "/t/{tenant}/", .openChild 0 "{zone}" []]
        (.register 1 "GET" "//items/{id}/\x7b{x}" "h" []) 0 0 route ∧
      (route.template.params? "/t/acme/eu/items/7/\x7bx").isSome ∧
      ∀ (tables : List (Table String)) (method path : String) (params : PathParams),
        Table.resolveAll tables method path = .matched ⟨route, params⟩ →
          params.entries.map Prod.fst = ["tenant", "zone", "id", "x"] := by
  obtain ⟨route, adds, fits⟩ : ∃ route, Session.Adds
      [.openTable none .reject, .openRoot 0 "/t/{tenant}/", .openChild 0 "{zone}" []]
      (.register 1 "GET" "//items/{id}/\x7b{x}" "h" []) 0 0 route ∧
        (route.template.params? "/t/acme/eu/items/7/\x7bx").isSome :=
    ⟨_, ⟨Nat.le_refl 0, rfl⟩, rfl⟩
  obtain ⟨_, _, prefixes, rule, mem, _, _, ⟨_, _, gives⟩, told, -, names⟩ :=
    (advertised_eq_captured (H := String)).2.2.1 _ _ _ _ _ adds
  generalize route.key = key at gives
  cases gives
  obtain rfl := List.mem_singleton.mp mem
  obtain rfl := Option.some.inj told
  exact ⟨route, adds, fits, fun _ _ _ _ resolved => (names _ _ _ _ resolved).trans (by decide)⟩
end RpcRoutes
