import RpcRoutes.Proofs.Path.Parameters
import RpcRoutes.Proofs.Routing.Provenance
import RpcRoutes.Proofs.Routing.Resolution

/-!
# Prefixes of groups

A group stands inside the prefixes that it and its parents were opened with. What is registered in
it has the placeholders of all of them before its own.

* `Session.nestings` tells the prefixes of all groups from what was done in a run.
* `Session.bases_eq`: the base of a group is its prefixes nested in each other.
* `Session.Adds.names_of_resolved`: a request that resolves to a route gets the parameters of the
  prefixes of the route's group and then those of the rule that was registered.
-/

namespace RpcRoutes

variable {H : Type}

namespace Session

/-! ### Prefixes told from events -/

/-- The prefixes of the group that an event opens, outermost first, when those of the groups before
it are known. -/
def nesting? (known : List (List String)) : Event H → Option (List String)
  | (.openRoot _ base, .opened _) => some [base]
  | (.openChild parent fragment _, .opened _) => known[parent]?.map (· ++ [fragment])
  | (.copyGroup original, .opened _) => known[original]?
  | _ => none

/-- The prefixes of all groups that events open, by the groups' numbers. -/
def nestings (events : List (Event H)) : List (List String) :=
  events.foldl (fun known event => known ++ (nesting? known event).toList) []

/-- The bases of groups are these prefixes nested in each other. -/
def Nested (groups : List (GroupSlot H)) (known : List (List String)) : Prop :=
  groups.map (fun slot => slot.group.base) = known.map (List.foldl Path.nest "")

section Step

variable {s : Session H} {event : Event H} {groups : List (GroupSlot H)}
  {known : List (List String)} {number : Nat} {slot : GroupSlot H}

theorem Nested.getElem? (nested : Nested groups known) (found : groups[number]? = some slot) :
    ∃ prefixes, known[number]? = some prefixes ∧
      slot.group.base = prefixes.foldl Path.nest "" := by
  have here := congrArg (·[number]?) nested
  simp only [List.getElem?_map, found, Option.map_some] at here
  obtain ⟨prefixes, there, eq⟩ := Option.map_eq_some_iff.mp here.symm
  exact ⟨prefixes, there, eq.symm⟩

theorem Nested.open (nested : Nested groups known) {prefixes : List String}
    (base_eq : slot.group.base = prefixes.foldl Path.nest "") :
    Nested (groups ++ [slot]) (known ++ [prefixes]) := by
  rw [Nested, List.map_append, List.map_append, nested, List.map_singleton, List.map_singleton,
    base_eq]

/-- An event that is idle whatever came before it opens no group. -/
theorem nesting?_of_idle (unopened : ∀ past group stack, ¬ Opens past event group stack) :
    nesting? known event = none := by
  have open_root (number : Nat) :
      HasStack ([] ++ ((.openRoot 0 "", .opened number) : Event H) :: []) number
        ([] ++ installedIn number []) := .intro .root
  unfold nesting?
  split
  · exact absurd .root (unopened [] _ _)
  · exact absurd (.child (open_root _)) (unopened _ _ _)
  · exact absurd (.copy (open_root _)) (unopened _ _ _)
  · rfl

/-- What an action does to the groups keeps their bases nested as it is told. -/
theorem Regroups.nested (regroups : s.Regroups event groups) (nested : Nested s.groups known) :
    Nested groups (known ++ (nesting? known event).toList) := by
  cases regroups with
  | root table base => exact nested.open rfl
  | child found fragment middleware =>
      obtain ⟨prefixes, told, base_eq⟩ := nested.getElem? found
      rw [nesting?, told]
      refine nested.open ?_
      rw [List.foldl_append, ← base_eq]
      rfl
  | copy found =>
      obtain ⟨prefixes, told, base_eq⟩ := nested.getElem? found
      rw [nesting?, told]
      exact nested.open base_eq
  | @install target slot found middleware =>
      have same : (s.groups.map fun slot => slot.group.base).set target slot.group.base =
          s.groups.map fun slot => slot.group.base :=
        (set_eq_self_iff (by rw [List.getElem?_map, found]; rfl)).mpr rfl
      have untold : nesting? known ((.install target middleware, .installed) : Event H) = none :=
        rfl
      rw [untold, Option.toList_none, List.append_nil, Nested, ← nested, ← same, List.map_set]
      rfl
  | idle unopened _ =>
      rw [nesting?_of_idle unopened, Option.toList_none, List.append_nil]
      exact nested

end Step

/-- The groups of a run have their prefixes, nested in each other, as bases. -/
theorem bases_eq [PatternEngine] (actions : List (Action H)) :
    Nested (run actions).groups (nestings (events actions)) := by
  induction actions using List.reverseRecOn with
  | nil => rfl
  | append_singleton actions action ih =>
      rw [events, eventsFrom_append, nestings, List.foldl_append, run_concat]
      exact (step_regroups (run actions) action).nested ih

end Session

/-! ### Parameters of routes -/

/-- The rules that an action is about: the one that it registers, or those of its tree. -/
def Action.rules : Action H → List Rule
  | .register _ method pattern _ _ => [⟨method, pattern, ""⟩]
  | .mount _ bindings _ => (Mount.rules bindings).map (·.rule)
  | _ => []

theorem Action.Gives.exists_rule {action : Action H} {g : Group H} {group : Nat} {key : RouteKey}
    {handler : H} {own : List (Middleware H)} (gives : action.Gives g group key handler own) :
    ∃ rule ∈ action.rules, key = g.fullKey rule.method rule.pattern := by
  cases gives with
  | register => exact ⟨_, List.mem_singleton_self _, rfl⟩
  | @mount _ _ _ _ _ r _ split _ _ =>
      refine ⟨r.rule, List.mem_map_of_mem ?_, rfl⟩
      rw [split]
      exact List.mem_append_right _ List.mem_cons_self

/-- A request that resolves to a route gets what the route's template captures. -/
theorem Table.params?_of_resolveAll {tables : List (Table H)} {method path : String}
    {route : Route H} {params : PathParams}
    (resolved : resolveAll tables method path = .matched ⟨route, params⟩) :
    route.template.params? path = some params := by
  rw [resolveAll_eq, Resolution.ofRoutes] at resolved
  cases search : (tables.flatMap Table.routes).findSome? (Route.match? method path) with
  | none =>
      rw [search] at resolved
      generalize (Route.fitting path _).foldl Resolution.addMethod [] = allowed at resolved
      cases allowed <;> cases resolved
  | some found =>
      rw [search] at resolved
      obtain rfl := Resolution.matched.inj resolved
      obtain ⟨other, _, matched⟩ := List.exists_of_findSome?_eq_some search
      obtain ⟨_, answers, same⟩ := Option.map_eq_some_iff.mp matched
      obtain ⟨rfl, rfl⟩ := RouteMatch.mk.inj same
      rw [Route.params?_key] at answers
      split at answers
      · exact answers
      · cases answers

/-- A request that resolves to a route gets a parameter for each placeholder of the prefixes that
the route's group stands in, and then for each one of the rule that was registered there. -/
theorem Session.Adds.names_of_resolved [PatternEngine] {before : List (Action H)}
    {action : Action H} {table index : Nat} {route : Route H}
    (adds : Adds before action table index route) :
    ∃ (group : Nat) (slot : GroupSlot H) (prefixes : List String), ∃ rule ∈ action.rules,
      (run before).groups[group]? = some slot ∧ slot.table = table ∧
      (∃ handler own, action.Gives slot.group group route.key handler own) ∧
      (nestings (events before))[group]? = some prefixes ∧
      route.key = slot.group.fullKey rule.method rule.pattern ∧
      ∀ (tables : List (Table H)) (method path : String) (params : PathParams),
        Table.resolveAll tables method path = .matched ⟨route, params⟩ →
          params.entries.map Prod.fst =
            prefixes.flatMap Path.placeholders ++ rule.pathParams := by
  obtain ⟨group, slot, known, table_eq, handler, own, gives, _⟩ := adds.makes
  obtain ⟨rule, mem, key_eq⟩ := gives.exists_rule
  obtain ⟨prefixes, told, base_eq⟩ := (bases_eq before).getElem? known
  refine ⟨group, slot, prefixes, rule, mem, known, table_eq, ⟨handler, own, gives⟩, told, key_eq,
    ?_⟩
  intro tables method path params resolved
  have pattern_eq : route.template.pattern = Path.join slot.group.base rule.pattern :=
    congrArg RouteKey.pattern key_eq
  have none_outside : Path.placeholders "" = [] := Path.placeholders_eq_nil (by simp)
  rw [Template.names_of_params? (Table.params?_of_resolveAll resolved), pattern_eq,
    Path.placeholders_join, base_eq, Path.placeholders_foldl_nest, none_outside, List.nil_append,
    Rule.pathParams_eq]

end RpcRoutes
