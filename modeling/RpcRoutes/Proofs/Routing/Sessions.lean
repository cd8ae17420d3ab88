import RpcRoutes.Proofs.Routing.Mounting
import RpcRoutes.Routing.Session

/-!
# Runs of sessions

What one action can do to a session, and what every run keeps.

* `Session.Moves` lists the changes of a session, with the registry in which a direct claim
  succeeded, if one did. `Session.step_moves` says that every action makes such a change.
* `Session.bases_run`: every group has a base that is empty or starts with a slash.
* `Session.Extends`: tables stay, and keep their routes in place. Every run extends the session
  that it starts from (`Session.extends_runFrom`).
-/

namespace RpcRoutes

variable {H : Type}

/-- The registry in which an action with this outcome claimed a new text directly. -/
def Action.claimedIn : Action H → Outcome → Option Nat
  | .claim registry _, .claimed true => some registry
  | _, _ => none

namespace Session

/-- Every group has a proper base. -/
def Bases (s : Session H) : Prop := ∀ slot ∈ s.groups, Path.IsBase slot.group.base

/-- The changes of a session. The option names the registry in which a direct claim succeeded. -/
inductive Moves (s : Session H) : Option Nat → Session H → Prop where
  | stay : Moves s none s
  | openRegistry : Moves s none { s with registries := s.registries ++ [.empty] }
  | openTable (registry : Nat) (policy : DuplicatePolicy) (known : registry < s.registries.length) :
      Moves s none { s with tables := s.tables ++ [⟨registry, .empty policy⟩] }
  | openOwnTable (policy : DuplicatePolicy) :
      Moves s none { s with
        registries := s.registries ++ [.empty]
        tables := s.tables ++ [⟨s.registries.length, .empty policy⟩] }
  | claim {number : Nat} {r : Registry} {key : RouteKey} (found : s.registries[number]? = some r)
      (new : ¬ r.Holds key) :
      Moves s (some number)
        { s with registries := s.registries.set number (r.claim key).1 }
  | regroup (groups : List (GroupSlot H))
      (bases : s.Bases → ∀ slot ∈ groups, Path.IsBase slot.group.base) :
      Moves s none { s with groups := groups }
  | grow {number : Nat} {slot : TableSlot H} {r : Registry} {after : Site H}
      {routes : List (Route H)}
      (table : s.tables[number]? = some slot) (registry : s.registries[slot.registry]? = some r)
      (grows : s.Bases → Site.Grows ⟨r, slot.table, s.counters⟩ routes after) :
      Moves s none { s with
        registries := s.registries.set slot.registry after.registry
        tables := s.tables.set number { slot with table := after.table }
        counters := after.counters }

section Step

variable {s : Session H}

theorem set_eq_self_iff {α : Type} {l : List α} {i : Nat} {a b : α} (found : l[i]? = some a) :
    l.set i b = l ↔ b = a := by
  obtain ⟨bound, rfl⟩ := List.getElem?_eq_some_iff.mp found
  constructor
  · intro same
    rw [← List.getElem_set_self (l := l) (a := b) (by rwa [List.length_set]),
      getElem_congr_coll same]
  · rintro rfl
    exact List.set_getElem_self bound

/-- An entry of a list with one more element is an entry of the list or that element. -/
theorem getElem?_concat_iff {α : Type} {l : List α} {a b : α} {i : Nat} :
    (l ++ [a])[i]? = some b ↔ l[i]? = some b ∨ i = l.length ∧ b = a := by
  by_cases bound : i < l.length
  · rw [List.getElem?_append_left bound]
    exact (or_iff_left fun here => by omega).symm
  · rw [List.getElem?_append_right (Nat.le_of_not_lt bound), List.getElem?_singleton,
      List.getElem?_eq_none (Nat.le_of_not_lt bound)]
    grind

/-- The site at a table consists of the table, its registry and the counters. -/
theorem site?_eq_some {number : Nat} {site : Site H} (found : s.site? number = some site) :
    ∃ slot r, s.tables[number]? = some slot ∧ s.registries[slot.registry]? = some r ∧
      site = ⟨r, slot.table, s.counters⟩ := by
  simp only [site?, Option.bind_eq_bind, Option.bind_eq_some_iff, Option.pure_def,
    Option.some.injEq] at found
  obtain ⟨slot, table, r, registry, rfl⟩ := found
  exact ⟨slot, r, table, registry, rfl⟩

/-- A site that is written back with other counters changes nothing else. -/
theorem putSite_counters {number : Nat} {slot : TableSlot H} {r : Registry}
    (table : s.tables[number]? = some slot) (registry : s.registries[slot.registry]? = some r)
    (counters : Counters) :
    s.putSite number ⟨r, slot.table, counters⟩ = { s with counters := counters } := by
  simp only [putSite, table]
  rw [(set_eq_self_iff registry).mpr rfl, (set_eq_self_iff table).mpr rfl]

/-- A registration at a group is one at the site of its table. -/
theorem step_register_eq [PatternEngine] {group : Nat} {member : GroupSlot H} {slot : TableSlot H}
    {r : Registry} (known : s.groups[group]? = some member)
    (table : s.tables[member.table]? = some slot)
    (registry : s.registries[slot.registry]? = some r) (method pattern : String) (handler : H)
    (own : List (Middleware H)) :
    s.step (.register group method pattern handler own) =
      (s.putSite member.table
          (member.group.register ⟨r, slot.table, s.counters⟩ method pattern handler own).1,
        .registered
          (member.group.register ⟨r, slot.table, s.counters⟩ method pattern handler own).2) := by
  have site_eq : s.site? member.table = some ⟨r, slot.table, s.counters⟩ := by
    simp [site?, table, registry]
  simp only [step, atGroup, known, site_eq]

/-- A change at the site of a group is a change of the session. -/
theorem atGroup_moves {α : Type} {group : Nat} {change : Group H → Site H → Site H × α}
    {answer : α → Outcome}
    (series : ∀ g site, Path.IsBase g.base → ∃ routes, Site.Grows site routes (change g site).1) :
    Moves s none (s.atGroup group change answer).1 := by
  unfold atGroup
  cases known : s.groups[group]? with
  | none => exact .stay
  | some slot =>
      dsimp only
      cases found : s.site? slot.table with
      | none => exact .stay
      | some site =>
          obtain ⟨tableSlot, r, table, registry, rfl⟩ := site?_eq_some found
          simp only [putSite, table]
          by_cases isBase : Path.IsBase slot.group.base
          · obtain ⟨routes, grows⟩ := series slot.group ⟨r, tableSlot.table, s.counters⟩ isBase
            exact .grow table registry fun _ => grows
          · have no_bases : ¬ s.Bases := by
              intro bases
              exact isBase (bases slot (List.mem_of_getElem? known))
            exact .grow table registry fun bases => (absurd bases no_bases : Site.Grows _ [] _)

theorem bases_append {slot : GroupSlot H} (isBase : s.Bases → Path.IsBase slot.group.base)
    (bases : s.Bases) : ∀ other ∈ s.groups ++ [slot], Path.IsBase other.group.base :=
  List.forall_mem_append.mpr ⟨bases, List.forall_mem_singleton.mpr (isBase bases)⟩

/-- Every action changes the session in one of the listed ways. -/
theorem step_moves [PatternEngine] (s : Session H) (action : Action H) :
    Moves s (action.claimedIn (s.step action).2) (s.step action).1 := by
  cases action with
  | openRegistry => exact .openRegistry
  | openTable registry policy =>
      cases registry with
      | none => exact .openOwnTable policy
      | some registry =>
          by_cases known : registry < s.registries.length
          · rw [step, if_pos known]
            exact .openTable registry policy known
          · rw [step, if_neg known]
            exact .stay
  | claim registry key =>
      cases found : s.registries[registry]? with
      | none =>
          simp only [step, found]
          exact .stay
      | some r =>
          simp only [step, found]
          by_cases held : r.Holds key
          · rw [Registry.claim_of_holds held]
            dsimp only
            rw [(set_eq_self_iff found).mpr rfl]
            exact .stay
          · have new := Registry.claim_snd_iff.mpr held
            rw [new]
            exact .claim found held
  | openRoot table base =>
      by_cases known : table < s.tables.length
      · rw [step, if_pos known]
        exact .regroup _ (bases_append fun _ => Path.isBase_root base)
      · rw [step, if_neg known]
        exact .stay
  | openChild parent fragment middleware =>
      cases found : s.groups[parent]? with
      | none =>
          simp only [step, found]
          exact .stay
      | some slot =>
          simp only [step, found]
          exact .regroup _ (bases_append fun bases =>
            Path.isBase_nest (bases slot (List.mem_of_getElem? found)) fragment)
  | copyGroup group =>
      cases found : s.groups[group]? with
      | none =>
          simp only [step, found]
          exact .stay
      | some slot =>
          simp only [step, found]
          exact .regroup _ (bases_append fun bases => bases slot (List.mem_of_getElem? found))
  | install group middleware =>
      cases found : s.groups[group]? with
      | none =>
          simp only [step, found]
          exact .stay
      | some slot =>
          simp only [step, found]
          refine .regroup _ fun bases other mem => ?_
          rcases List.mem_or_eq_of_mem_set mem with old | rfl
          · exact bases other old
          · exact bases slot (List.mem_of_getElem? found)
  | register group method pattern handler own =>
      exact atGroup_moves fun g site isBase =>
        (g.registers site method pattern handler own).grows isBase
  | mount group bindings resolver =>
      exact atGroup_moves fun g site isBase => g.grows_mount isBase bindings resolver

end Step

/-! ### Runs -/

section Run

variable {s middle after : Session H} {claimed : Option Nat}

@[simp] theorem runFrom_cons [PatternEngine] {action : Action H} {actions : List (Action H)} :
    runFrom s (action :: actions) = runFrom (s.step action).1 actions := rfl

theorem runFrom_append [PatternEngine] {first second : List (Action H)} :
    runFrom s (first ++ second) = runFrom (runFrom s first) second := List.foldl_append

theorem Moves.bases (moves : Moves s claimed after) (bases : s.Bases) : after.Bases := by
  cases moves with
  | regroup groups kept => exact kept bases
  | _ => exact bases

theorem bases_runFrom [PatternEngine] (bases : s.Bases) (actions : List (Action H)) :
    (runFrom s actions).Bases := by
  induction actions generalizing s with
  | nil => exact bases
  | cons action actions ih => exact ih ((step_moves s action).bases bases)

/-- Every group of a run has a proper base. -/
theorem bases_run [PatternEngine] (actions : List (Action H)) : (run actions).Bases :=
  bases_runFrom (s := empty) nofun actions

/-- Every table stays over its registry and keeps its policy and its routes, with later ones
after them. -/
def Extends (s after : Session H) : Prop :=
  ∀ (number : Nat) (slot : TableSlot H), s.tables[number]? = some slot →
    ∃ slot' : TableSlot H, after.tables[number]? = some slot' ∧
      slot'.registry = slot.registry ∧ slot'.table.policy = slot.table.policy ∧
        slot.table.routes <+: slot'.table.routes

theorem extends_of_tables_eq (same : after.tables = s.tables) : s.Extends after :=
  fun _ slot found => ⟨slot, same ▸ found, rfl, rfl, List.prefix_refl _⟩

theorem Extends.trans (first : s.Extends middle) (second : middle.Extends after) :
    s.Extends after := by
  intro number slot found
  obtain ⟨slot', found', registry, policy, kept⟩ := first number slot found
  obtain ⟨slot'', found'', registry', policy', kept'⟩ := second number slot' found'
  exact ⟨slot'', found'', registry'.trans registry, policy'.trans policy, kept.trans kept'⟩

theorem extends_append_table (slot : TableSlot H) {registries : List Registry} :
    s.Extends { s with registries := registries, tables := s.tables ++ [slot] } := by
  intro number old found
  have bound := (List.getElem?_eq_some_iff.mp found).1
  exact ⟨old, (List.getElem?_append_left bound).trans found, rfl, rfl, List.prefix_refl _⟩

/-- A table may be replaced by one over the same registry that keeps its policy and its routes. -/
theorem extends_set_table {number : Nat} {slot slot' : TableSlot H} {registries : List Registry}
    {counters : Counters} (table : s.tables[number]? = some slot)
    (registry : slot'.registry = slot.registry)
    (policy : slot'.table.policy = slot.table.policy)
    (kept : slot.table.routes <+: slot'.table.routes) :
    s.Extends { s with
      registries := registries, tables := s.tables.set number slot', counters := counters } := by
  intro other old found
  by_cases same : number = other
  · subst same
    obtain rfl := Option.some.inj (table.symm.trans found)
    have bound := (List.getElem?_eq_some_iff.mp table).1
    exact ⟨slot', List.getElem?_set_self bound, registry, policy, kept⟩
  · exact ⟨old, (List.getElem?_set_ne same).trans found, rfl, rfl, List.prefix_refl _⟩

/-- A change extends a session whose groups have proper bases. -/
theorem Moves.extends (moves : Moves s claimed after) (bases : s.Bases) : s.Extends after := by
  cases moves with
  | openTable registry policy known => exact extends_append_table _
  | openOwnTable policy => exact extends_append_table _
  | @grow number slot r site routes table registry grows =>
      have table_eq := (grows bases).table_eq
      refine extends_set_table table rfl ?_ ?_
      · rw [table_eq]
      · rw [table_eq]
        exact List.prefix_append _ _
  | _ => exact extends_of_tables_eq rfl

/-- A run extends the session that it starts from. -/
theorem extends_runFrom [PatternEngine] (bases : s.Bases) (actions : List (Action H)) :
    s.Extends (runFrom s actions) := by
  induction actions generalizing s with
  | nil => exact extends_of_tables_eq rfl
  | cons action actions ih =>
      have moves := step_moves s action
      exact (moves.extends bases).trans (ih (moves.bases bases))

end Run

end Session

end RpcRoutes
