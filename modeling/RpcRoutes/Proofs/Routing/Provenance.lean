import RpcRoutes.Proofs.Routing.History
import RpcRoutes.Proofs.Routing.Mounting

/-!
# Where routes come from

Every route of a table was added by one action, which registered it at a group or mounted it there
with a tree. From then on it stays as it is.

* `Action.Gives` says which key and which handler an action registers at a group, and with which
  layers of its own. Of the rules of a tree that have one text only the first is registered.
* `Session.step_added`: what an action adds to a table it makes at a group of that table.
* `Session.routesAt_run_iff`: the routes of a run are those that its actions added
  (`Session.Adds`).
-/

namespace RpcRoutes

variable {H : Type}

/-- An action registers a handler under a key at a group, which has this number, inside layers of
its own. -/
inductive Action.Gives (g : Group H) :
    Action H → Nat → RouteKey → H → List (Middleware H) → Prop where
  | register (group : Nat) (method pattern : String) (handler : H) (own : List (Middleware H)) :
      Gives g (.register group method pattern handler own) group (g.fullKey method pattern) handler
        own
  | mount (group : Nat) {bindings : List ServiceBinding} {resolver : HandlerResolver H}
      {front rest : List OwnedRule} {r : OwnedRule} {handler : H}
      (split : Mount.rules bindings = front ++ r :: rest)
      (first : ∀ q ∈ front, (g.ruleKey q).text ≠ (g.ruleKey r).text)
      (resolved : resolver r.service r.method = some handler) :
      Gives g (.mount group bindings resolver) group (g.ruleKey r) handler []

/-- An action makes a route at a group: it gives the route's key, and the route's handler stands
inside the group's layers. -/
def Action.Makes (action : Action H) (g : Group H) (group : Nat) (route : Route H) : Prop :=
  ∃ handler own, action.Gives g group route.key handler own ∧
    route.handler = Middleware.compose handler g.stack own

/-- The second list of routes is the first with more behind it, all of which satisfies `P`. -/
def GrowsBy (P : Route H → Prop) (before after : List (Route H)) : Prop :=
  ∃ added, after = before ++ added ∧ ∀ route ∈ added, P route

namespace GrowsBy

variable {P Q : Route H → Prop} {before after : List (Route H)} {route : Route H}

theorem refl (P : Route H → Prop) (routes : List (Route H)) : GrowsBy P routes routes :=
  ⟨[], (List.append_nil _).symm, List.forall_mem_nil _⟩

theorem single (here : P route) : GrowsBy P before (before ++ [route]) :=
  ⟨[route], rfl, List.forall_mem_singleton.mpr here⟩

theorem head (here : P route) (rest : GrowsBy P (before ++ [route]) after) :
    GrowsBy P before after := by
  obtain ⟨added, rfl, all⟩ := rest
  exact ⟨route :: added, List.append_assoc .., List.forall_mem_cons.mpr ⟨here, all⟩⟩

theorem mono (grows : GrowsBy P before after) (weaker : ∀ route, P route → Q route) :
    GrowsBy Q before after := by
  obtain ⟨added, eq, all⟩ := grows
  exact ⟨added, eq, fun route mem => weaker route (all route mem)⟩

theorem isPrefix (grows : GrowsBy P before after) : before <+: after := by
  obtain ⟨added, rfl, _⟩ := grows
  exact List.prefix_append _ _

end GrowsBy

/-! ### Additions at a site -/

namespace Mount

/-- The route comes from the first of the rules with its text, which is new in a registry. -/
def Yields (g : Group H) (resolver : HandlerResolver H) (registry : Registry)
    (rs : List OwnedRule) (route : Route H) : Prop :=
  ∃ front r rest handler, rs = front ++ r :: rest ∧
    (∀ q ∈ front, (g.ruleKey q).text ≠ (g.ruleKey r).text) ∧
    resolver r.service r.method = some handler ∧ route.key = g.ruleKey r ∧
    route.handler = Middleware.compose handler g.stack [] ∧ ¬ registry.Holds (g.ruleKey r)

variable {g : Group H} {s : Site H} {resolver : HandlerResolver H} {registry : Registry}
  {r : OwnedRule} {rs : List OwnedRule} {route : Route H}

/-- What comes from rules behind a rule whose text is claimed has another text. -/
theorem Yields.cons (yields : Yields g resolver (registry.claim (g.ruleKey r)).1 rs route) :
    Yields g resolver registry (r :: rs) route := by
  obtain ⟨front, q, rest, handler, rfl, first, resolved, key_eq, handler_eq, new⟩ := yields
  rw [Registry.holds_claim_iff, not_or] at new
  exact ⟨r :: front, q, rest, handler, rfl, List.forall_mem_cons.mpr ⟨Ne.symm new.2, first⟩,
    resolved, key_eq, handler_eq, new.1⟩

/-- Whatever comes of it, carrying out the plan of rules adds routes of these rules. -/
theorem execute_added [PatternEngine] (handled : ∀ r ∈ rs, resolver r.service r.method ≠ none)
    (report : MountReport) : GrowsBy (Yields g resolver s.registry rs) s.table.routes
      (execute g s report (rs.filterMap (planned? resolver))).1.table.routes := by
  induction rs generalizing s report with
  | nil => exact .refl _ _
  | cons r rs ih =>
      obtain ⟨known, handled⟩ := List.forall_mem_cons.mp handled
      obtain ⟨handler, found⟩ := Option.ne_none_iff_exists'.mp known
      rw [List.filterMap_cons_some (planned?_eq_some found)]
      cases g.registers s r.rule.method r.rule.pattern handler [] with
      | unnamed _ eq | uncompiled _ _ eq | rejected _ _ _ _ eq =>
          rw [execute_cons_error eq]
          exact .refl _ _
      | ignored _ _ held _ eq =>
          rw [execute_cons_ok eq]
          refine (ih (s := s.refused (g.ruleKey r)) handled _).mono fun route yields => ?_
          apply Yields.cons
          rwa [Registry.claim_of_holds held]
      | mounted _ t compiled new eq =>
          have key_eq : Route.key ⟨r.rule.method, t, Middleware.compose handler g.stack []⟩ =
              g.ruleKey r := Route.key_of_compile? compiled
          have head : Yields g resolver s.registry (r :: rs)
              ⟨r.rule.method, t, Middleware.compose handler g.stack []⟩ :=
            ⟨[], r, rs, handler, rfl, List.forall_mem_nil _, found, key_eq, rfl, new⟩
          rw [execute_cons_ok eq]
          refine .head head ((ih handled _).mono fun route yields => ?_)
          rw [Site.registry_mounted, key_eq] at yields
          exact yields.cons

end Mount

namespace Group

/-- A registration adds one route that it makes, or none. -/
theorem register_added [PatternEngine] (g : Group H) (s : Site H) (group : Nat)
    (method pattern : String) (handler : H) (own : List (Middleware H)) :
    GrowsBy ((Action.register group method pattern handler own).Makes g group) s.table.routes
      (g.register s method pattern handler own).1.table.routes := by
  cases g.registers s method pattern handler own with
  | unnamed _ eq | uncompiled _ _ eq | rejected _ _ _ _ eq | ignored _ _ _ _ eq =>
      rw [eq]
      exact .refl _ _
  | mounted _ t compiled new eq =>
      have key_eq : Route.key ⟨method, t, Middleware.compose handler g.stack own⟩ =
          g.fullKey method pattern := Route.key_of_compile? compiled
      rw [eq]
      refine .single ⟨handler, own, ?_, rfl⟩
      rw [key_eq]
      exact .register group method pattern handler own

/-- Mounting a tree adds routes that it makes. -/
theorem mount_added [PatternEngine] (g : Group H) (s : Site H) (group : Nat)
    (bindings : List ServiceBinding) (resolver : HandlerResolver H) :
    GrowsBy ((Action.mount group bindings resolver).Makes g group) s.table.routes
      (g.mount s bindings resolver).1.table.routes := by
  rcases Mount.plan_spec g s resolver bindings with ⟨checked, planned⟩ | ⟨_, e, _, stops⟩
  · have handled := Mount.Checked.handled_rules checked.handled
    rw [mount, planned]
    refine (Mount.execute_added handled .empty).mono fun route yields => ?_
    obtain ⟨front, r, rest, handler, split, first, resolved, key_eq, handler_eq, _⟩ := yields
    refine ⟨handler, [], ?_, handler_eq⟩
    rw [key_eq]
    exact .mount group split first resolved
  · rw [mount, stops]
    cases e <;> exact .refl _ _

end Group

/-! ### Additions in a session -/

namespace Session

/-- The routes of a table, by its number; none while it is not open. -/
def routesAt (s : Session H) (table : Nat) : List (Route H) :=
  ((s.tables[table]?).map fun slot => slot.table.routes).getD []

section Step

variable {s : Session H} {table : Nat}

/-- A route is made at some group of a table, by an action. -/
def MadeAt (s : Session H) (action : Action H) (table : Nat) (route : Route H) : Prop :=
  ∃ group slot, s.groups[group]? = some slot ∧ slot.table = table ∧
    action.Makes slot.group group route

/-- What a change at a group adds to a table, it adds at a group of that table. -/
theorem atGroup_added {α : Type} {action : Action H} {group : Nat}
    {change : Group H → Site H → Site H × α} {answer : α → Outcome}
    (adds : ∀ g site,
      GrowsBy (action.Makes g group) site.table.routes (change g site).1.table.routes) :
    GrowsBy (s.MadeAt action table) (s.routesAt table)
      ((s.atGroup group change answer).1.routesAt table) := by
  unfold atGroup
  cases known : s.groups[group]? with
  | none => exact .refl _ _
  | some slot =>
      dsimp only
      cases found : s.site? slot.table with
      | none => exact .refl _ _
      | some site =>
          obtain ⟨tableSlot, r, here, _, rfl⟩ := site?_eq_some found
          simp only [putSite, here, routesAt]
          by_cases same : slot.table = table
          · subst same
            have bound := (List.getElem?_eq_some_iff.mp here).1
            rw [here, List.getElem?_set_self bound]
            exact (adds slot.group ⟨r, tableSlot.table, s.counters⟩).mono fun route makes =>
              ⟨group, slot, known, rfl, makes⟩
          · rw [List.getElem?_set_ne same]
            exact .refl _ _

theorem routesAt_append_table {registries : List Registry} {registry : Nat}
    {policy : DuplicatePolicy} :
    ({ s with
        registries := registries
        tables := s.tables ++ [⟨registry, .empty policy⟩] } : Session H).routesAt table =
      s.routesAt table := by
  simp only [routesAt]
  by_cases bound : table < s.tables.length
  · rw [List.getElem?_append_left bound]
  · rw [List.getElem?_append_right (Nat.le_of_not_lt bound), List.getElem?_singleton,
      List.getElem?_eq_none (Nat.le_of_not_lt bound)]
    split <;> rfl

/-- What an action adds to a table it makes at a group of that table. -/
theorem step_added [PatternEngine] (s : Session H) (action : Action H) (table : Nat) :
    GrowsBy (s.MadeAt action table) (s.routesAt table) ((s.step action).1.routesAt table) := by
  have nothing (same : (s.step action).1.routesAt table = s.routesAt table) :
      GrowsBy (s.MadeAt action table) (s.routesAt table) ((s.step action).1.routesAt table) :=
    same ▸ .refl _ _
  cases action with
  | openTable registry policy =>
      apply nothing
      cases registry with
      | none => exact routesAt_append_table
      | some registry =>
          rw [step]
          split
          · exact routesAt_append_table
          · rfl
  | register group method pattern handler own =>
      exact atGroup_added fun g site => g.register_added site group method pattern handler own
  | mount group bindings resolver =>
      exact atGroup_added fun g site => g.mount_added site group bindings resolver
  | _ =>
      apply nothing
      rw [step]
      first | rfl | (split <;> rfl)

end Step

/-! ### Runs -/

section Run

variable [PatternEngine] {actions : List (Action H)} {table index : Nat} {route : Route H}

/-- A run keeps the routes of every table in place. -/
theorem routesAt_prefix (s : Session H) (actions : List (Action H)) (table : Nat) :
    s.routesAt table <+: (runFrom s actions).routesAt table := by
  induction actions generalizing s with
  | nil => exact List.prefix_refl _
  | cons action actions ih => exact (step_added s action table).isPrefix.trans (ih _)

/-- After these actions, an action adds the route at this place of a table. -/
def Adds (before : List (Action H)) (action : Action H) (table index : Nat) (route : Route H) :
    Prop :=
  ((run before).routesAt table).length ≤ index ∧
    ((run (before ++ [action])).routesAt table)[index]? = some route

/-- An action adds routes that it makes, at groups of their table. -/
theorem Adds.makes {before : List (Action H)} {action : Action H}
    (adds : Adds before action table index route) :
    ∃ group slot, (run before).groups[group]? = some slot ∧ slot.table = table ∧
      action.Makes slot.group group route := by
  obtain ⟨absent, present⟩ := adds
  obtain ⟨added, routes_eq, makes⟩ := step_added (run before) action table
  rw [run_concat, routes_eq, List.getElem?_append_right absent] at present
  exact makes route (List.mem_of_getElem? present)

/-- Every route of a run was added by an action, and a route that was added stays. -/
theorem routesAt_run_iff : ((run actions).routesAt table)[index]? = some route ↔
    ∃ before action later, actions = before ++ action :: later ∧
      Adds before action table index route := by
  constructor
  · intro found
    induction actions using List.reverseRecOn with
    | nil => simp [run, runFrom, routesAt, empty] at found
    | append_singleton actions action ih =>
        by_cases old : index < ((run actions).routesAt table).length
        · obtain ⟨added, routes_eq⟩ := (step_added (run actions) action table).isPrefix
          rw [run_concat, ← routes_eq, List.getElem?_append_left old] at found
          obtain ⟨before, first, later, rfl, adds⟩ := ih found
          exact ⟨before, first, later ++ [action], by simp, adds⟩
        · exact ⟨actions, action, [], rfl, Nat.le_of_not_lt old, found⟩
  · rintro ⟨before, action, later, rfl, _, present⟩
    obtain ⟨more, kept⟩ := routesAt_prefix (run (before ++ [action])) later table
    rw [← run_append, List.append_assoc, List.singleton_append] at kept
    rw [← kept, List.getElem?_append_left (List.getElem?_eq_some_iff.mp present).1]
    exact present

end Run

end Session

end RpcRoutes
