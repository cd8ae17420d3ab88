import RpcRoutes.Program.Engine
import RpcRoutes.Proofs.Routing.Accounts
import RpcRoutes.Proofs.Routing.History
import RpcRoutes.Proofs.Routing.Resolution

/-!
# Stability of resolution

Tables only grow at their end, so what a request resolves to settles once a route answers it, and
what was refused before is at most refused with more methods.

* `Resolution.Persists` says what a resolution may become later.
* `Table.persists_resolve` and `Table.lookup_of_prefix` state it for a table that has the routes of
  another one before its own.
* `Session.Sound.register_taken`: where duplicates are ignored, registering under a text that the
  table has changes no table.
* `Session.resolution_run` states it for the tables of any run and whatever is done after it.
-/

namespace RpcRoutes

variable {H : Type}

namespace Resolution

/-- What a resolution may become when routes are added: a match stays as it is, a refusal turns
into a match or allows further methods behind those that it allows, and what is not found may turn
into anything. -/
inductive Persists : Resolution H → Resolution H → Prop where
  | matched (found : RouteMatch H) : Persists (.matched found) (.matched found)
  | answered (allowed : List String) (found : RouteMatch H) :
      Persists (.methodNotAllowed allowed) (.matched found)
  | extended {allowed more : List String} (kept : allowed <+: more) :
      Persists (.methodNotAllowed allowed) (.methodNotAllowed more)
  | notFound (later : Resolution H) : Persists .notFound later

variable {allowed more : List String}

theorem prefix_addMethod (allowed : List String) (method : String) :
    allowed <+: addMethod allowed method := by
  unfold addMethod
  split
  · exact List.prefix_refl _
  · exact List.prefix_append _ _

/-- Methods that are added come at the end. -/
theorem prefix_foldl_addMethod (allowed methods : List String) :
    allowed <+: methods.foldl addMethod allowed := by
  induction methods generalizing allowed with
  | nil => exact List.prefix_refl _
  | cons method methods ih => exact (prefix_addMethod allowed method).trans (ih _)

/-- A refusal persists when it allows more methods. -/
theorem persists_refusal (kept : allowed <+: more) :
    (refusal allowed : Resolution H).Persists (refusal more) := by
  cases allowed with
  | nil => exact .notFound _
  | cons method allowed =>
      obtain ⟨added, rfl⟩ := kept
      exact .extended ⟨added, rfl⟩

end Resolution

/-! ### Tables that grow -/

namespace Table

open Resolution

variable {t t' : Table H}

/-- Routes that are added behind those of a table resolve requests that these do not answer. -/
theorem persists_resolve (kept : t.routes <+: t'.routes) (method path : String) :
    (t.resolve method path).Persists (t'.resolve method path) := by
  obtain ⟨added, routes_eq⟩ := kept
  rw [resolve, resolve, resolveFrom_eq, resolveFrom_eq, ← routes_eq, ofRoutes, ofRoutes,
    List.findSome?_append]
  cases t.routes.findSome? (Route.match? method path) with
  | some found => exact .matched found
  | none =>
      rw [Option.none_or]
      have fitting_eq : Route.fitting path (t.routes ++ added) =
          Route.fitting path t.routes ++ Route.fitting path added := by
        simp [Route.fitting]
      rw [fitting_eq, List.foldl_append]
      generalize (Route.fitting path t.routes).foldl addMethod [] = allowed
      have kept : allowed <+: (Route.fitting path added).foldl addMethod allowed :=
        prefix_foldl_addMethod _ _
      cases added.findSome? (Route.match? method path) with
      | none => exact persists_refusal kept
      | some found =>
          cases allowed with
          | nil => exact .notFound _
          | cons method allowed => exact .answered _ found

/-- A route that is found by its pattern is found as well when others come after it. -/
theorem lookup_of_prefix (kept : t.routes <+: t'.routes) {method pattern : String}
    {route : Route H} (found : t.lookup method pattern = some route) :
    t'.lookup method pattern = some route := by
  obtain ⟨added, routes_eq⟩ := kept
  rw [lookup] at found ⊢
  rw [← routes_eq, List.find?_append, found, Option.some_or]

end Table

/-! ### Sessions that go on -/

namespace Session

section Taken

variable {s : Session H} {claims : Nat → Nat} {number group : Nat} {slot : TableSlot H}
  {member : GroupSlot H} {method pattern : String}

/-- The registry of a table holds the texts of its routes. -/
theorem Sound.holds_of_mounted (sound : s.Sound claims) (found : s.tables[number]? = some slot)
    {r : Registry} (registry : s.registries[slot.registry]? = some r) {key : RouteKey}
    (taken : key.text ∈ slot.table.keys.map RouteKey.text) : r.Holds key := by
  refine (sound.accounted _ r registry).claimed _ (List.mem_flatMap.mpr ?_)
  refine ⟨slot, List.mem_of_getElem? found, ?_⟩
  rw [if_pos rfl]
  exact taken

/-- Where duplicates are ignored, a registration under a text that the table has is one: it is
answered as ignored and changes no table and no registry. -/
theorem Sound.register_taken [PatternEngine] (sound : s.Sound claims)
    (found : s.tables[number]? = some slot)
    (known : s.groups[group]? = some member) (here : member.table = number)
    (policy : slot.table.policy = .warn) (named : method ≠ "")
    (compiles : Template.Compiles (member.group.fullKey method pattern).pattern)
    (taken : (member.group.fullKey method pattern).text ∈ slot.table.keys.map RouteKey.text)
    (handler : H) (own : List (Middleware H)) :
    ∃ after, s.step (.register group method pattern handler own) =
        (after, .registered (.ok (.ignored (member.group.fullKey method pattern)))) ∧
      after.tables = s.tables ∧ after.registries = s.registries := by
  obtain ⟨r, registry⟩ : ∃ r, s.registries[slot.registry]? = some r :=
    ⟨_, List.getElem?_eq_getElem (sound.known slot (List.mem_of_getElem? found))⟩
  have held := sound.holds_of_mounted found registry taken
  subst here
  rw [step_register_eq known found registry]
  cases member.group.registers ⟨r, slot.table, s.counters⟩ method pattern handler own with
  | unnamed empty _ => exact absurd empty named
  | uncompiled _ fails _ => exact absurd compiles fails
  | rejected _ _ _ reject _ => cases policy.symm.trans reject
  | mounted _ _ _ new _ => exact absurd held new
  | ignored _ _ _ _ eq =>
      rw [eq, Site.refused, putSite_counters found registry]
      exact ⟨_, rfl, rfl, rfl⟩

end Taken

/-- Whatever is done after a run, its tables keep their policies and their routes in place. What a
request resolves to persists: a match stays the same route with the same parameters, and a refusal
turns into a match or allows further methods at the end. A route that is found by its pattern stays
the one that is found. Where duplicates are ignored, registering under a text that the table has
replaces nothing: it is answered as ignored, and all tables stay as they are. -/
theorem resolution_run [PatternEngine] (before later : List (Action H)) {number : Nat}
    {slot : TableSlot H} (found : (run before).tables[number]? = some slot) :
    ∃ slot', (run (before ++ later)).tables[number]? = some slot' ∧
      slot'.table.policy = slot.table.policy ∧ slot.table.routes <+: slot'.table.routes ∧
      (∀ method path, (slot.table.resolve method path).Persists
        (slot'.table.resolve method path)) ∧
      (∀ method pattern route, slot.table.lookup method pattern = some route →
        slot'.table.lookup method pattern = some route) ∧
      (slot.table.policy = .warn → ∀ (group : Nat) (member : GroupSlot H),
        (run (before ++ later)).groups[group]? = some member → member.table = number →
        ∀ (method pattern : String) (handler : H) (own : List (Middleware H)), method ≠ "" →
          Template.Compiles (member.group.fullKey method pattern).pattern →
          (member.group.fullKey method pattern).text ∈ slot.table.keys.map RouteKey.text →
          ∃ after, (run (before ++ later)).step (.register group method pattern handler own) =
              (after, .registered (.ok (.ignored (member.group.fullKey method pattern)))) ∧
            after.tables = (run (before ++ later)).tables ∧
            after.registries = (run (before ++ later)).registries) := by
  obtain ⟨slot', found', _, policy_eq, kept⟩ :=
    extends_runFrom (bases_run before) later number slot found
  rw [← run_append] at found'
  refine ⟨slot', found', policy_eq, kept, Table.persists_resolve kept,
    fun _ _ _ => Table.lookup_of_prefix kept, ?_⟩
  intro policy group member known here method pattern handler own named compiles taken
  have sound := sound_runFrom sound_empty (before ++ later)
  have keys_kept : slot.table.keys.map RouteKey.text ⊆ slot'.table.keys.map RouteKey.text :=
    ((kept.map Route.key).map RouteKey.text).subset
  exact sound.register_taken found' known here (policy_eq.trans policy) named compiles
    (keys_kept taken) handler own

/-- A method is allowed besides the one that was, and the first handler of a pattern stays. -/
theorem resolution_run_ignored :
    ∃ slot : TableSlot String,
      (run [.openTable none .warn, .openRoot 0 "", .register 0 "GET" "/x/{id}" "a" [],
        .register 0 "PUT" "/x/{key}" "b" [], .register 0 "GET" "x/{id}" "c" []]).tables[0]? =
          some slot ∧
      (Resolution.methodNotAllowed ["GET"]).Persists (slot.table.resolve "POST" "/x/7") ∧
      (slot.table.lookup "GET" "/x/{id}").map Route.handler = some "a" := by
  obtain ⟨slot, found, _, _, persists, kept, _⟩ := @resolution_run String _
    [.openTable none .warn, .openRoot 0 "", .register 0 "GET" "/x/{id}" "a" []]
    [.register 0 "PUT" "/x/{key}" "b" [], .register 0 "GET" "x/{id}" "c" []] 0 _ rfl
  refine ⟨slot, found, persists "POST" "/x/7", ?_⟩
  rw [kept "GET" "/x/{id}" _ rfl]
  rfl

end Session

end RpcRoutes
