import RpcRoutes.Proofs.Routing.Mounting

/-!
# Counters of registrations

The counters are written and never read. A registration that is no error counts one event: a
mounted route, or a duplicate that is ignored.

* `Group.mount_recounted`: what comes of mounting a tree does not depend on the counters.
* `Group.total_mount`: a tree that is mounted counts one event for each of its rules.
* `Site.Grows.total_eq`: of these, the mounted routes are counted as such.
* `Group.counters_mount`: a tree that is mounted whole is counted by its routes and nothing else.
-/

namespace RpcRoutes

variable {H : Type}

def Counters.total (c : Counters) : Nat := c.registered.total + c.duplicate.total

/-! ### Other counters -/

def Site.recounted (s : Site H) (c : Counters) : Site H := { s with counters := c }

section Recounted

variable (g : Group H) (s : Site H) (c : Counters)

theorem Site.claim_recounted (key : RouteKey) :
    ∃ c', (s.recounted c).claim key = ((s.claim key).1.recounted c', (s.claim key).2) := by
  by_cases held : s.registry.Holds key
  · exact ⟨c.addDuplicate key.method, by simp [claim, recounted, Registry.claim_of_holds held]⟩
  · exact ⟨c, by simp [claim, recounted, Registry.claim_of_not_holds held]⟩

theorem Group.register_recounted [PatternEngine] (method pattern : String) (handler : H)
    (own : List (Middleware H)) : ∃ c', g.register (s.recounted c) method pattern handler own =
      ((g.register s method pattern handler own).1.recounted c',
        (g.register s method pattern handler own).2) := by
  unfold register
  cases g.key method pattern with
  | error e => exact ⟨c, rfl⟩
  | ok key =>
      dsimp only
      cases template key.pattern with
      | error e => exact ⟨c, rfl⟩
      | ok t =>
          obtain ⟨c', claim_eq⟩ := s.claim_recounted c key
          dsimp only
          rw [claim_eq]
          rcases s.claim key with ⟨after, e | new⟩
          · exact ⟨c', rfl⟩
          · cases new with
            | false => exact ⟨c', rfl⟩
            | true => exact ⟨c'.addRegistered key.method, rfl⟩

namespace Mount

theorem planRules_recounted (handler : H) (seen : List RouteKey) (rs : List Rule) :
    planRules g (s.recounted c) handler seen rs = planRules g s handler seen rs := by
  induction rs generalizing seen with
  | nil => rfl
  | cons rule rs ih =>
      simp only [planRules, ih]
      rfl

theorem planMethods_recounted (resolver : HandlerResolver H) (seen : List RouteKey)
    (methods : List (String × MethodBinding)) :
    planMethods g (s.recounted c) resolver seen methods =
      planMethods g s resolver seen methods := by
  induction methods generalizing seen with
  | nil => rfl
  | cons m methods ih => simp only [planMethods, planRules_recounted, ih]

theorem execute_recounted [PatternEngine] (report : MountReport) (ps : List (Planned H)) :
    ∃ c', execute g (s.recounted c) report ps =
      ((execute g s report ps).1.recounted c', (execute g s report ps).2) := by
  induction ps generalizing s c report with
  | nil => exact ⟨c, rfl⟩
  | cons p ps ih =>
      obtain ⟨c', register_eq⟩ := g.register_recounted s c p.method p.pattern p.handler []
      rcases result : g.register s p.method p.pattern p.handler [] with ⟨after, e | done⟩
      · rw [result] at register_eq
        exact ⟨c', by rw [execute_cons_error register_eq, execute_cons_error result]⟩
      · rw [result] at register_eq
        rw [execute_cons_ok register_eq, execute_cons_ok result]
        exact ih after c' (report.add done)

end Mount

/-- What comes of mounting a tree does not depend on the counters. -/
theorem Group.mount_recounted [PatternEngine] (bindings : List ServiceBinding)
    (resolver : HandlerResolver H) : ∃ c', g.mount (s.recounted c) bindings resolver =
      ((g.mount s bindings resolver).1.recounted c', (g.mount s bindings resolver).2) := by
  unfold mount
  rw [Mount.plan, Mount.planMethods_recounted, ← Mount.plan]
  cases Mount.plan g s bindings resolver with
  | error e => cases e <;> exact ⟨_, rfl⟩
  | ok planned => exact Mount.execute_recounted g s c .empty planned

end Recounted

/-! ### Events -/

/-- Counting keys as duplicates changes the one counter only. -/
theorem Counters.foldl_addDuplicate (c : Counters) (shadows : List (Nat × RouteKey)) :
    (shadows.foldl (fun c s => c.addDuplicate s.2.method) c).registered = c.registered ∧
      (shadows.foldl (fun c s => c.addDuplicate s.2.method) c).duplicate.total =
        c.duplicate.total + shadows.length := by
  induction shadows generalizing c with
  | nil => exact ⟨rfl, rfl⟩
  | cons s shadows ih =>
      obtain ⟨registered, duplicate⟩ := ih (c.addDuplicate s.2.method)
      refine ⟨registered, ?_⟩
      rw [List.foldl_cons, duplicate, addDuplicate, Tally.total_add, List.length_cons]
      omega

section Total

variable {g : Group H} {s after : Site H}

/-- A registration that succeeds counts one event. -/
theorem Group.total_register [PatternEngine] {method pattern : String} {handler : H}
    {own : List (Middleware H)} {done : Registration}
    (eq : g.register s method pattern handler own = (after, .ok done)) :
    after.counters.total = s.counters.total + 1 := by
  cases g.registers s method pattern handler own with
  | unnamed _ eq' | uncompiled _ _ eq' | rejected _ _ _ _ eq' =>
      rw [eq'] at eq
      cases eq
  | ignored _ _ _ _ eq' =>
      obtain ⟨rfl, _⟩ := Prod.mk.inj (eq'.symm.trans eq)
      rfl
  | mounted _ _ _ _ eq' =>
      obtain ⟨rfl, _⟩ := Prod.mk.inj (eq'.symm.trans eq)
      exact Nat.add_right_comm _ 1 _

/-- A plan that is carried out counts one event for each of its rules. -/
theorem Mount.total_execute [PatternEngine] {report report' : MountReport} {ps : List (Planned H)}
    (done : execute g s report ps = (after, .ok report')) :
    after.counters.total = s.counters.total + ps.length := by
  induction ps generalizing s report with
  | nil =>
      obtain ⟨rfl, _⟩ := Prod.mk.inj done
      rfl
  | cons p ps ih =>
      rcases result : g.register s p.method p.pattern p.handler [] with ⟨middle, e | first⟩
      · rw [execute_cons_error result] at done
        simp at done
      · rw [execute_cons_ok result] at done
        rw [ih done, Group.total_register result, List.length_cons]
        omega

/-- Where all rules have handlers, the plan holds all of them. -/
theorem Mount.length_planned {resolver : HandlerResolver H} {rs : List OwnedRule}
    (handled : ∀ r ∈ rs, resolver r.service r.method ≠ none) :
    (rs.filterMap (planned? resolver)).length = rs.length := by
  rw [List.length_filterMap_eq_countP, List.countP_eq_length]
  intro r mem
  simpa [planned?, Option.isSome_iff_ne_none] using handled r mem

/-- A tree that is mounted counts one event for each of its rules. -/
theorem Group.total_mount [PatternEngine] {bindings : List ServiceBinding}
    {resolver : HandlerResolver H}
    {report : MountReport} (done : g.mount s bindings resolver = (after, .ok report)) :
    after.counters.total = s.counters.total + (Mount.rules bindings).length := by
  rcases Mount.plan_spec g s resolver bindings with ⟨checked, planned⟩ | ⟨_, e, _, stops⟩
  · rw [mount, planned] at done
    rw [Mount.total_execute done,
      Mount.length_planned (Mount.Checked.handled_rules checked.handled)]
  · rw [mount, stops] at done
    simp at done

/-- Each mounted route is counted as such. -/
theorem Site.Grows.total_eq {routes : List (Route H)} (grows : Site.Grows s routes after) :
    after.counters.registered.total = s.counters.registered.total + routes.length := by
  induction grows with
  | done => rfl
  | mount _ _ _ ih =>
      rw [ih, registered_mounted, Tally.total_add, List.length_cons]
      omega
  | refuse _ _ ih => exact ih

end Total

/-! ### Counters of whole trees -/

/-- The counters with these routes counted as mounted. -/
def Counters.addRoutes (c : Counters) (routes : List (Route H)) : Counters :=
  routes.foldl (fun c route => c.addRegistered route.method) c

theorem Counters.addRoutes_append (c : Counters) (routes more : List (Route H)) :
    c.addRoutes (routes ++ more) = (c.addRoutes routes).addRoutes more := List.foldl_append

theorem Counters.duplicate_addRoutes (c : Counters) (routes : List (Route H)) :
    (c.addRoutes routes).duplicate = c.duplicate := by
  induction routes generalizing c with
  | nil => rfl
  | cons route routes ih => exact ih (c.addRegistered route.method)

namespace Site

variable {s after : Site H} {routes : List (Route H)}

theorem total_mounted (s : Site H) (route : Route H) :
    (s.mounted route).counters.total = s.counters.total + 1 := Nat.add_right_comm _ 1 _

theorem total_refused (s : Site H) (key : RouteKey) :
    (s.refused key).counters.total = s.counters.total + 1 := rfl

theorem Grows.total_le (grows : Grows s routes after) :
    s.counters.total + routes.length ≤ after.counters.total := by
  induction grows with
  | done => exact Nat.le_refl _
  | mount _ _ _ ih =>
      rw [total_mounted] at ih
      rw [List.length_cons]
      omega
  | refuse _ _ ih =>
      rw [total_refused] at ih
      omega

/-- When no more events were counted than routes were mounted, these are what was counted. -/
theorem Grows.counters_eq (grows : Grows s routes after)
    (counted : after.counters.total = s.counters.total + routes.length) :
    after.counters = s.counters.addRoutes routes := by
  induction grows with
  | done => rfl
  | mount _ _ _ ih =>
      refine ih ?_
      rw [counted, total_mounted, List.length_cons]
      omega
  | refuse _ rest _ =>
      -- A refusal counts an event without a route, so the numbers could not agree.
      have more := rest.total_le
      rw [total_refused] at more
      omega

end Site

/-- A tree that is mounted whole is counted by its routes. -/
theorem Group.counters_mount [PatternEngine] {g : Group H} {s after : Site H}
    {bindings : List ServiceBinding}
    {resolver : HandlerResolver H} {report : MountReport} (isBase : Path.IsBase g.base)
    (done : g.mount s bindings resolver = (after, .ok report))
    (fresh : s.registry.Fresh ((Mount.rules bindings).map g.ruleKey)) :
    after.counters =
      s.counters.addRoutes ((Mount.rules bindings).filterMap (g.route? resolver)) := by
  obtain ⟨handled, mountable, mounts⟩ := mounts_of_mount_ok done
  obtain ⟨routes, grows⟩ := g.grows_mount (s := s) isBase bindings resolver
  rw [done] at grows
  have routes_eq : routes = (Mount.rules bindings).filterMap (g.route? resolver) := by
    have same := grows.table_eq.symm.trans mounts.table_eq
    rw [Registry.admitted_eq_self_iff.mpr fresh] at same
    exact List.append_cancel_left (congrArg Table.routes same)
  have length_eq : routes.length = (Mount.rules bindings).length := by
    rw [routes_eq, ← List.length_map Route.key, Mount.map_key_filterMap_route?
      (Mount.Checked.handled_rules handled) mountable.compiles, List.length_map]
  rw [← routes_eq]
  refine grows.counters_eq ?_
  rw [length_eq, Group.total_mount done]

end RpcRoutes
