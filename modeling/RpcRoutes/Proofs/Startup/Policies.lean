import RpcRoutes.Program.Engine
import RpcRoutes.Proofs.Routing.Shadows
import RpcRoutes.Proofs.Startup.Repetition
import RpcRoutes.Proofs.Startup.Scopes

/-!
# Policies for duplicates

The policy for duplicates and the scope of registries matter for duplicates only. Where nothing
repeats, files give the same under all of them, since every rule is then admitted; where something
does, this alone is why the strict policy refuses what the lenient one builds.

* `DuplicatesDecide` says so of a way of building, and `DuplicatesDecide.of_whole` shows it from
  what is built where nothing repeats.
* `buildRoutes_whole` and `buildManifest_whole`: where nothing repeats, all rules of usable files
  are mounted or listed, and the counters count the mounted routes.
* `duplicate_of_buildRoutes` and `duplicate_of_manifestFrom`: usable files are refused for a
  duplicate, if at all.
* `duplicatesDecide_of_build`: so it is for tables and for manifests.
-/

namespace RpcRoutes

variable {H : Type}

/-! ### Ways of building -/

/-- The policy and the scope with which files are built decide about duplicates only. `fault` is
what a file is refused for when the key of one of its rules is a duplicate. -/
structure DuplicatesDecide {β : Type} (fault : RouteKey → FileFault) (key : OwnedRule → RouteKey)
    (build : DuplicatePolicy → RegistryScope → List FileDescriptor →
      Counters × Except StartupError β) : Prop where
  /-- What is built where duplicates are errors is built and counted alike where they are not. -/
  same {scope : RegistryScope} {files : List FileDescriptor} {counters : Counters} {made : β}
    (built : build .reject scope files = (counters, .ok made)) :
    build .warn scope files = (counters, .ok made)
  /-- It was so after each of the files. -/
  front {scope : RegistryScope} {files more : List FileDescriptor} {counters : Counters} {made : β}
    (built : build .reject scope (files ++ more) = (counters, .ok made)) :
    ∃ counters made, build .reject scope files = (counters, .ok made)
  /-- What is refused only where duplicates are errors is refused for a duplicate. -/
  refused {scope : RegistryScope} {files : List FileDescriptor} {counters counters' : Counters}
    {made : β} {e : StartupError} (built : build .warn scope files = (counters, .ok made))
    (stops : build .reject scope files = (counters', .error e)) :
    (∃ file ∈ files, ∃ r ∈ file.rules, e = ⟨file.name, fault (key r)⟩) ∧
      scope.Repeats key (files.map FileDescriptor.rules)
  /-- It is refused when two rules in one registry have one text. -/
  stops {scope : RegistryScope} {files : List FileDescriptor}
    (repeats : scope.Repeats key (files.map FileDescriptor.rules)) :
    ∃ counters e, build .reject scope files = (counters, .error e)
  /-- What is built over a shared registry where duplicates are errors is built and counted alike
  in all settings, and none is counted as a duplicate. -/
  unshared {files : List FileDescriptor} {counters : Counters} {made : β}
    (built : build .reject .shared files = (counters, .ok made)) :
    counters.duplicate = .zero ∧ ∀ policy scope, build policy scope files = (counters, .ok made)

section Whole

variable {β : Type} {fault : RouteKey → FileFault} {key : OwnedRule → RouteKey}
  {build : DuplicatePolicy → RegistryScope → List FileDescriptor → Counters × Except StartupError β}

/-- Policy and scope decide about duplicates only, when files are built that are usable and, where
duplicates are errors, in which nothing repeats, and when usable files in which nothing repeats
give the same whatever policy and scope are. -/
theorem DuplicatesDecide.of_whole (usable : FileDescriptor → Prop)
    (whole : List FileDescriptor → Counters × Except StartupError β)
    (built_iff : ∀ policy scope files, (∃ made, (build policy scope files).2 = .ok made) ↔
      (∀ file ∈ files, usable file) ∧
        (policy = .reject → ¬ scope.Repeats key (files.map FileDescriptor.rules)))
    (build_eq : ∀ policy scope files, (∀ file ∈ files, usable file) →
      ¬ scope.Repeats key (files.map FileDescriptor.rules) → build policy scope files = whole files)
    (unshadowed : ∀ files, (∀ file ∈ files, usable file) →
      ¬ RegistryScope.shared.Repeats key (files.map FileDescriptor.rules) →
        (whole files).1.duplicate = .zero)
    (error_eq : ∀ scope files e, (∀ file ∈ files, usable file) →
      (build .reject scope files).2 = .error e →
        ∃ file ∈ files, ∃ r ∈ file.rules, e = ⟨file.name, fault (key r)⟩) :
    DuplicatesDecide fault key build := by
  have parts {policy : DuplicatePolicy} {scope : RegistryScope} {files : List FileDescriptor}
      {counters : Counters} {made : β} (built : build policy scope files = (counters, .ok made)) :
      (∀ file ∈ files, usable file) ∧
        (policy = .reject → ¬ scope.Repeats key (files.map FileDescriptor.rules)) :=
    (built_iff policy scope files).mp ⟨made, congrArg Prod.snd built⟩
  constructor
  case same =>
    intro scope files counters made built
    obtain ⟨usable, distinct⟩ := parts built
    rw [build_eq _ _ _ usable (distinct rfl)] at built ⊢
    exact built
  case front =>
    intro scope files more counters made built
    obtain ⟨usable, distinct⟩ := parts built
    rw [List.map_append] at distinct
    obtain ⟨made', front⟩ := (built_iff .reject scope files).mpr
      ⟨fun file mem => usable file (List.mem_append_left _ mem),
        fun policy repeats => distinct policy repeats.append_right⟩
    exact ⟨_, made', Prod.ext rfl front⟩
  case refused =>
    intro scope files counters counters' made e built stops
    have usable := (parts built).1
    refine ⟨error_eq scope files e usable (congrArg Prod.snd stops), ?_⟩
    by_contra distinct
    obtain ⟨made', built'⟩ := (built_iff .reject scope files).mpr ⟨usable, fun _ => distinct⟩
    rw [stops] at built'
    cases built'
  case stops =>
    intro scope files repeats
    rcases result : build .reject scope files with ⟨counters, e | made⟩
    · exact ⟨counters, e, rfl⟩
    · exact absurd repeats ((parts result).2 rfl)
  case unshared =>
    intro files counters made built
    obtain ⟨usable, distinct⟩ := parts built
    have built_eq := build_eq .reject .shared files usable (distinct rfl)
    constructor
    · rw [← unshadowed files usable (distinct rfl), ← built_eq, built]
    · intro policy scope
      rw [build_eq policy scope files usable fun repeats => distinct rfl repeats.shared,
        ← built_eq, built]

end Whole

/-! ### Tables -/

def Group.routesOf [PatternEngine] (g : Group H) (resolver : HandlerResolver H)
    (files : List FileDescriptor) :
    List (List (Route H)) := files.map fun file => file.rules.filterMap (g.route? resolver)

theorem Group.flatten_routesOf [PatternEngine] (g : Group H) (resolver : HandlerResolver H)
    (files : List FileDescriptor) : (g.routesOf resolver files).flatten =
      (files.flatMap FileDescriptor.rules).filterMap (g.route? resolver) := by
  rw [List.flatMap, List.filterMap_flatten, List.map_map]
  rfl

namespace RoutingConfig

theorem ruleKey_eq (config : RoutingConfig) :
    config.ruleKey = (Group.root config.base : Group H).ruleKey := rfl

/-- Whether a file is usable depends on the base only. -/
theorem usable_iff_of_base [PatternEngine] {config config' : RoutingConfig}
    {resolver : HandlerResolver H} {file : FileDescriptor} (same : config.base = config'.base) :
    config.Usable resolver file ↔ config'.Usable resolver file := by
  have keys_eq : config.ruleKey = config'.ruleKey := by
    rw [ruleKey_eq (H := H), same, ← ruleKey_eq]
  constructor
  · rintro ⟨extracted, handled, compiles⟩
    exact ⟨extracted, handled, by rwa [← keys_eq]⟩
  · rintro ⟨extracted, handled, compiles⟩
    exact ⟨extracted, handled, by rwa [keys_eq]⟩

end RoutingConfig

/-- The routes of the tables of files, with the counters. -/
def buildRoutes [PatternEngine] (config : RoutingConfig) (middleware : List (Middleware H))
    (resolver : HandlerResolver H) (files : List FileDescriptor) :
    Counters × Except StartupError (List (List (Route H))) :=
  (buildTables config middleware resolver files).map id (Except.map (List.map Table.routes))

section Tables

variable [PatternEngine] {config : RoutingConfig} {middleware : List (Middleware H)}
  {resolver : HandlerResolver H} {shared : Registry} {counters : Counters}
  {files : List FileDescriptor}

/-- When all rules of usable files are admitted, their routes are what is counted. -/
theorem tablesFrom_whole (usable : ∀ file ∈ files, config.Usable resolver file)
    (whole : config.scope.admitted config.ruleKey shared (files.map FileDescriptor.rules) =
      files.map FileDescriptor.rules) :
    (tablesFrom config middleware resolver shared counters files).1 =
      counters.addRoutes ((files.flatMap FileDescriptor.rules).filterMap
        ((config.group middleware).route? resolver)) := by
  induction files generalizing shared counters with
  | nil => rfl
  | cons file files ih =>
      obtain ⟨usable, usables⟩ := List.forall_mem_cons.mp usable
      obtain ⟨fresh, whole⟩ := RegistryScope.admitted_cons_eq_self_iff.mp whole
      obtain ⟨bindings, extracted⟩ := usable.extracted
      obtain ⟨handled, mountable⟩ := (mountable_iff_usable extracted).mpr ⟨usable, fun _ => fresh⟩
      obtain ⟨after, report, done⟩ := Group.mount_ok_of_mountable handled mountable
      rw [FileDescriptor.rules_eq extracted] at fresh whole
      have registry_eq : after.registry = (config.scope.registryFor shared).claimAll config.ruleKey
          (Mount.rules bindings) := (Group.mounts_of_mount_ok done).2.2.registry_eq
      have counted : after.counters = counters.addRoutes ((Mount.rules bindings).filterMap
          ((config.group middleware).route? resolver)) :=
        Group.counters_mount (Path.isBase_root config.base) done fresh
      rw [tablesFrom_cons_mounted extracted done, Prod.map_fst, id, registry_eq, ih usables whole,
        counted, ← Counters.addRoutes_append, List.flatMap_cons, List.filterMap_append,
        FileDescriptor.rules_eq extracted]

/-- What the files give when all of their rules are mounted. -/
def Group.wholeTables (g : Group H) (resolver : HandlerResolver H) (files : List FileDescriptor) :
    Counters × Except StartupError (List (List (Route H))) :=
  let routes := g.routesOf resolver files
  let shadowed := Table.shadowed (routes.map (Table.mk .warn))
  (shadowed.foldl (fun c (_, key) => c.addDuplicate key.method)
    (Counters.zero.addRoutes routes.flatten), .ok routes)

/-- Usable files in which nothing repeats give all of their routes. -/
theorem buildRoutes_whole (usable : ∀ file ∈ files, config.Usable resolver file)
    (distinct : ¬ config.scope.Repeats config.ruleKey (files.map FileDescriptor.rules)) :
    buildRoutes config middleware resolver files =
      (config.group middleware).wholeTables resolver files := by
  have whole := RegistryScope.admitted_eq_self_iff.mpr distinct
  obtain ⟨last, made⟩ := tablesFrom_ok_iff.mpr ⟨usable, fun _ => whole, rfl⟩
  -- What is built is known from the admitted rules; only the counters have to be found.
  have last_eq : (tablesFrom config middleware resolver .empty .zero files).1 = _ :=
    tablesFrom_whole usable whole
  rw [whole] at made
  rw [made] at last_eq
  have routes_eq : ((files.map FileDescriptor.rules).map
      (config.tableOf middleware resolver)).map Table.routes =
        (config.group middleware).routesOf resolver files := by
    rw [List.map_map, List.map_map]
    rfl
  have shadowed_eq : Table.shadowed ((files.map FileDescriptor.rules).map
      (config.tableOf middleware resolver)) = Table.shadowed
        (((config.group middleware).routesOf resolver files).map (Table.mk .warn)) := by
    refine Table.shadowed_congr ?_
    rw [routes_eq, List.map_map]
    exact (List.map_id _).symm
  rw [buildRoutes, buildTables, made, Group.wholeTables, Group.flatten_routesOf, ← last_eq,
    ← shadowed_eq, ← routes_eq]
  rfl

theorem buildRoutes_built_iff :
    (∃ routes, (buildRoutes config middleware resolver files).2 = .ok routes) ↔
      (∀ file ∈ files, config.Usable resolver file) ∧
        (config.policy = .reject →
          ¬ config.scope.Repeats config.ruleKey (files.map FileDescriptor.rules)) := by
  have tables_iff : (∃ tables, (buildTables config middleware resolver files).2 = .ok tables) ↔ _ :=
    buildTables_built_iff
  rw [← tables_iff]
  simp [buildRoutes, except_map_eq_ok_iff]

/-- Files that are usable are mounted up to a duplicate. -/
theorem duplicate_of_tablesFrom {e : StartupError}
    (usable : ∀ file ∈ files, config.Usable resolver file)
    (stops : (tablesFrom config middleware resolver shared counters files).2 = .error e) :
    ∃ file ∈ files, ∃ r ∈ file.rules,
      e = ⟨file.name, .route (.duplicateRoute (config.ruleKey r))⟩ := by
  induction files generalizing shared counters with
  | nil => cases stops
  | cons file files ih =>
      obtain ⟨⟨⟨bindings, extracted⟩, handled, compiles⟩, usables⟩ :=
        List.forall_mem_cons.mp usable
      have named := FileDescriptor.isBound_of_bindings extracted
      rw [← FileDescriptor.handled_iff extracted] at handled
      rw [FileDescriptor.rules_eq extracted] at compiles
      rcases Group.mount_of_compiles (config.group middleware) (config.site shared counters)
        handled named compiles with ⟨_, after, report, done, _⟩ | ⟨_, _, after, r, mem, fails⟩
      · rw [tablesFrom_cons_mounted extracted done, Prod.map_snd] at stops
        obtain ⟨other, mem, r, known, e_eq⟩ := ih usables (except_map_eq_error_iff.mp stops)
        exact ⟨other, List.mem_cons_of_mem _ mem, r, known, e_eq⟩
      · rw [tablesFrom_cons_unmounted extracted fails] at stops
        refine ⟨file, List.mem_cons_self, r, ?_, (Except.error.inj stops).symm⟩
        rw [FileDescriptor.rules_eq extracted]
        exact mem

/-- Files that are usable are refused for duplicates only. -/
theorem duplicate_of_buildRoutes {e : StartupError}
    (usable : ∀ file ∈ files, config.Usable resolver file)
    (stops : (buildRoutes config middleware resolver files).2 = .error e) :
    ∃ file ∈ files, ∃ r ∈ file.rules,
      e = ⟨file.name, .route (.duplicateRoute (config.ruleKey r))⟩ := by
  rw [buildRoutes, Prod.map_snd, except_map_eq_error_iff, buildTables_snd] at stops
  exact duplicate_of_tablesFrom usable stops

/-- Where each rule has a text of its own, nothing is shadowed. -/
theorem duplicate_wholeTables (usable : ∀ file ∈ files, config.Usable resolver file)
    (distinct : ¬ RegistryScope.shared.Repeats config.ruleKey (files.map FileDescriptor.rules)) :
    ((config.group middleware).wholeTables resolver files).1.duplicate = .zero := by
  have keys_eq : (((config.group middleware).routesOf resolver files).map
      (Table.mk .warn)).flatMap Table.keys =
        (files.map FileDescriptor.rules).flatten.map config.ruleKey := by
    have handled := List.forall_mem_flatMap.mpr fun file mem => (usable file mem).handled
    have compiles := List.forall_mem_flatMap.mpr fun file mem => (usable file mem).compiles
    have mapped := Mount.map_key_filterMap_route? (g := config.group middleware) handled compiles
    rw [← Group.flatten_routesOf, List.map_flatten] at mapped
    rw [List.flatMap_map]
    exact mapped
  have none_shadowed : Table.shadowed (((config.group middleware).routesOf resolver files).map
      (Table.mk .warn)) = [] := by
    refine Table.shadowed_eq_nil ?_
    rw [keys_eq, List.map_map]
    exact RegistryScope.not_repeats_iff.mp distinct _ (List.mem_singleton_self _)
  rw [Group.wholeTables, none_shadowed]
  exact Counters.duplicate_addRoutes ..

end Tables

/-! ### Manifests -/

namespace Manifest

variable {base : String} {policy : DuplicatePolicy} {s after : State} {rs : List OwnedRule}

/-- Listing fresh rules counts nothing. -/
theorem counters_listRules (fresh : s.registry.Fresh (rs.map (ruleKey base))) :
    (listRules base policy s rs).1.counters = s.counters := by
  induction rs generalizing s with
  | nil => rfl
  | cons r rs ih =>
      rw [List.map_cons, Registry.fresh_cons] at fresh
      refine Eq.trans ?_ (ih (s := ⟨(s.registry.claim (ruleKey base r)).1, s.counters⟩) fresh.2)
      rw [listRules_cons_of_new fresh.1]
      rcases listRules base policy _ rs with ⟨last, e | entries⟩
      · rfl
      · rfl

/-- A list of rules ends early only at a duplicate. -/
theorem duplicate_of_listRules {e : ManifestError}
    (stops : (listRules base policy s rs).2 = .error e) :
    ∃ r ∈ rs, e = .duplicateRoute (ruleKey base r) := by
  induction rs generalizing s with
  | nil => cases stops
  | cons r rs ih =>
      by_cases held : s.registry.Holds (ruleKey base r)
      · cases policy with
        | reject =>
            rw [listRules_cons_of_reject held] at stops
            exact ⟨r, List.mem_cons_self, (Except.error.inj stops).symm⟩
        | warn =>
            rw [listRules_cons_of_warn held] at stops
            obtain ⟨other, mem, e_eq⟩ := ih stops
            exact ⟨other, List.mem_cons_of_mem _ mem, e_eq⟩
      · rw [listRules_cons_snd held] at stops
        obtain ⟨other, mem, e_eq⟩ := ih (except_map_eq_error_iff.mp stops)
        exact ⟨other, List.mem_cons_of_mem _ mem, e_eq⟩

end Manifest

section Manifests

variable {config : RoutingConfig} {shared : Registry} {counters : Counters}
  {files : List FileDescriptor}

/-- When all rules of files are admitted, listing them counts nothing. -/
theorem manifestFrom_whole
    (extracted : ∀ file ∈ files, ∃ bindings, file.bindings = .ok bindings)
    (whole : config.scope.admitted (Manifest.ruleKey config.base) shared
      (files.map FileDescriptor.rules) = files.map FileDescriptor.rules) :
    (manifestFrom config shared counters files).1 = counters := by
  induction files generalizing shared counters with
  | nil => rfl
  | cons file files ih =>
      obtain ⟨⟨bindings, extracted⟩, rest⟩ := List.forall_mem_cons.mp extracted
      obtain ⟨fresh, whole⟩ := RegistryScope.admitted_cons_eq_self_iff.mp whole
      rw [FileDescriptor.rules_eq extracted] at fresh whole
      rcases Manifest.listRules_spec config.base config.policy
        ⟨config.scope.registryFor shared, counters⟩ (Mount.rules bindings) with
        ⟨_, counters', lists⟩ | ⟨_, taken, _⟩
      · have same : (Manifest.listRules config.base config.policy
            ⟨config.scope.registryFor shared, counters⟩ (Mount.rules bindings)).1.counters =
              counters := Manifest.counters_listRules fresh
        rw [lists] at same
        rw [manifestFrom_cons_listed extracted lists, Prod.map_fst, id, ih rest whole]
        exact same
      · exact absurd fresh taken

/-- What the files give when all of their rules are listed. -/
def Manifest.whole (base : String) (files : List FileDescriptor) :
    Counters × Except StartupError (List ManifestEntry) :=
  (.zero, .ok ((files.flatMap FileDescriptor.rules).map (entry base)))

/-- Files that are extracted and in which nothing repeats give all of their entries. -/
theorem buildManifest_whole
    (extracted : ∀ file ∈ files, ∃ bindings, file.bindings = .ok bindings)
    (distinct : ¬ config.scope.Repeats (Manifest.ruleKey config.base)
      (files.map FileDescriptor.rules)) :
    buildManifest config files = Manifest.whole config.base files := by
  have whole := RegistryScope.admitted_eq_self_iff.mpr distinct
  refine Prod.ext (manifestFrom_whole extracted whole) ?_
  refine buildManifest_ok_iff.mpr ⟨extracted, fun _ => whole, ?_⟩
  rw [whole]
  rfl

/-- Files that are extracted are refused for duplicates only. -/
theorem duplicate_of_manifestFrom {e : StartupError}
    (extracted : ∀ file ∈ files, ∃ bindings, file.bindings = .ok bindings)
    (stops : (manifestFrom config shared counters files).2 = .error e) :
    ∃ file ∈ files, ∃ r ∈ file.rules,
      e = ⟨file.name, .manifest (.duplicateRoute (Manifest.ruleKey config.base r))⟩ := by
  induction files generalizing shared counters with
  | nil => cases stops
  | cons file files ih =>
      obtain ⟨⟨bindings, extracted⟩, rest⟩ := List.forall_mem_cons.mp extracted
      rcases listed : Manifest.list config.base config.policy
        ⟨config.scope.registryFor shared, counters⟩ bindings with ⟨after, fault | entries⟩
      · rw [manifestFrom_cons_unlisted extracted listed] at stops
        obtain rfl := Except.error.inj stops
        obtain ⟨r, mem, rfl⟩ := Manifest.duplicate_of_listRules (congrArg Prod.snd listed)
        refine ⟨file, List.mem_cons_self, r, ?_, rfl⟩
        rw [FileDescriptor.rules_eq extracted]
        exact mem
      · rw [manifestFrom_cons_listed extracted listed, Prod.map_snd] at stops
        obtain ⟨other, mem, r, known, e_eq⟩ := ih rest (except_map_eq_error_iff.mp stops)
        exact ⟨other, List.mem_cons_of_mem _ mem, r, known, e_eq⟩

end Manifests

/-! ### Policies and scopes -/

/-- The policy and the scope decide about duplicates only, for the routes of tables and for the
entries of manifests. Texts are those under the nested base for tables and under the base as it is
for manifests. -/
theorem duplicatesDecide_of_build [PatternEngine] (base : String) (middleware : List (Middleware H))
    (resolver : HandlerResolver H) :
    (DuplicatesDecide (fun key => .route (.duplicateRoute key)) (Group.root base : Group H).ruleKey
      fun policy scope => buildRoutes ⟨base, policy, scope⟩ middleware resolver) ∧
    DuplicatesDecide (fun key => .manifest (.duplicateRoute key)) (Manifest.ruleKey base)
      fun policy scope => buildManifest ⟨base, policy, scope⟩ := by
  constructor
  · -- Any configuration with this base tells the keys, the group and the usable files.
    let config (policy : DuplicatePolicy) (scope : RegistryScope) : RoutingConfig :=
      ⟨base, policy, scope⟩
    have usable_iff (policy : DuplicatePolicy) (scope : RegistryScope)
        (files : List FileDescriptor) :
        (∀ file ∈ files, (config .warn .shared).Usable resolver file) ↔
          ∀ file ∈ files, (config policy scope).Usable resolver file :=
      forall₂_congr fun _ _ => RoutingConfig.usable_iff_of_base rfl
    refine .of_whole ((config .warn .shared).Usable resolver)
      (((config .warn .shared).group middleware).wholeTables resolver) ?_ ?_ ?_ ?_
    · intro policy scope files
      rw [← RoutingConfig.ruleKey_eq (config policy scope), usable_iff policy scope]
      exact buildRoutes_built_iff
    · intro policy scope files usable distinct
      rw [← RoutingConfig.ruleKey_eq (config policy scope)] at distinct
      exact buildRoutes_whole ((usable_iff policy scope files).mp usable) distinct
    · intro files usable distinct
      rw [← RoutingConfig.ruleKey_eq (config .warn .shared)] at distinct
      exact duplicate_wholeTables usable distinct
    · intro scope files e usable stops
      rw [← RoutingConfig.ruleKey_eq (config .reject scope)]
      exact duplicate_of_buildRoutes ((usable_iff .reject scope files).mp usable) stops
  · refine .of_whole (fun file => ∃ bindings, file.bindings = .ok bindings) (Manifest.whole base)
      (fun _ _ _ => buildManifest_built_iff) ?_ (fun _ _ _ => rfl) ?_
    · intro policy scope files
      exact @buildManifest_whole ⟨base, policy, scope⟩ files
    · intro scope files e
      exact @duplicate_of_manifestFrom ⟨base, .reject, scope⟩ .empty .zero files e

/-- Two files bind one text. Over a shared registry it repeats, as only the strict policy refuses
the files. With a registry for each file both are mounted, and under both policies alike. -/
theorem duplicatesDecide_of_build_twice :
    RegistryScope.shared.Repeats (Group.root "/v1" : Group String).ruleKey
      ([.getter "a.proto" "a.A" "/items/{id}", .getter "b.proto" "b.B" "items/{id}"].map
        FileDescriptor.rules) ∧
    ∃ (counters : Counters) (routes : List (List (Route String))),
      counters.registered.total = 2 ∧
      buildRoutes ⟨"/v1", .warn, .table⟩ [] (fun service m => some (service ++ m.name))
        [.getter "a.proto" "a.A" "/items/{id}", .getter "b.proto" "b.B" "items/{id}"] =
          (counters, .ok routes) := by
  have decides := (duplicatesDecide_of_build "/v1" [] fun service m => some (service ++ m.name)).1
  have strict : buildRoutes ⟨"/v1", .reject, .shared⟩ [] (fun service m => some (service ++ m.name))
      [.getter "a.proto" "a.A" "/items/{id}", .getter "b.proto" "b.B" "items/{id}"] =
        (_, .error _) := rfl
  exact ⟨(decides.refused rfl strict).2, _, _, rfl, decides.same rfl⟩

end RpcRoutes
