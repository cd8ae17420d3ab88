import RpcRoutes.Proofs.Binding.Declarations
import RpcRoutes.Proofs.Startup.Listing

/-!
# What is built from files

When tables and manifests are built, and what they then hold. Files are claimed one after another
in one registry, or each in a new one; what a file gives is what its registry admits.

* `RegistryScope.admitted` lists what is admitted of each file. With a shared registry that is
  what the registry admits of all files together (`flatten_admitted_shared`), with a registry for
  each file it is what a new one admits of each (`admitted_table`).
* `RoutingConfig.Usable` holds of files whose rules can be mounted, duplicates aside.
* `buildTables_ok_iff` and `buildManifest_ok_iff`: files are built when all are usable and, where
  duplicates are errors, everything is admitted; what is built comes from the admitted rules.
* `flatMap_keys_tablesFrom`: the keys of all tables are those of the admitted rules.
-/

namespace RpcRoutes

variable {H : Type}

/-! ### Admission by scope -/

namespace RegistryScope

variable {α : Type}

/-- What is admitted of each list, when they are claimed in turn after earlier lists left a
registry. -/
def admitted (scope : RegistryScope) (key : α → RouteKey) :
    Registry → List (List α) → List (List α)
  | _, [] => []
  | r, xs :: xss =>
    (scope.registryFor r).admitted key xs ::
      admitted scope key (scope.carry r ((scope.registryFor r).claimAll key xs)) xss

variable {scope : RegistryScope} {key : α → RouteKey} {r : Registry} {xs : List α}
  {xss : List (List α)}

@[simp] theorem admitted_nil : scope.admitted key r [] = [] := rfl

@[simp] theorem admitted_cons : scope.admitted key r (xs :: xss) =
    (scope.registryFor r).admitted key xs ::
      scope.admitted key (scope.carry r ((scope.registryFor r).claimAll key xs)) xss := rfl

theorem length_admitted : (scope.admitted key r xss).length = xss.length := by
  induction xss generalizing r with
  | nil => rfl
  | cons xs xss ih => rw [admitted_cons, List.length_cons, List.length_cons, ih]

/-- A shared registry admits of lists in turn what it admits of them together. -/
theorem flatten_admitted_shared :
    (RegistryScope.shared.admitted key r xss).flatten = r.admitted key xss.flatten := by
  induction xss generalizing r with
  | nil => rfl
  | cons xs xss ih =>
      rw [admitted_cons, List.flatten_cons, List.flatten_cons, Registry.admitted_append, ih]
      rfl

/-- Registries of their own admit of each list what a new one does. -/
theorem admitted_table :
    RegistryScope.table.admitted key r xss = xss.map (Registry.empty.admitted key) := by
  induction xss with
  | nil => rfl
  | cons xs xss ih =>
      rw [admitted_cons, List.map_cons, ← ih]
      rfl

/-- All of the lists is admitted when the first is fresh in its registry, and all of the others is
admitted after it. -/
theorem admitted_cons_eq_self_iff : scope.admitted key r (xs :: xss) = xs :: xss ↔
    (scope.registryFor r).Fresh (xs.map key) ∧
      scope.admitted key (scope.carry r ((scope.registryFor r).claimAll key xs)) xss = xss := by
  rw [admitted_cons, List.cons.injEq, Registry.admitted_eq_self_iff]

theorem admitted_shared_eq_self_iff :
    RegistryScope.shared.admitted key r xss = xss ↔ r.Fresh (xss.flatten.map key) := by
  induction xss generalizing r with
  | nil => simp [Registry.Fresh]
  | cons xs xss ih =>
      rw [admitted_cons_eq_self_iff, List.flatten_cons, Registry.fresh_append, carry, ih]
      rfl

/-- Whatever the scope, every text is admitted somewhere. -/
theorem mem_texts_admitted {text : String} :
    text ∈ (scope.admitted key .empty xss).flatten.map (fun x => (key x).text) ↔
      text ∈ xss.flatten.map fun x => (key x).text := by
  cases scope with
  | shared => rw [flatten_admitted_shared, Registry.mem_texts_admitted]
  | table =>
      rw [admitted_table]
      simp only [List.map_flatten, List.mem_flatten, List.mem_map, List.map_map]
      constructor
      · rintro ⟨_, ⟨xs, known, rfl⟩, mem⟩
        exact ⟨_, ⟨xs, known, rfl⟩, (Registry.mem_texts_admitted xs).mp mem⟩
      · rintro ⟨_, ⟨xs, known, rfl⟩, mem⟩
        exact ⟨_, ⟨xs, known, rfl⟩, (Registry.mem_texts_admitted xs).mpr mem⟩

end RegistryScope

/-! ### Usable files -/

namespace FileDescriptor

variable {file : FileDescriptor} {bindings : List ServiceBinding}

/-- A file is extracted when no service has a fault, and then gives all services that are bound. -/
theorem bindings_eq_ok_iff : file.bindings = .ok bindings ↔
    (∀ s ∈ file.services, s.fault? = none) ∧
      bindings = file.services.filterMap ServiceDefinition.binding? := by
  have result : file.bindings = faultOr _ _ := ServiceDefinition.bindings_eq file.services
  rw [result, ← List.findSome?_eq_none_iff]
  cases file.services.findSome? ServiceDefinition.fault? with
  | some e => simp [faultOr]
  | none => simp [faultOr, eq_comm]

/-- Every method that is extracted from a file has a rule. -/
theorem rules_ne_nil_of_bindings (extracted : file.bindings = .ok bindings) :
    ∀ m ∈ Mount.methodsOf bindings, m.2.rules ≠ [] := by
  intro m mem
  obtain ⟨service, known, inside⟩ := List.mem_flatMap.mp mem
  obtain ⟨method, declared, rfl⟩ := List.mem_map.mp inside
  obtain ⟨_, rfl⟩ := bindings_eq_ok_iff.mp extracted
  obtain ⟨_, _, kept⟩ := List.mem_filterMap.mp known
  exact (ServiceDefinition.binding?_nonempty kept).2 method declared

/-- The methods of a file have handlers when its rules do. -/
theorem handled_iff {resolver : HandlerResolver H} (extracted : file.bindings = .ok bindings) :
    (∀ m ∈ Mount.methodsOf bindings, resolver m.1 m.2 ≠ none) ↔
      ∀ r ∈ file.rules, resolver r.service r.method ≠ none := by
  rw [rules_eq extracted]
  constructor
  · exact Mount.Checked.handled_rules
  · intro handled m mem
    obtain ⟨rule, bound⟩ := List.exists_mem_of_ne_nil _ (rules_ne_nil_of_bindings extracted m mem)
    refine handled ⟨m.1, m.2, rule⟩ ?_
    rw [← Mount.flatMap_methodRules]
    exact List.mem_flatMap.mpr ⟨m, mem, List.mem_map_of_mem bound⟩

end FileDescriptor

namespace RoutingConfig

/-- A file whose rules can be mounted, unless one is a duplicate: they can be extracted, and each
has a handler and a template. -/
structure Usable [PatternEngine] (config : RoutingConfig) (resolver : HandlerResolver H)
    (file : FileDescriptor) : Prop where
  extracted : ∃ bindings, file.bindings = .ok bindings
  handled : ∀ r ∈ file.rules, resolver r.service r.method ≠ none
  compiles : ∀ r ∈ file.rules, Template.Compiles (config.ruleKey r).pattern

def tableOf [PatternEngine] (config : RoutingConfig) (middleware : List (Middleware H))
    (resolver : HandlerResolver H) (rs : List OwnedRule) : Table H :=
  ⟨config.policy, rs.filterMap ((config.group middleware).route? resolver)⟩

end RoutingConfig

theorem snd_eq_iff {α β : Type} {p : α × β} {b : β} : p.2 = b ↔ ∃ a, p = (a, b) := by
  cases p
  simp

section Build

open Mount

variable [PatternEngine] {config : RoutingConfig} {middleware : List (Middleware H)}
  {resolver : HandlerResolver H} {shared : Registry} {counters last : Counters}
  {file : FileDescriptor} {files : List FileDescriptor} {bindings : List ServiceBinding}
  {tables : List (Table H)}

/-- The rules of a file are mountable when it is usable and has no duplicates where these are
errors. -/
theorem mountable_iff_usable (extracted : file.bindings = .ok bindings) :
    ((∀ m ∈ methodsOf bindings, resolver m.1 m.2 ≠ none) ∧
        Mountable (config.group middleware) (config.site shared counters) (rules bindings)) ↔
      config.Usable resolver file ∧
        (config.policy = .reject →
          (config.scope.registryFor shared).Fresh (file.rules.map config.ruleKey)) := by
  rw [FileDescriptor.handled_iff extracted, ← FileDescriptor.rules_eq extracted]
  constructor
  · rintro ⟨handled, _, compiles, fresh⟩
    exact ⟨⟨⟨bindings, extracted⟩, handled, compiles⟩, fresh⟩
  · rintro ⟨⟨_, handled, compiles⟩, fresh⟩
    refine ⟨handled, ?_, compiles, fresh⟩
    rw [FileDescriptor.rules_eq extracted]
    exact FileDescriptor.isBound_of_bindings extracted

/-- Tables are built when all files are usable and, where duplicates are errors, everything is
admitted. Each then holds the routes of the rules that are admitted of its file. -/
theorem tablesFrom_ok_iff :
    (∃ last, tablesFrom config middleware resolver shared counters files = (last, .ok tables)) ↔
      (∀ file ∈ files, config.Usable resolver file) ∧
      (config.policy = .reject →
        config.scope.admitted config.ruleKey shared (files.map FileDescriptor.rules) =
          files.map FileDescriptor.rules) ∧
      tables = (config.scope.admitted config.ruleKey shared (files.map FileDescriptor.rules)).map
        (config.tableOf middleware resolver) := by
  induction files generalizing shared counters tables with
  | nil =>
      simp only [tablesFrom_nil_ok_iff]
      constructor
      · rintro ⟨last, _, rfl⟩
        exact ⟨List.forall_mem_nil _, fun _ => rfl, rfl⟩
      · rintro ⟨_, _, rfl⟩
        exact ⟨counters, rfl, rfl⟩
  | cons file files ih =>
      rw [List.forall_mem_cons, List.map_cons, RegistryScope.admitted_cons_eq_self_iff,
        RegistryScope.admitted_cons, List.map_cons]
      simp only [tablesFrom_cons_ok_iff]
      -- The first table and the registry after it are given by the first file's rules.
      have mounted {bindings : List ServiceBinding} {after : Site H}
          (extracted : file.bindings = .ok bindings)
          (mounts : Mounts (config.group middleware) (config.site shared counters) resolver
            (rules bindings) after) :
          after.registry = (config.scope.registryFor shared).claimAll config.ruleKey file.rules ∧
            after.table = config.tableOf middleware resolver
              ((config.scope.registryFor shared).admitted config.ruleKey file.rules) := by
        rw [FileDescriptor.rules_eq extracted]
        exact ⟨mounts.registry_eq, mounts.table_eq⟩
      constructor
      · rintro ⟨last, bindings, after, report, rest, extracted, done, later, rfl⟩
        obtain ⟨handled, mountable, mounts⟩ := Group.mounts_of_mount_ok done
        obtain ⟨registry_eq, table_eq⟩ := mounted extracted mounts
        obtain ⟨usable, fresh⟩ := (mountable_iff_usable extracted).mp ⟨handled, mountable⟩
        obtain ⟨usables, whole, rest_eq⟩ := ih.mp ⟨last, later⟩
        rw [registry_eq] at whole rest_eq
        exact ⟨⟨usable, usables⟩, fun policy => ⟨fresh policy, whole policy⟩,
          by rw [table_eq, rest_eq]⟩
      · rintro ⟨⟨usable, usables⟩, whole, rfl⟩
        obtain ⟨bindings, extracted⟩ := usable.extracted
        obtain ⟨handled, mountable⟩ := (mountable_iff_usable extracted).mpr
          ⟨usable, fun policy => (whole policy).1⟩
        obtain ⟨after, report, done⟩ := Group.mount_ok_of_mountable handled mountable
        obtain ⟨registry_eq, table_eq⟩ :=
          mounted extracted (Group.mounts_of_mount_ok done).2.2
        rw [← registry_eq] at whole ⊢
        obtain ⟨last, later⟩ := ih.mpr ⟨usables, fun policy => (whole policy).2, rfl⟩
        exact ⟨last, bindings, after, report, _, extracted, done, later, by rw [table_eq]⟩

/-- The keys of the tables are those of the rules that are admitted. -/
theorem flatMap_keys_tablesFrom
    (built : tablesFrom config middleware resolver shared counters files = (last, .ok tables)) :
    tables.flatMap Table.keys = (config.scope.admitted config.ruleKey shared
      (files.map FileDescriptor.rules)).flatten.map config.ruleKey := by
  induction files generalizing shared counters tables with
  | nil =>
      obtain ⟨_, rfl⟩ := tablesFrom_nil_ok_iff.mp built
      rfl
  | cons file files ih =>
      obtain ⟨bindings, after, rest, extracted, handled, mountable, mounts, later, rfl⟩ :=
        tablesFrom_cons_ok built
      rw [List.flatMap_cons, ih later, mounts.keys_eq handled mountable.compiles,
        mounts.registry_eq, List.map_cons, RegistryScope.admitted_cons, List.flatten_cons,
        List.map_append, FileDescriptor.rules_eq extracted]
      rfl

theorem buildTables_ok_iff : (buildTables config middleware resolver files).2 = .ok tables ↔
    (∀ file ∈ files, config.Usable resolver file) ∧
      (config.policy = .reject →
        config.scope.admitted config.ruleKey .empty (files.map FileDescriptor.rules) =
          files.map FileDescriptor.rules) ∧
      tables = (config.scope.admitted config.ruleKey .empty (files.map FileDescriptor.rules)).map
        (config.tableOf middleware resolver) := by
  rw [buildTables_snd, snd_eq_iff, tablesFrom_ok_iff]

/-- Every file gives one table. -/
theorem length_of_buildTables
    (built : (buildTables config middleware resolver files).2 = .ok tables) :
    tables.length = files.length := by
  obtain ⟨_, _, rfl⟩ := buildTables_ok_iff.mp built
  rw [List.length_map, RegistryScope.length_admitted, List.length_map]

end Build

section List

variable {config : RoutingConfig} {shared : Registry} {counters : Counters}
  {files : List FileDescriptor} {entries : List ManifestEntry}

/-- A manifest is made when all files are extracted and, where duplicates are errors, everything
is admitted. It then lists the rules that are admitted. -/
theorem manifestFrom_ok_iff :
    (∃ last, manifestFrom config shared counters files = (last, .ok entries)) ↔
      (∀ file ∈ files, ∃ bindings, file.bindings = .ok bindings) ∧
      (config.policy = .reject →
        config.scope.admitted (Manifest.ruleKey config.base) shared
          (files.map FileDescriptor.rules) = files.map FileDescriptor.rules) ∧
      entries = (config.scope.admitted (Manifest.ruleKey config.base) shared
        (files.map FileDescriptor.rules)).flatten.map (Manifest.entry config.base) := by
  induction files generalizing shared counters entries with
  | nil =>
      rw [manifestFrom]
      constructor
      · rintro ⟨last, listed⟩
        obtain rfl := Except.ok.inj (Prod.mk.inj listed).2
        exact ⟨List.forall_mem_nil _, fun _ => rfl, rfl⟩
      · rintro ⟨_, _, rfl⟩
        exact ⟨counters, rfl⟩
  | cons file files ih =>
      rw [List.forall_mem_cons, List.map_cons, RegistryScope.admitted_cons_eq_self_iff,
        RegistryScope.admitted_cons, List.flatten_cons, List.map_append]
      cases extracted : file.bindings with
      | error e =>
          rw [manifestFrom_cons_unextracted extracted]
          simp
      | ok bindings =>
          rw [FileDescriptor.rules_eq extracted]
          rcases Manifest.listRules_spec config.base config.policy
            ⟨config.scope.registryFor shared, counters⟩ (Mount.rules bindings) with
            ⟨fresh, counters', lists⟩ | ⟨reject, taken, after, key, stops⟩
          · rw [manifestFrom_cons_listed extracted lists]
            simp only [map_eq_ok_iff]
            constructor
            · rintro ⟨last, rest, later, rfl⟩
              obtain ⟨all, whole, rest_eq⟩ := ih.mp ⟨last, later⟩
              exact ⟨⟨⟨bindings, rfl⟩, all⟩, fun policy => ⟨fresh policy, whole policy⟩,
                by rw [rest_eq]⟩
            · rintro ⟨⟨_, all⟩, whole, rfl⟩
              obtain ⟨last, later⟩ := ih.mpr ⟨all, fun policy => (whole policy).2, rfl⟩
              exact ⟨last, _, later, rfl⟩
          · rw [manifestFrom_cons_unlisted extracted stops]
            apply iff_of_false
            · simp
            · rintro ⟨_, whole, _⟩
              exact taken (whole reject).1

theorem buildManifest_ok_iff : (buildManifest config files).2 = .ok entries ↔
    (∀ file ∈ files, ∃ bindings, file.bindings = .ok bindings) ∧
      (config.policy = .reject →
        config.scope.admitted (Manifest.ruleKey config.base) .empty
          (files.map FileDescriptor.rules) = files.map FileDescriptor.rules) ∧
      entries = (config.scope.admitted (Manifest.ruleKey config.base) .empty
        (files.map FileDescriptor.rules)).flatten.map (Manifest.entry config.base) := by
  rw [buildManifest, snd_eq_iff, manifestFrom_ok_iff]

end List

end RpcRoutes
