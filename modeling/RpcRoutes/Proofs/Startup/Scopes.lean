import Mathlib.Data.List.Forall2
import RpcRoutes.Proofs.Routing.Counting
import RpcRoutes.Proofs.Startup.Building

/-!
# Scopes of registries

What the scope of registries means for files that are built together.

* With a shared registry files are built as one file with the services of all: `Merges` says so of
  a way of building.
* With a registry for each file they are built one by one: `OneByOne` says that each gives what it
  gives alone, and that the first one that fails alone gives its failure.
* `OneByOne.of_step`: so it is when the state that files hand on changes nothing.
* `build_of_scope` says both of tables and of manifests.
-/

namespace RpcRoutes

variable {H : Type}

/-! ### Ways of building -/

/-- One file with the services of all files. -/
def FileDescriptor.merged (name : String) (syntaxMarker edition : Option String)
    (files : List FileDescriptor) : FileDescriptor :=
  ⟨name, syntaxMarker, edition, files.flatMap FileDescriptor.services⟩

/-- Files are built when one file with all of their services is, and give the same. -/
def Merges {ε α : Type} (build : List FileDescriptor → Except ε (List α)) : Prop :=
  ∀ (files : List FileDescriptor) (name : String) (syntaxMarker edition : Option String)
    (made : List α),
    build files = .ok made ↔ build [.merged name syntaxMarker edition files] = .ok made

/-- Files are built when each of them is built alone, and give what these give, one after another.
Otherwise the first one that fails alone says why. -/
structure OneByOne {ε α : Type} (build : List FileDescriptor → Except ε (List α)) : Prop where
  ok_iff : ∀ (files : List FileDescriptor) (made : List α), build files = .ok made ↔
    ∃ parts, List.Forall₂ (fun file part => build [file] = .ok part) files parts ∧
      made = parts.flatten
  error_iff : ∀ (files : List FileDescriptor) (e : ε), build files = .error e ↔
    ∃ front file back, files = front ++ file :: back ∧
      (∀ earlier ∈ front, ∃ part, build [earlier] = .ok part) ∧ build [file] = .error e

section OneByOne

variable {ε α σ : Type} {build : List FileDescriptor → Except ε (List α)}
  {file : FileDescriptor} {files : List FileDescriptor} {made : List α} {e : ε}

section Cons

variable (cons : ∀ file files, build (file :: files) =
  (build [file]).bind fun part => (build files).map (part ++ ·))

include cons

theorem cons_ok_iff : build (file :: files) = .ok made ↔
    ∃ part rest, build [file] = .ok part ∧ build files = .ok rest ∧ made = part ++ rest := by
  rw [cons]
  cases build [file] with
  | error e => simp [Except.bind]
  | ok part =>
      cases build files with
      | error e => simp [Except.bind, Except.map]
      | ok rest => simp [Except.bind, Except.map, eq_comm]

theorem cons_error_iff : build (file :: files) = .error e ↔
    build [file] = .error e ∨ (∃ part, build [file] = .ok part) ∧ build files = .error e := by
  rw [cons]
  cases build [file] with
  | error e' => simp [Except.bind]
  | ok part =>
      cases build files with
      | error e' => simp [Except.bind, Except.map]
      | ok rest => simp [Except.bind, Except.map]

/-- Files are built one by one when the first of them is built alone and the others apart from
it. -/
theorem OneByOne.of_cons (nil : build [] = .ok []) : OneByOne build where
  ok_iff files made := by
    induction files generalizing made with
    | nil => simp [nil, eq_comm (a := [])]
    | cons file files ih =>
        rw [cons_ok_iff cons]
        constructor
        · rintro ⟨part, rest, first, later, rfl⟩
          obtain ⟨parts, each, rfl⟩ := (ih rest).mp later
          exact ⟨part :: parts, .cons first each, rfl⟩
        · rintro ⟨_, each, rfl⟩
          cases each with
          | @cons _ part _ parts first each =>
              exact ⟨part, parts.flatten, first, (ih _).mpr ⟨parts, each, rfl⟩, rfl⟩
  error_iff files e := by
    induction files with
    | nil => simp [nil]
    | cons file files ih =>
        rw [cons_error_iff cons, ih]
        constructor
        · rintro (fails | ⟨first, front, other, back, rfl, before, fails⟩)
          · exact ⟨[], file, files, rfl, List.forall_mem_nil _, fails⟩
          · exact ⟨file :: front, other, back, rfl, List.forall_mem_cons.mpr ⟨first, before⟩, fails⟩
        · rintro ⟨_ | ⟨first, front⟩, other, back, split, before, fails⟩
          · obtain ⟨rfl, rfl⟩ := List.cons.inj split
            exact Or.inl fails
          · obtain ⟨rfl, rfl⟩ := List.cons.inj split
            obtain ⟨first, before⟩ := List.forall_mem_cons.mp before
            exact Or.inr ⟨first, front, other, back, rfl, before, fails⟩

end Cons

/-- Files are built one by one when a state is handed on that changes nothing: whatever state a
file starts with, it gives one part, and the files after it are built from some state. -/
theorem OneByOne.of_step (build : σ → List FileDescriptor → Except ε (List α))
    (nil : ∀ s, build s [] = .ok [])
    (step : ∀ file, ∃ part : Except ε (List α), ∀ s files, ∃ s', build s (file :: files) =
      part.bind fun xs => (build s' files).map (xs ++ ·)) (start : σ) :
    OneByOne (build start) := by
  have stateless (files : List FileDescriptor) (s s' : σ) : build s files = build s' files := by
    induction files generalizing s s' with
    | nil => rw [nil, nil]
    | cons file files ih =>
        obtain ⟨part, gives⟩ := step file
        obtain ⟨t, eq⟩ := gives s files
        obtain ⟨t', eq'⟩ := gives s' files
        rw [eq, eq', ih t t']
  refine .of_cons (fun file files => ?_) (nil start)
  obtain ⟨part, gives⟩ := step file
  obtain ⟨s, eq⟩ := gives start files
  obtain ⟨s', eq'⟩ := gives start []
  rw [eq, eq', nil, stateless files s start]
  cases part with
  | error e => rfl
  | ok xs => simp [Except.bind, Except.map]

end OneByOne

/-! ### One file with all services -/

namespace FileDescriptor

variable {name : String} {syntaxMarker edition : Option String} {file : FileDescriptor}
  {files : List FileDescriptor}

theorem extracted_iff : (∃ bindings, file.bindings = .ok bindings) ↔
    ∀ s ∈ file.services, s.fault? = none := by
  simp only [bindings_eq_ok_iff]
  exact exists_and_left.trans (and_iff_left ⟨_, rfl⟩)

theorem extracted_merged_iff :
    (∃ bindings, (merged name syntaxMarker edition files).bindings = .ok bindings) ↔
      ∀ file ∈ files, ∃ bindings, file.bindings = .ok bindings := by
  simp only [extracted_iff, merged, List.mem_flatMap]
  constructor
  · intro faultless file mem s declared
    exact faultless s ⟨file, mem, declared⟩
  · rintro faultless s ⟨file, mem, declared⟩
    exact faultless file mem s declared

theorem rules_of_extracted (extracted : ∃ bindings, file.bindings = .ok bindings) :
    file.rules = (file.services.filterMap ServiceDefinition.binding?).flatMap
      ServiceBinding.rules := by
  obtain ⟨bindings, extracted⟩ := extracted
  rw [rules_eq extracted, (bindings_eq_ok_iff.mp extracted).2]
  rfl

/-- One file with the services of all has the rules of all. -/
theorem rules_merged (extracted : ∀ file ∈ files, ∃ bindings, file.bindings = .ok bindings) :
    (merged name syntaxMarker edition files).rules = files.flatMap rules := by
  have each : files.flatMap rules = files.flatMap fun file =>
      (file.services.filterMap ServiceDefinition.binding?).flatMap ServiceBinding.rules :=
    List.flatMap_congr fun file mem => rules_of_extracted (extracted file mem)
  rw [each, rules_of_extracted (extracted_merged_iff.mpr extracted), merged,
    List.filterMap_flatMap, List.flatMap_assoc]

end FileDescriptor

/-- One file with the services of all is usable when they all are. -/
theorem RoutingConfig.usable_merged_iff [PatternEngine] {config : RoutingConfig}
    {resolver : HandlerResolver H}
    {files : List FileDescriptor} {name : String} {syntaxMarker edition : Option String} :
    config.Usable resolver (.merged name syntaxMarker edition files) ↔
      ∀ file ∈ files, config.Usable resolver file := by
  constructor
  · rintro ⟨extracted, handled, compiles⟩
    have each := FileDescriptor.extracted_merged_iff.mp extracted
    rw [FileDescriptor.rules_merged each, List.forall_mem_flatMap] at handled compiles
    intro file mem
    exact ⟨each file mem, handled file mem, compiles file mem⟩
  · intro usable
    have each : ∀ file ∈ files, ∃ bindings, file.bindings = .ok bindings :=
      fun file mem => (usable file mem).extracted
    refine ⟨FileDescriptor.extracted_merged_iff.mpr each, ?_, ?_⟩
    · rw [FileDescriptor.rules_merged each, List.forall_mem_flatMap]
      exact fun file mem => (usable file mem).handled
    · rw [FileDescriptor.rules_merged each, List.forall_mem_flatMap]
      exact fun file mem => (usable file mem).compiles

section Shared

variable {config : RoutingConfig} (scope : config.scope = .shared)
  {middleware : List (Middleware H)} {resolver : HandlerResolver H} {files : List FileDescriptor}

include scope

/-- With a shared registry the routes are those that a new one admits of all rules. -/
theorem routes_shared_iff [PatternEngine] {routes : List (Route H)} :
    (buildTables config middleware resolver files).2.map (List.flatMap Table.routes) =
        .ok routes ↔
      (∀ file ∈ files, config.Usable resolver file) ∧
        (config.policy = .reject → Registry.empty.Fresh
          ((files.flatMap FileDescriptor.rules).map config.ruleKey)) ∧
        routes = (Registry.empty.admitted config.ruleKey
          (files.flatMap FileDescriptor.rules)).filterMap
            ((config.group middleware).route? resolver) := by
  have routes_eq (rss : List (List OwnedRule)) :
      (rss.map (config.tableOf middleware resolver)).flatMap Table.routes =
        rss.flatten.filterMap ((config.group middleware).route? resolver) := by
    rw [List.flatMap_map, List.filterMap_flatten]
    rfl
  simp only [except_map_eq_ok_iff, buildTables_ok_iff, scope,
    RegistryScope.admitted_shared_eq_self_iff]
  constructor
  · rintro ⟨_, ⟨usable, fresh, rfl⟩, rfl⟩
    refine ⟨usable, fresh, ?_⟩
    rw [routes_eq, RegistryScope.flatten_admitted_shared]
    rfl
  · rintro ⟨usable, fresh, rfl⟩
    refine ⟨_, ⟨usable, fresh, rfl⟩, ?_⟩
    rw [routes_eq, RegistryScope.flatten_admitted_shared]
    rfl

theorem entries_shared_iff {entries : List ManifestEntry} :
    (buildManifest config files).2 = .ok entries ↔
      (∀ file ∈ files, ∃ bindings, file.bindings = .ok bindings) ∧
        (config.policy = .reject → Registry.empty.Fresh
          ((files.flatMap FileDescriptor.rules).map (Manifest.ruleKey config.base))) ∧
        entries = (Registry.empty.admitted (Manifest.ruleKey config.base)
          (files.flatMap FileDescriptor.rules)).map (Manifest.entry config.base) := by
  rw [buildManifest_ok_iff, scope, RegistryScope.admitted_shared_eq_self_iff,
    RegistryScope.flatten_admitted_shared]
  rfl

theorem merges_tables [PatternEngine] : Merges fun files =>
    (buildTables config middleware resolver files).2.map (List.flatMap Table.routes) := by
  intro files name syntaxMarker edition routes
  rw [routes_shared_iff scope, routes_shared_iff scope, List.forall_mem_singleton,
    RoutingConfig.usable_merged_iff, List.flatMap_singleton]
  refine and_congr_right fun usable => ?_
  rw [FileDescriptor.rules_merged fun file mem => (usable file mem).extracted]

theorem merges_manifests : Merges fun files => (buildManifest config files).2 := by
  intro files name syntaxMarker edition entries
  rw [entries_shared_iff scope, entries_shared_iff scope, List.forall_mem_singleton,
    FileDescriptor.extracted_merged_iff, List.flatMap_singleton]
  refine and_congr_right fun extracted => ?_
  rw [FileDescriptor.rules_merged extracted]

end Shared

/-! ### Files one by one -/

namespace Manifest

/-- The entry of a rule whose text is new comes before those of the others. -/
theorem listRules_cons_snd {base : String} {policy : DuplicatePolicy} {s : State} {r : OwnedRule}
    {rs : List OwnedRule} (new : ¬ s.registry.Holds (ruleKey base r)) :
    (listRules base policy s (r :: rs)).2 =
      (listRules base policy ⟨(s.registry.claim (ruleKey base r)).1, s.counters⟩ rs).2.map
        (entry base r :: ·) := by
  rw [listRules_cons_of_new new]
  rcases listRules base policy _ rs with ⟨after, e | entries⟩ <;> rfl

/-- What comes of listing rules does not depend on the counters. -/
theorem listRules_recounted (base : String) (policy : DuplicatePolicy) (r : Registry)
    (c c' : Counters) (rs : List OwnedRule) :
    (listRules base policy ⟨r, c'⟩ rs).2 = (listRules base policy ⟨r, c⟩ rs).2 := by
  induction rs generalizing r c c' with
  | nil => rfl
  | cons rule rs ih =>
      by_cases held : r.Holds (ruleKey base rule)
      · cases policy with
        | reject =>
            rw [listRules_cons_of_reject (s := ⟨r, c⟩) held,
              listRules_cons_of_reject (s := ⟨r, c'⟩) held]
        | warn =>
            rw [listRules_cons_of_warn (s := ⟨r, c⟩) held,
              listRules_cons_of_warn (s := ⟨r, c'⟩) held]
            exact ih ..
      · rw [listRules_cons_snd (s := ⟨r, c⟩) held, listRules_cons_snd (s := ⟨r, c'⟩) held]
        exact congrArg _ (ih ..)

end Manifest

section Alone

variable {config : RoutingConfig} (scope : config.scope = .table)
  (middleware : List (Middleware H)) (resolver : HandlerResolver H)

include scope

/-- With a registry for each file, a file gives one table or failure whatever was before it. -/
theorem tablesFrom_step [PatternEngine] (file : FileDescriptor) :
    ∃ part : Except StartupError (List (Table H)),
      ∀ (s : Registry × Counters) (files : List FileDescriptor), ∃ s' : Registry × Counters,
        (tablesFrom config middleware resolver s.1 s.2 (file :: files)).2 =
          part.bind fun ts => (tablesFrom config middleware resolver s'.1 s'.2 files).2.map
            (ts ++ ·) := by
  cases extracted : file.bindings with
  | error e =>
      refine ⟨.error ⟨file.name, .binding e⟩, fun s files => ⟨s, ?_⟩⟩
      rw [tablesFrom_cons_unextracted extracted]
      rfl
  | ok bindings =>
      have other (s : Registry × Counters) : ∃ c,
          (config.group middleware).mount (config.site s.1 s.2) bindings resolver =
            (((config.group middleware).mount (config.site .empty .zero) bindings
                resolver).1.recounted c,
              ((config.group middleware).mount (config.site .empty .zero) bindings
                resolver).2) := by
        have same : (config.site .empty .zero : Site H).recounted s.2 = config.site s.1 s.2 := by
          simp [RoutingConfig.site, Site.recounted, scope, RegistryScope.registryFor]
        rw [← same]
        exact Group.mount_recounted ..
      rcases result : (config.group middleware).mount (config.site .empty .zero) bindings resolver
        with ⟨after, e | report⟩
      · refine ⟨.error ⟨file.name, .route e⟩, fun s files => ⟨s, ?_⟩⟩
        obtain ⟨c, fails⟩ := other s
        rw [result] at fails
        rw [tablesFrom_cons_unmounted extracted fails]
        rfl
      · refine ⟨.ok [after.table], fun s files => ?_⟩
        obtain ⟨c, done⟩ := other s
        rw [result] at done
        rw [tablesFrom_cons_mounted extracted done]
        exact ⟨(_, _), rfl⟩

/-- With a registry for each file, a file gives its entries or failure whatever was before it. -/
theorem manifestFrom_step (file : FileDescriptor) :
    ∃ part : Except StartupError (List ManifestEntry),
      ∀ (s : Registry × Counters) (files : List FileDescriptor), ∃ s' : Registry × Counters,
        (manifestFrom config s.1 s.2 (file :: files)).2 =
          part.bind fun entries => (manifestFrom config s'.1 s'.2 files).2.map (entries ++ ·) := by
  cases extracted : file.bindings with
  | error e =>
      refine ⟨.error ⟨file.name, .binding e⟩, fun s files => ⟨s, ?_⟩⟩
      rw [manifestFrom_cons_unextracted extracted]
      rfl
  | ok bindings =>
      have recounted (s : Registry × Counters) :
          (Manifest.list config.base config.policy ⟨config.scope.registryFor s.1, s.2⟩
            bindings).2 = (Manifest.list config.base config.policy ⟨.empty, .zero⟩ bindings).2 := by
        rw [scope]
        exact Manifest.listRules_recounted ..
      cases result : (Manifest.list config.base config.policy ⟨.empty, .zero⟩ bindings).2 with
      | error e =>
          refine ⟨.error ⟨file.name, .manifest e⟩, fun s files => ⟨s, ?_⟩⟩
          rw [manifestFrom_cons_unlisted extracted (Prod.ext rfl ((recounted s).trans result))]
          rfl
      | ok entries =>
          refine ⟨.ok entries, fun s files => ?_⟩
          rw [manifestFrom_cons_listed extracted (Prod.ext rfl ((recounted s).trans result))]
          exact ⟨(_, _), rfl⟩

theorem oneByOne_tables [PatternEngine] :
    OneByOne fun files => (buildTables config middleware resolver files).2 := by
  simp only [buildTables_snd]
  exact .of_step
    (fun (s : Registry × Counters) files => (tablesFrom config middleware resolver s.1 s.2 files).2)
    (fun _ => rfl) (tablesFrom_step scope middleware resolver) (.empty, .zero)

theorem oneByOne_manifests : OneByOne fun files => (buildManifest config files).2 :=
  .of_step (fun (s : Registry × Counters) files => (manifestFrom config s.1 s.2 files).2)
    (fun _ => rfl) (manifestFrom_step scope) (.empty, .zero)

end Alone

/-! ### Scopes -/

/-- With a shared registry, files give tables and a manifest when one file with the services of
all does, and then the same routes and entries. With a registry for each, the tables and the
manifest of each file are those that it has alone, and the first file that fails alone says why
nothing was built. Every file has one table. -/
theorem build_of_scope [PatternEngine] (base : String) (policy : DuplicatePolicy)
    (middleware : List (Middleware H)) (resolver : HandlerResolver H) :
    (Merges fun files =>
      (buildTables ⟨base, policy, .shared⟩ middleware resolver files).2.map
        (List.flatMap Table.routes)) ∧
    (Merges fun files => (buildManifest ⟨base, policy, .shared⟩ files).2) ∧
    (OneByOne fun files => (buildTables ⟨base, policy, .table⟩ middleware resolver files).2) ∧
    (OneByOne fun files => (buildManifest ⟨base, policy, .table⟩ files).2) ∧
    ∀ (scope : RegistryScope) (files : List FileDescriptor) (tables : List (Table H)),
      (buildTables ⟨base, policy, scope⟩ middleware resolver files).2 = .ok tables →
        tables.length = files.length := by
  exact ⟨merges_tables rfl, merges_manifests rfl, oneByOne_tables rfl middleware resolver,
    oneByOne_manifests rfl, fun _ _ _ => length_of_buildTables⟩

end RpcRoutes
