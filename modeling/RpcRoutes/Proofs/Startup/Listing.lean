import RpcRoutes.Program.Engine
import RpcRoutes.Proofs.Binding.Extraction
import RpcRoutes.Proofs.Startup.Tables

/-!
# Manifests and tables

A manifest lists what the tables of the same files would hold. Listing claims rule by rule in one
pass, mounting plans first and claims after that; they come to the same decision about every
rule, since both admit the rules whose texts are new.

* `Manifest.listRules_spec`: rules are listed where duplicates are left out or their keys are fresh,
  and the entries are those of the admitted rules.
* `Manifest.Agrees` says that a manifest and tables have the same routes, or fail at the same file
  for the same reason.
* `buildManifest_agrees`: they agree where the base is normal, every method has a handler and
  every full pattern a template.
-/

namespace RpcRoutes

variable {H : Type}

/-! ### Listing rules -/

def ManifestEntry.key (e : ManifestEntry) : RouteKey := ⟨e.verb, e.pattern⟩

namespace Manifest

def ruleKey (base : String) (r : OwnedRule) : RouteKey :=
  ⟨r.rule.method, Path.join base r.rule.pattern⟩

def entry (base : String) (r : OwnedRule) : ManifestEntry :=
  ⟨r.service, r.method.name, (ruleKey base r).method, (ruleKey base r).pattern, r.rule.body,
    r.rule.pathParams⟩

section Rules

variable {base : String} {policy : DuplicatePolicy} {s : State} {r : OwnedRule}
  {rs : List OwnedRule}

theorem listRules_cons_of_new (new : ¬ s.registry.Holds (ruleKey base r)) :
    listRules base policy s (r :: rs) =
      match listRules base policy ⟨(s.registry.claim (ruleKey base r)).1, s.counters⟩ rs with
      | (s, .error e) => (s, .error e)
      | (s, .ok entries) => (s, .ok (entry base r :: entries)) := by
  rw [Registry.claim_of_not_holds new]
  rw [ruleKey] at new
  simp only [listRules, Registry.claim_of_not_holds new]
  rfl

theorem listRules_cons_of_reject (held : s.registry.Holds (ruleKey base r)) :
    listRules base .reject s (r :: rs) =
      (⟨s.registry, s.counters.addDuplicate r.rule.method⟩,
        .error (.duplicateRoute (ruleKey base r))) := by
  rw [ruleKey] at held
  simp only [listRules, Registry.claim_of_holds held]
  rfl

theorem listRules_cons_of_warn (held : s.registry.Holds (ruleKey base r)) :
    listRules base .warn s (r :: rs) =
      listRules base .warn ⟨s.registry, s.counters.addDuplicate r.rule.method⟩ rs := by
  rw [ruleKey] at held
  simp only [listRules, Registry.claim_of_holds held]
  rfl

/-- Where duplicates are left out or there are none, the admitted rules are listed and every text
is claimed; otherwise a duplicate ends the list. -/
theorem listRules_spec (base : String) (policy : DuplicatePolicy) (s : State)
    (rs : List OwnedRule) :
    ((policy = .reject → s.registry.Fresh (rs.map (ruleKey base))) ∧
        ∃ counters, listRules base policy s rs =
          (⟨s.registry.claimAll (ruleKey base) rs, counters⟩,
            .ok ((s.registry.admitted (ruleKey base) rs).map (entry base)))) ∨
      policy = .reject ∧ ¬ s.registry.Fresh (rs.map (ruleKey base)) ∧
        ∃ after key, listRules base policy s rs = (after, .error (.duplicateRoute key)) := by
  induction rs generalizing s with
  | nil => exact Or.inl ⟨fun _ => ⟨List.nodup_nil, nofun⟩, s.counters, rfl⟩
  | cons r rs ih =>
      rw [List.map_cons, Registry.fresh_cons, Registry.claimAll_cons]
      by_cases held : s.registry.Holds (ruleKey base r)
      · cases policy with
        | reject =>
            refine Or.inr ⟨rfl, ?_, _, _, listRules_cons_of_reject held⟩
            intro fresh
            exact fresh.1 held
        | warn =>
            rcases ih ⟨s.registry, s.counters.addDuplicate r.rule.method⟩ with
              ⟨_, counters, listed⟩ | ⟨impossible, _⟩
            · refine Or.inl ⟨nofun, counters, ?_⟩
              rw [listRules_cons_of_warn held, listed, Registry.claim_of_holds held,
                Registry.admitted_cons_of_holds _ held]
            · cases impossible
      · rcases ih ⟨(s.registry.claim (ruleKey base r)).1, s.counters⟩ with
          ⟨fresh, counters, listed⟩ | ⟨reject, taken, after, key, stops⟩
        · refine Or.inl ⟨?_, counters, ?_⟩
          · intro reject
            exact ⟨held, fresh reject⟩
          · rw [listRules_cons_of_new held, listed, Registry.admitted_cons_of_not_holds _ held]
            rfl
        · refine Or.inr ⟨reject, ?_, after, key, ?_⟩
          · intro fresh
            exact taken fresh.2
          · rw [listRules_cons_of_new held, stops]

end Rules

end Manifest

/-! ### Manifests of files -/

section Files

variable {config : RoutingConfig} {shared : Registry} {counters : Counters}
  {file : FileDescriptor} {files : List FileDescriptor} {bindings : List ServiceBinding}
  {after : Manifest.State}

theorem manifestFrom_cons_unextracted {e : BindingError} (fails : file.bindings = .error e) :
    manifestFrom config shared counters (file :: files) =
      (counters, .error ⟨file.name, .binding e⟩) := by
  rw [manifestFrom, fails]

theorem manifestFrom_cons_unlisted {e : ManifestError} (extracted : file.bindings = .ok bindings)
    (fails : Manifest.list config.base config.policy ⟨config.scope.registryFor shared, counters⟩
      bindings = (after, .error e)) :
    manifestFrom config shared counters (file :: files) =
      (after.counters, .error ⟨file.name, .manifest e⟩) := by
  rw [manifestFrom, extracted]
  simp only [fails]

theorem manifestFrom_cons_listed {entries : List ManifestEntry}
    (extracted : file.bindings = .ok bindings)
    (done : Manifest.list config.base config.policy ⟨config.scope.registryFor shared, counters⟩
      bindings = (after, .ok entries)) :
    manifestFrom config shared counters (file :: files) =
      (manifestFrom config (config.scope.carry shared after.registry) after.counters files).map id
        (Except.map (entries ++ ·)) := by
  rw [manifestFrom, extracted]
  simp only [done]
  rcases manifestFrom config (config.scope.carry shared after.registry) after.counters files with
    ⟨last, result⟩
  cases result with
  | error e => rfl
  | ok more => rfl

end Files

/-! ### Agreement -/

/-- A manifest and tables of the same files: they have the same routes in the same order, or fail
at the same file, whose rules cannot be extracted or hold a duplicate. -/
inductive Manifest.Agrees :
    Except StartupError (List ManifestEntry) → Except StartupError (List (Table H)) → Prop where
  | built {entries : List ManifestEntry} {tables : List (Table H)}
      (same : entries.map ManifestEntry.key = tables.flatMap Table.keys) :
      Agrees (.ok entries) (.ok tables)
  | unextracted (file : String) (e : BindingError) :
      Agrees (.error ⟨file, .binding e⟩) (.error ⟨file, .binding e⟩)
  | duplicate (file : String) (key key' : RouteKey) :
      Agrees (.error ⟨file, .manifest (.duplicateRoute key)⟩)
        (.error ⟨file, .route (.duplicateRoute key')⟩)

theorem Manifest.Agrees.cons {entries : List ManifestEntry} {t : Table H}
    {listed : Except StartupError (List ManifestEntry)}
    {made : Except StartupError (List (Table H))} (rest : Agrees listed made)
    (same : entries.map ManifestEntry.key = t.keys) :
    Agrees (listed.map (entries ++ ·)) (made.map (t :: ·)) := by
  cases rest with
  | built later => exact .built (by rw [List.map_append, List.flatMap_cons, same, later])
  | unextracted file e => exact .unextracted file e
  | duplicate file key key' => exact .duplicate file key key'

section Agreement

open Mount

variable {config : RoutingConfig} {middleware : List (Middleware H)}
  {resolver : HandlerResolver H}

/-- Under a normal base a manifest and the tables give a rule one key. -/
theorem ruleKey_of_isNormal (normal : Path.IsNormal config.base) :
    Manifest.ruleKey config.base = config.ruleKey := by
  funext r
  rw [Manifest.ruleKey, RoutingConfig.ruleKey, Path.nest_root normal]

theorem map_key_entry (base : String) (rs : List OwnedRule) :
    (rs.map (Manifest.entry base)).map ManifestEntry.key = rs.map (Manifest.ruleKey base) := by
  rw [List.map_map]
  rfl

variable (middleware) in
/-- Rules with methods, handlers and templates are mounted exactly when their texts are fresh or
duplicates are left out; nothing but a duplicate stops them. -/
theorem mount_of_total [PatternEngine] (total : ∀ service m, resolver service m ≠ none)
    (shared : Registry) (counters : Counters) {bindings : List ServiceBinding}
    (named : ∀ r ∈ rules bindings, r.rule.method ≠ "")
    (compiles : ∀ r ∈ rules bindings, Template.Compiles (config.ruleKey r).pattern) :
    ((config.policy = .reject →
        (config.scope.registryFor shared).Fresh ((rules bindings).map config.ruleKey)) ∧
      ∃ after report,
        (config.group middleware).mount (config.site shared counters) bindings resolver =
          (after, .ok report) ∧
        after.registry =
          (config.scope.registryFor shared).claimAll config.ruleKey (rules bindings) ∧
        after.table.keys =
          ((config.scope.registryFor shared).admitted config.ruleKey (rules bindings)).map
            config.ruleKey) ∨
      config.policy = .reject ∧
        ¬ (config.scope.registryFor shared).Fresh ((rules bindings).map config.ruleKey) ∧
        ∃ after key,
          (config.group middleware).mount (config.site shared counters) bindings resolver =
            (after, .error (.duplicateRoute key)) := by
  have handled : ∀ r ∈ rules bindings, resolver r.service r.method ≠ none := by
    intro r _
    exact total r.service r.method
  rcases Group.mount_of_compiles (config.group middleware) (config.site shared counters)
    (fun m _ => total m.1 m.2) named compiles with
    ⟨mountable, after, report, done, mounts⟩ | ⟨policy, taken, after, r, _, stops⟩
  · exact Or.inl ⟨mountable.fresh, after, report, done, mounts.registry_eq,
      mounts.keys_eq handled compiles⟩
  · exact Or.inr ⟨policy, taken, after, _, stops⟩

theorem agree_from [PatternEngine] (normal : Path.IsNormal config.base)
    (total : ∀ service m, resolver service m ≠ none) {files : List FileDescriptor}
    (compiles : ∀ file ∈ files, ∀ r ∈ file.rules, Template.Compiles (config.ruleKey r).pattern)
    (shared : Registry) (listing counters : Counters) :
    Manifest.Agrees (manifestFrom config shared listing files).2
      (tablesFrom config middleware resolver shared counters files).2 := by
  induction files generalizing shared listing counters with
  | nil => exact .built rfl
  | cons file files ih =>
      obtain ⟨small, compiles⟩ := List.forall_mem_cons.mp compiles
      cases extracted : file.bindings with
      | error e =>
          rw [manifestFrom_cons_unextracted extracted, tablesFrom_cons_unextracted extracted]
          exact .unextracted file.name e
      | ok bindings =>
          rw [FileDescriptor.rules_eq extracted] at small
          have named : ∀ r ∈ rules bindings, r.rule.method ≠ "" :=
            FileDescriptor.isBound_of_bindings extracted
          have listed := Manifest.listRules_spec config.base config.policy
            ⟨config.scope.registryFor shared, listing⟩ (rules bindings)
          rw [ruleKey_of_isNormal normal] at listed
          have mounted := mount_of_total middleware total shared counters named small
          rcases listed with ⟨fresh, listing', lists⟩ | ⟨reject, taken, after, key, stops⟩
          · rcases mounted with ⟨_, site, report, mounts, registry_eq, keys_eq⟩ | ⟨policy, taken, _⟩
            · rw [manifestFrom_cons_listed extracted lists,
                tablesFrom_cons_mounted extracted mounts]
              rw [registry_eq]
              refine (ih compiles _ listing' site.counters).cons ?_
              rw [keys_eq, map_key_entry, ruleKey_of_isNormal normal]
            · exact absurd (fresh policy) taken
          · rcases mounted with ⟨fresh, _⟩ | ⟨_, _, site, key', stops'⟩
            · exact absurd (fresh reject) taken
            · rw [manifestFrom_cons_unlisted extracted stops,
                tablesFrom_cons_unmounted extracted stops']
              exact .duplicate file.name key key'

/-- The manifest and the tables of the same files agree, where the base is normal, every method
has a handler and every full pattern a template. -/
theorem buildManifest_agrees [PatternEngine] (normal : Path.IsNormal config.base)
    (total : ∀ service m, resolver service m ≠ none) {files : List FileDescriptor}
    (compiles : ∀ file ∈ files, ∀ r ∈ file.rules, Template.Compiles (config.ruleKey r).pattern) :
    Manifest.Agrees (buildManifest config files).2
      (buildTables config middleware resolver files).2 := by
  rw [buildManifest, buildTables_snd]
  exact agree_from normal total compiles .empty .zero .zero

/-- A second file that binds what the first one does is where both stop. -/
theorem buildManifest_agrees_twice :
    Path.IsNormal "/v1" ∧ Manifest.Agrees
      (buildManifest ⟨"/v1", .reject, .shared⟩
        [.getter "a.proto" "a.A" "/items/{id}", .getter "b.proto" "b.B" "items/{id}"]).2
      (buildTables ⟨"/v1", .reject, .shared⟩ [] (fun service m => some (service ++ m.name))
        [.getter "a.proto" "a.A" "/items/{id}", .getter "b.proto" "b.B" "items/{id}"]).2 :=
  ⟨by decide, buildManifest_agrees (by decide) (by simp) (by decide)⟩

end Agreement

end RpcRoutes
