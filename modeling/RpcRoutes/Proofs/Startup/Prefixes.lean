import RpcRoutes.Program.Engine
import RpcRoutes.Proofs.Path.Joining
import RpcRoutes.Proofs.Startup.Advertising
import RpcRoutes.Proofs.Startup.Orders

/-!
# Listed and served patterns

A manifest joins a rule's pattern to the base as it is configured; tables join it to the base of
their root group. The full patterns are the same, unless the base starts with two slashes and is
more than slashes: then the manifest lists patterns that no table has.

* `mounted_of_buildTables`: what tables hold are keys that the root group gives rules.
* `listed_eq_served_iff`: under an accepted base an entry has the pattern that its rule is served
  under exactly when the base is not doubled.
-/

namespace RpcRoutes

variable {H : Type}

/-- The key that the root group gives a rule. -/
theorem RoutingConfig.key_group {config : RoutingConfig} {middleware : List (Middleware H)}
    {r : OwnedRule} (bound : r.rule.IsBound) :
    (config.group middleware).key r.rule.method r.rule.pattern = .ok (config.ruleKey r) :=
  if_neg bound

/-- Extracted rules have a method. -/
theorem FileDescriptor.isBound_of_mem_rules {file : FileDescriptor} {r : OwnedRule}
    (mem : r ∈ file.rules) : r.rule.IsBound := by
  rw [rules] at mem
  split at mem
  · rename_i bindings extracted
    exact isBound_of_bindings extracted r mem
  · cases mem

/-- The keys of built tables are those that the root group gives rules of the files. -/
theorem mounted_of_buildTables [PatternEngine] {config : RoutingConfig}
    {middleware : List (Middleware H)}
    {resolver : HandlerResolver H} {files : List FileDescriptor} {tables : List (Table H)}
    (built : (buildTables config middleware resolver files).2 = .ok tables) :
    ∀ key ∈ tables.flatMap Table.keys, ∃ r ∈ files.flatMap FileDescriptor.rules,
      (config.group middleware).key r.rule.method r.rule.pattern = .ok key := by
  intro key mem
  rw [buildTables_snd] at built
  obtain ⟨last, made⟩ := snd_eq_iff.mp built
  rw [flatMap_keys_tablesFrom made] at mem
  obtain ⟨r, admitted, rfl⟩ := List.mem_map.mp mem
  have declared := RegistryScope.mem_of_mem_admitted admitted
  rw [← List.flatMap_def] at declared
  obtain ⟨file, _, inside⟩ := List.mem_flatMap.mp declared
  exact ⟨r, declared, RoutingConfig.key_group (FileDescriptor.isBound_of_mem_rules inside)⟩

/-- Under an accepted base an entry of a list comes from a rule, and has the full pattern that the
root group gives this rule exactly when the base is not doubled. The keys of the root group are
the ones that built tables have. -/
theorem listed_eq_served_iff [PatternEngine] {c : Config} (accepts : c.AcceptsBase)
    (middleware : List (Middleware H)) :
    (∀ (policy : DuplicatePolicy) (s after : Manifest.State) (bindings : List ServiceBinding)
      (entries : List ManifestEntry),
      Manifest.list c.routing.base policy s bindings = (after, .ok entries) →
        ∀ e ∈ entries, ∃ r ∈ Mount.rules bindings, e = Manifest.entry c.routing.base r ∧
          ∀ key, (c.routing.group middleware).key r.rule.method r.rule.pattern = .ok key →
            (e.pattern = key.pattern ↔ ¬ Path.IsDoubled c.routing.base)) ∧
    ∀ (resolver : HandlerResolver H) (files : List FileDescriptor) (tables : List (Table H)),
      (buildTables c.routing middleware resolver files).2 = .ok tables →
        ∀ key ∈ tables.flatMap Table.keys, ∃ r ∈ files.flatMap FileDescriptor.rules,
          (c.routing.group middleware).key r.rule.method r.rule.pattern = .ok key := by
  refine ⟨?_, fun _ _ _ => mounted_of_buildTables⟩
  intro policy s after bindings entries listed e mem
  obtain ⟨r, declared, rfl⟩ := Manifest.exists_rule_of_list listed e mem
  refine ⟨r, declared, rfl, ?_⟩
  intro key served
  have key_eq : c.routing.ruleKey r = key := by
    rw [Group.key] at served
    split at served
    · cases served
    · exact Except.ok.inj served
  rw [← key_eq]
  exact Path.join_eq_join_root_iff (Config.acceptsBase_iff.mp accepts).1 r.rule.pattern

/-- A base that ends in slashes is listed as it is served. -/
theorem listed_eq_served_iff_trailing :
    ∃ (c : Config) (after : Manifest.State) (e : ManifestEntry) (key : RouteKey),
      c.AcceptsBase ∧ c.routing.base = "/api//" ∧
      Manifest.list c.routing.base .reject ⟨.empty, .zero⟩
        [⟨"a.A", [⟨"Get", [⟨"GET", "//x", ""⟩]⟩]⟩] = (after, .ok [e]) ∧
      (c.routing.group ([] : List (Middleware String))).key "GET" "//x" = .ok key ∧
      e.pattern = key.pattern := by
  have accepted : Config.AcceptsBase
      { Config.default with routing := ⟨"/api//", .reject, .table⟩ } :=
    Config.acceptsBase_iff.mpr (by decide)
  obtain ⟨after, e, listed⟩ : ∃ after e, Manifest.list "/api//" .reject ⟨.empty, .zero⟩
      [⟨"a.A", [⟨"Get", [⟨"GET", "//x", ""⟩]⟩]⟩] = (after, .ok [e]) := ⟨_, _, rfl⟩
  obtain ⟨r, declared, -, served⟩ :=
    (listed_eq_served_iff (H := String) accepted []).1 _ _ _ _ _ listed e
      (List.mem_singleton_self e)
  obtain rfl := List.mem_singleton.mp declared
  exact ⟨_, after, e, ⟨"GET", "/api/x"⟩, accepted, rfl, listed, by decide,
    (served _ (by decide)).mpr (by decide)⟩

/-- The base `//api` is accepted. Its manifest lists `//api/x`, and its table has `/api/x`. -/
theorem listed_ne_served :
    ∃ (c : Config) (entries : List ManifestEntry) (tables : List (Table String)),
      c.AcceptsBase ∧ c.routing.base = "//api" ∧
      (buildManifest c.routing [.getter "a.proto" "a.A" "/x"]).2 = .ok entries ∧
      (buildTables c.routing [] (fun service m => some (service ++ m.name))
        [.getter "a.proto" "a.A" "/x"]).2 = .ok tables ∧
      entries.map ManifestEntry.pattern = ["//api/x"] ∧
      (tables.flatMap Table.keys).map RouteKey.pattern = ["/api/x"] :=
  ⟨{ Config.default with routing := ⟨"//api", .reject, .table⟩ }, _, _,
    Config.acceptsBase_iff.mpr (by decide), rfl, rfl, rfl, by decide, by decide⟩

end RpcRoutes
