import RpcRoutes.Proofs.Startup.Building

/-!
# Repeated texts

Files are refused for their duplicates when two rules that are claimed in one registry have one
text, whichever of them is claimed first.

* `RegistryScope.Repeats` says so of lists that are claimed in turn. Otherwise everything in them is
  admitted (`RegistryScope.admitted_eq_self_iff`).
* `buildTables_built_iff` and `buildManifest_built_iff`: files are built when each is usable and,
  where duplicates are errors, nothing repeats.
-/

namespace RpcRoutes

variable {H : Type}

namespace RegistryScope

variable {α : Type}

/-- What is claimed in one registry, when lists are claimed in turn. -/
def together (scope : RegistryScope) (xss : List (List α)) : List (List α) :=
  match scope with
  | .shared => [xss.flatten]
  | .table => xss

/-- Two elements that are claimed in one registry have one text. -/
def Repeats (scope : RegistryScope) (key : α → RouteKey) (xss : List (List α)) : Prop :=
  ∃ xs ∈ scope.together xss, ¬ (xs.map fun x => (key x).text).Nodup

variable {scope : RegistryScope} {key : α → RouteKey} {xss yss : List (List α)}

theorem not_repeats_iff : ¬ scope.Repeats key xss ↔
    ∀ xs ∈ scope.together xss, (xs.map fun x => (key x).text).Nodup := by
  simp [Repeats]

/-- All of the lists is admitted when nothing repeats. -/
theorem admitted_eq_self_iff : scope.admitted key .empty xss = xss ↔ ¬ scope.Repeats key xss := by
  rw [not_repeats_iff]
  cases scope with
  | shared =>
      rw [admitted_shared_eq_self_iff, Registry.fresh_empty_iff, List.map_map, together,
        List.forall_mem_singleton]
      rfl
  | table =>
      have each : xss.map (Registry.empty.admitted key) = xss ↔
          ∀ xs ∈ xss, Registry.empty.admitted key xs = xs := by
        simpa using List.map_inj_left (l := xss) (f := Registry.empty.admitted key) (g := id)
      rw [admitted_table, each]
      refine forall₂_congr fun xs _ => ?_
      rw [Registry.admitted_eq_self_iff, Registry.fresh_empty_iff, List.map_map]
      rfl

/-- What repeats in some of the lists does in all of them. -/
theorem Repeats.append_right (repeats : scope.Repeats key xss) :
    scope.Repeats key (xss ++ yss) := by
  obtain ⟨xs, claimed, twice⟩ := repeats
  cases scope with
  | shared =>
      obtain rfl := List.mem_singleton.mp claimed
      refine ⟨(xss ++ yss).flatten, List.mem_singleton_self _, ?_⟩
      rw [List.flatten_append, List.map_append, List.nodup_append]
      exact fun distinct => twice distinct.1
  | table => exact ⟨xs, List.mem_append_left _ claimed, twice⟩

/-- What repeats in a registry repeats in a shared one. -/
theorem Repeats.shared (repeats : scope.Repeats key xss) :
    RegistryScope.shared.Repeats key xss := by
  obtain ⟨xs, claimed, twice⟩ := repeats
  cases scope with
  | shared => exact ⟨xs, claimed, twice⟩
  | table =>
      refine ⟨xss.flatten, List.mem_singleton_self _, fun distinct => twice ?_⟩
      exact distinct.sublist ((List.sublist_flatten_of_mem claimed).map _)

end RegistryScope

section Build

variable {config : RoutingConfig} {middleware : List (Middleware H)}
  {resolver : HandlerResolver H} {files : List FileDescriptor}

/-- Tables are built when all files are usable and, where duplicates are errors, nothing
repeats. -/
theorem buildTables_built_iff [PatternEngine] :
    (∃ tables, (buildTables config middleware resolver files).2 = .ok tables) ↔
      (∀ file ∈ files, config.Usable resolver file) ∧
        (config.policy = .reject →
          ¬ config.scope.Repeats config.ruleKey (files.map FileDescriptor.rules)) := by
  simp only [buildTables_ok_iff, RegistryScope.admitted_eq_self_iff, exists_and_left,
    exists_eq, and_true]

/-- A manifest is made when all files are extracted and, where duplicates are errors, nothing
repeats. -/
theorem buildManifest_built_iff : (∃ entries, (buildManifest config files).2 = .ok entries) ↔
    (∀ file ∈ files, ∃ bindings, file.bindings = .ok bindings) ∧
      (config.policy = .reject → ¬ config.scope.Repeats (Manifest.ruleKey config.base)
        (files.map FileDescriptor.rules)) := by
  simp only [buildManifest_ok_iff, RegistryScope.admitted_eq_self_iff, exists_and_left,
    exists_eq, and_true]

end Build

end RpcRoutes
