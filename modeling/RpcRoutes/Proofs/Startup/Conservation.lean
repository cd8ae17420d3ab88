import Mathlib.Algebra.GroupWithZero.Nat
import Mathlib.Data.Finset.Card
import RpcRoutes.Program.Engine
import RpcRoutes.Proofs.Routing.Counting
import RpcRoutes.Proofs.Routing.Shadows
import RpcRoutes.Proofs.Startup.Building

/-!
# Conservation of rules

Every rule of files that are built is counted once: as a mounted route when its text is new, and
otherwise as a duplicate. Duplicates are counted while a file is mounted and once more among all
tables, and between the two no text is missed or counted twice, whatever the scope of registries.

* `tablesFrom_counted`: mounting the files counts one event for each rule, and each route as such.
* `buildTables_conserves`: duplicates and distinct texts together are as many as the rules.
-/

namespace RpcRoutes

variable {H : Type}

section Build

variable [PatternEngine] {config : RoutingConfig} {middleware : List (Middleware H)}
  {resolver : HandlerResolver H} {shared : Registry} {counters last : Counters}
  {files : List FileDescriptor} {tables : List (Table H)}

/-- Mounting files counts one event for each of their rules, and each mounted route as such. -/
theorem tablesFrom_counted
    (built : tablesFrom config middleware resolver shared counters files = (last, .ok tables)) :
    last.registered.total =
        counters.registered.total + (tables.flatMap Table.routes).length ∧
      last.total = counters.total + (files.flatMap FileDescriptor.rules).length := by
  induction files generalizing shared counters tables with
  | nil =>
      obtain ⟨rfl, rfl⟩ := tablesFrom_nil_ok_iff.mp built
      exact ⟨rfl, rfl⟩
  | cons file files ih =>
      obtain ⟨bindings, after, report, rest, extracted, done, later, rfl⟩ :=
        tablesFrom_cons_ok_iff.mp built
      obtain ⟨routes, grows⟩ := (config.group middleware).grows_mount
        (s := config.site shared counters) (Path.isBase_root config.base) bindings resolver
      rw [done] at grows
      have total_eq := Group.total_mount done
      have registered_eq := grows.total_eq
      have routes_eq : after.table.routes = routes := by
        rw [grows.table_eq]
        rfl
      obtain ⟨registered, total⟩ := ih later
      rw [registered, total, List.flatMap_cons, List.flatMap_cons, List.length_append,
        List.length_append, routes_eq, registered_eq, total_eq, FileDescriptor.rules_eq extracted,
        Nat.add_assoc, Nat.add_assoc]
      exact ⟨rfl, rfl⟩

/-- The texts in the tables are those of all rules. -/
theorem toFinset_texts_tablesFrom
    (built : tablesFrom config middleware resolver .empty counters files = (last, .ok tables)) :
    ((tables.flatMap Table.keys).map RouteKey.text).toFinset =
      ((files.flatMap FileDescriptor.rules).map fun r => (config.ruleKey r).text).toFinset := by
  ext text
  rw [List.mem_toFinset, List.mem_toFinset, flatMap_keys_tablesFrom built, List.map_map]
  exact RegistryScope.mem_texts_admitted

/-- Tables are built when the files are mounted, and then what they shadow is counted. -/
theorem exists_tablesFrom_of_buildTables
    (built : buildTables config middleware resolver files = (counters, .ok tables)) :
    ∃ last, tablesFrom config middleware resolver .empty .zero files = (last, .ok tables) ∧
      counters.registered = last.registered ∧
      counters.duplicate.total = last.duplicate.total + (Table.shadowed tables).length := by
  rcases made : tablesFrom config middleware resolver .empty .zero files with ⟨last, e | tables'⟩
  · simp [buildTables, made] at built
  · rw [buildTables, made] at built
    obtain ⟨rfl, same⟩ := Prod.mk.inj built
    obtain rfl := Except.ok.inj same
    exact ⟨last, rfl, last.foldl_addDuplicate (Table.shadowed tables')⟩

/-- Duplicates and distinct texts together are as many as the rules. -/
theorem duplicate_add_texts
    (built : buildTables config middleware resolver files = (counters, .ok tables)) :
    counters.duplicate.total +
        ((files.flatMap FileDescriptor.rules).map fun r => (config.ruleKey r).text).toFinset.card =
      (files.flatMap FileDescriptor.rules).length := by
  obtain ⟨last, made, _, duplicate⟩ := exists_tablesFrom_of_buildTables built
  obtain ⟨registered, total⟩ := tablesFrom_counted made
  have shadows : (tables.flatMap Table.keys).length =
      ((tables.flatMap Table.keys).map RouteKey.text).toFinset.card +
        (Table.shadowed tables).length := by
    rw [← Table.length_shadowedFrom .empty 0 tables, Registry.length_admitted_empty]
    rfl
  have keys : (tables.flatMap Table.keys).length = (tables.flatMap Table.routes).length := by
    simp [List.length_flatMap, Table.keys]
  rw [toFinset_texts_tablesFrom made] at shadows
  simp only [Counters.total, Counters.zero, Tally.total_zero] at registered total
  omega

/-- Where tables are built, the routes that they hold were counted as mounted, and of the rules of
all files one for each text was, the others having been counted as duplicates. So it does not
matter for the duplicates which registries the tables share. -/
theorem buildTables_conserves
    (built : buildTables config middleware resolver files = (counters, .ok tables)) :
    counters.registered.total = (tables.map fun t => t.routes.length).sum ∧
      counters.duplicate.total +
          ((files.flatMap FileDescriptor.rules).map fun r =>
            (config.ruleKey r).text).toFinset.card =
        (files.flatMap FileDescriptor.rules).length ∧
      ∀ (scope : RegistryScope) (counters' : Counters) (tables' : List (Table H)),
        buildTables { config with scope := scope } middleware resolver files =
            (counters', .ok tables') →
          counters'.duplicate.total = counters.duplicate.total := by
  have here := duplicate_add_texts built
  refine ⟨?_, here, ?_⟩
  · obtain ⟨last, made, registered_eq, _⟩ := exists_tablesFrom_of_buildTables built
    rw [registered_eq, (tablesFrom_counted made).1, List.length_flatMap]
    exact Nat.zero_add _
  · intro scope counters' tables' built'
    have there := duplicate_add_texts built'
    simp only [RoutingConfig.ruleKey] at here there
    omega

end Build

/-- Two files bind one text. With a registry for each file both are mounted and one is shadowed;
with a shared one the second is ignored. That is one duplicate either way. -/
theorem buildTables_conserves_twice :
    ∃ (counters : Counters) (tables : List (Table String)),
      buildTables ⟨"/v1", .warn, .table⟩ [] (fun service m => some (service ++ m.name))
        [.getter "a.proto" "a.A" "/items/{id}", .getter "b.proto" "b.B" "items/{id}"] =
          (counters, .ok tables) ∧
      counters.registered.total = 2 ∧ counters.duplicate.total = 1 ∧
      ∀ (counters' : Counters) (tables' : List (Table String)),
        buildTables ⟨"/v1", .warn, .shared⟩ [] (fun service m => some (service ++ m.name))
          [.getter "a.proto" "a.A" "/items/{id}", .getter "b.proto" "b.B" "items/{id}"] =
            (counters', .ok tables') →
          counters'.duplicate.total = 1 := by
  refine ⟨_, _, rfl, ?_⟩
  obtain ⟨registered, _, same⟩ := @buildTables_conserves String _ ⟨"/v1", .warn, .table⟩ []
    (fun service m => some (service ++ m.name)) _
    [.getter "a.proto" "a.A" "/items/{id}", .getter "b.proto" "b.B" "items/{id}"] _ rfl
  exact ⟨registered, rfl, same .shared⟩

end RpcRoutes
