import Mathlib.Algebra.BigOperators.Group.List.Basic
import RpcRoutes.Program.Engine
import RpcRoutes.Proofs.Startup.Conservation
import RpcRoutes.Proofs.Startup.Repetition
import RpcRoutes.Proofs.Startup.Scopes

/-!
# Order of declaration

The order of files, of the services in a file and of the methods in a service decides which rule a
text belongs to, and nothing else: neither whether something is built nor which texts are served.

* `Rearranges` is a list in another order, whose elements may be rearranged themselves;
  `FileDescriptor.Reordered` is such a file.
* `FileDescriptor.Reordered.rules`: it has the same rules, in another order.
* `Rearranges.repeats_iff`: whether a text repeats does not depend on the order, nor does how much
  is admitted (`RegistryScope.length_flatten_admitted`).
* `build_rearranged` says it of tables and of manifests.
-/

namespace RpcRoutes

variable {H : Type}

/-! ### Other orders -/

/-- The second list has the elements of the first in another order, each related to its own. -/
def Rearranges {α : Type} (R : α → α → Prop) (xs ys : List α) : Prop :=
  ∃ zs, List.Forall₂ R xs zs ∧ zs.Perm ys

section Rearranges

variable {α β : Type} {R : α → α → Prop} {xs ys : List α}

theorem Rearranges.forall_iff {P : α → Prop} (rearranged : Rearranges R xs ys)
    (same : ∀ x y, R x y → (P x ↔ P y)) : (∀ x ∈ xs, P x) ↔ ∀ y ∈ ys, P y := by
  obtain ⟨zs, each, perm⟩ := rearranged
  have here : (∀ x ∈ xs, P x) ↔ ∀ z ∈ zs, P z := by
    induction each generalizing ys with
    | nil => exact Iff.rfl
    | cons head _ ih =>
        rw [List.forall_mem_cons, List.forall_mem_cons, same _ _ head, ih (.refl _)]
  rw [here]
  exact forall_congr' fun z => imp_congr_left perm.mem_iff

theorem Rearranges.map {S : β → β → Prop} {f : α → β} (rearranged : Rearranges R xs ys)
    (related : ∀ x y, R x y → S (f x) (f y)) : Rearranges S (xs.map f) (ys.map f) := by
  obtain ⟨zs, each, perm⟩ := rearranged
  refine ⟨zs.map f, ?_, perm.map f⟩
  rw [List.forall₂_map_left_iff, List.forall₂_map_right_iff]
  exact each.imp related

theorem Rearranges.perm_map {f : α → β} (rearranged : Rearranges R xs ys)
    (same : ∀ x y, R x y → f x = f y) : (xs.map f).Perm (ys.map f) := by
  obtain ⟨zs, each, perm⟩ := rearranged.map same
  rw [List.forall₂_eq_eq_eq] at each
  rw [each]
  exact perm

theorem Rearranges.flatten {xss yss : List (List α)} (rearranged : Rearranges List.Perm xss yss) :
    xss.flatten.Perm yss.flatten := by
  obtain ⟨zss, each, perm⟩ := rearranged
  refine List.Perm.trans ?_ perm.flatten
  clear perm
  induction each with
  | nil => exact .refl _
  | cons head _ ih => exact head.append ih

end Rearranges

/-- A service with its methods in another order. -/
structure ServiceDefinition.Reordered (s s' : ServiceDefinition) : Prop where
  name_eq : s'.name = s.name
  methods : s.methods.Perm s'.methods

/-- A file with its services in another order, and the methods of each as well. -/
structure FileDescriptor.Reordered (file file' : FileDescriptor) : Prop where
  name_eq : file'.name = file.name
  syntaxMarker_eq : file'.syntaxMarker = file.syntaxMarker
  edition_eq : file'.edition = file.edition
  services : Rearranges ServiceDefinition.Reordered file.services file'.services

/-- A file with one service, whose methods answer GET. -/
def FileDescriptor.getters (name service : String) (methods : List (String × String)) :
    FileDescriptor :=
  ⟨name, none, none, [⟨service, methods.map fun (method, pattern) =>
    ⟨method, some (.mk (some pattern) none none none none none "" [])⟩⟩]⟩

theorem FileDescriptor.Reordered.getters {name service : String}
    {methods methods' : List (String × String)} (perm : methods.Perm methods') :
    (FileDescriptor.getters name service methods).Reordered (.getters name service methods') :=
  ⟨rfl, rfl, rfl, (FileDescriptor.getters name service methods').services,
    .cons ⟨rfl, perm.map _⟩ .nil, .refl _⟩

/-! ### Rules -/

namespace ServiceDefinition

variable {s s' : ServiceDefinition}

theorem fault?_eq_none_iff : s.fault? = none ↔ ∀ m ∈ s.methods, m.fault? = none := by
  rw [fault?, Option.map_eq_none_iff, List.findSome?_eq_none_iff]

theorem Reordered.fault?_iff (reordered : s.Reordered s') : s.fault? = none ↔ s'.fault? = none := by
  rw [fault?_eq_none_iff, fault?_eq_none_iff]
  exact forall_congr' fun m => imp_congr_left reordered.methods.mem_iff

theorem Reordered.rules (reordered : s.Reordered s') :
    (s.binding?.toList.flatMap ServiceBinding.rules).Perm
      (s'.binding?.toList.flatMap ServiceBinding.rules) := by
  rw [flatMap_rules_binding?, flatMap_rules_binding?, reordered.name_eq]
  exact (reordered.methods.filterMap _).flatMap_right _

end ServiceDefinition

namespace FileDescriptor

variable {file file' : FileDescriptor} {files files' : List FileDescriptor}

theorem rules_of_unextracted (fails : ¬ ∃ bindings, file.bindings = .ok bindings) :
    file.rules = [] := by
  rw [rules]
  cases extracted : file.bindings with
  | error e => rfl
  | ok bindings => exact absurd ⟨bindings, extracted⟩ fails

theorem Reordered.extracted_iff (reordered : file.Reordered file') :
    (∃ bindings, file.bindings = .ok bindings) ↔ ∃ bindings, file'.bindings = .ok bindings := by
  rw [FileDescriptor.extracted_iff, FileDescriptor.extracted_iff]
  exact reordered.services.forall_iff fun _ _ => ServiceDefinition.Reordered.fault?_iff

/-- A reordered file has the same rules in another order. -/
theorem Reordered.rules (reordered : file.Reordered file') : file.rules.Perm file'.rules := by
  by_cases extracted : ∃ bindings, file.bindings = .ok bindings
  · rw [rules_of_extracted extracted, rules_of_extracted (reordered.extracted_iff.mp extracted),
      List.filterMap_eq_flatMap_toList, List.filterMap_eq_flatMap_toList, List.flatMap_assoc,
      List.flatMap_assoc]
    exact (reordered.services.map fun _ _ => ServiceDefinition.Reordered.rules).flatten
  · rw [rules_of_unextracted extracted,
      rules_of_unextracted fun found => extracted (reordered.extracted_iff.mpr found)]

theorem Reordered.usable_iff [PatternEngine] {config : RoutingConfig} {resolver : HandlerResolver H}
    (reordered : file.Reordered file') :
    config.Usable resolver file ↔ config.Usable resolver file' := by
  have mem_iff {r : OwnedRule} : r ∈ file.rules ↔ r ∈ file'.rules := reordered.rules.mem_iff
  constructor
  · rintro ⟨extracted, handled, compiles⟩
    exact ⟨reordered.extracted_iff.mp extracted, fun r mem => handled r (mem_iff.mpr mem),
      fun r mem => compiles r (mem_iff.mpr mem)⟩
  · rintro ⟨extracted, handled, compiles⟩
    exact ⟨reordered.extracted_iff.mpr extracted, fun r mem => handled r (mem_iff.mp mem),
      fun r mem => compiles r (mem_iff.mp mem)⟩

end FileDescriptor

/-! ### Admission -/

/-- Among these elements a text tells the method and the pattern. -/
def ToldByText {α : Type} (key : α → RouteKey) (xs : List α) : Prop :=
  ∀ x ∈ xs, ∀ y ∈ xs, (key x).text = (key y).text → key x = key y

theorem ToldByText.perm {α : Type} {key : α → RouteKey} {xs ys : List α}
    (told : ToldByText key xs) (perm : xs.Perm ys) : ToldByText key ys :=
  fun x mem y mem' => told x (perm.mem_iff.mpr mem) y (perm.mem_iff.mpr mem')

/-- A method with a blank in it may end anywhere. -/
example : RouteKey.text ⟨"A /x", "/y"⟩ = RouteKey.text ⟨"A", "/x /y"⟩ := by decide

section Admission

variable {α : Type} {scope : RegistryScope} {key : α → RouteKey} {r : Registry}
  {xss yss : List (List α)}

theorem Rearranges.together (rearranged : Rearranges List.Perm xss yss) :
    Rearranges List.Perm (scope.together xss) (scope.together yss) := by
  cases scope with
  | shared => exact ⟨[yss.flatten], .cons rearranged.flatten .nil, .refl _⟩
  | table => exact rearranged

/-- Whether a text repeats does not depend on the order. -/
theorem Rearranges.repeats_iff (rearranged : Rearranges List.Perm xss yss) :
    scope.Repeats key xss ↔ scope.Repeats key yss := by
  rw [← not_iff_not, RegistryScope.not_repeats_iff, RegistryScope.not_repeats_iff]
  exact rearranged.together.forall_iff fun _ _ perm => (perm.map _).nodup_iff

namespace RegistryScope

/-- In each registry one element is admitted for each text. -/
theorem length_flatten_admitted : (scope.admitted key .empty xss).flatten.length =
    ((scope.together xss).map fun xs => (xs.map fun x => (key x).text).toFinset.card).sum := by
  cases scope with
  | shared =>
      rw [flatten_admitted_shared, Registry.length_admitted_empty, together, List.map_singleton,
        List.sum_singleton]
  | table =>
      rw [admitted_table, List.length_flatten, List.map_map, together]
      congr 2
      funext xs
      exact Registry.length_admitted_empty key xs

theorem mem_of_mem_admitted {x : α} (mem : x ∈ (scope.admitted key r xss).flatten) :
    x ∈ xss.flatten := by
  induction xss generalizing r with
  | nil => exact mem
  | cons xs xss ih =>
      rw [admitted_cons, List.flatten_cons, List.mem_append] at mem
      rw [List.flatten_cons, List.mem_append]
      exact mem.imp (Registry.admitted_sublist.subset ·) ih

/-- Where texts tell the keys, every key is admitted somewhere. -/
theorem mem_keys_admitted (told : ToldByText key xss.flatten) {k : RouteKey} :
    k ∈ (scope.admitted key .empty xss).flatten.map key ↔ k ∈ xss.flatten.map key := by
  constructor
  · rw [List.mem_map, List.mem_map]
    rintro ⟨x, mem, rfl⟩
    exact ⟨x, mem_of_mem_admitted mem, rfl⟩
  · rw [List.mem_map]
    rintro ⟨x, mem, rfl⟩
    have text_mem : (key x).text ∈
        (scope.admitted key .empty xss).flatten.map fun y => (key y).text :=
      mem_texts_admitted.mpr (List.mem_map.mpr ⟨x, mem, rfl⟩)
    obtain ⟨y, admitted, same⟩ := List.mem_map.mp text_mem
    exact List.mem_map.mpr ⟨y, admitted, told y (mem_of_mem_admitted admitted) x mem same⟩

end RegistryScope

/-- How much is admitted does not depend on the order. -/
theorem Rearranges.length_admitted (rearranged : Rearranges List.Perm xss yss) :
    (scope.admitted key .empty xss).flatten.length =
      (scope.admitted key .empty yss).flatten.length := by
  rw [RegistryScope.length_flatten_admitted, RegistryScope.length_flatten_admitted]
  refine (rearranged.together.perm_map fun xs ys perm => ?_).sum_eq
  rw [List.toFinset_eq_of_perm _ _ (perm.map _)]

end Admission

/-! ### What is built -/

section Build

variable {config : RoutingConfig} {middleware : List (Middleware H)}
  {resolver : HandlerResolver H} {counters : Counters}
  {files files' : List FileDescriptor} {tables : List (Table H)} {entries : List ManifestEntry}

theorem Rearranges.rules (rearranged : Rearranges FileDescriptor.Reordered files files') :
    Rearranges List.Perm (files.map FileDescriptor.rules) (files'.map FileDescriptor.rules) :=
  rearranged.map fun _ _ => FileDescriptor.Reordered.rules

/-- As many routes are mounted as rules are admitted. -/
theorem registered_of_buildTables [PatternEngine]
    (built : buildTables config middleware resolver files = (counters, .ok tables)) :
    counters.registered.total = (config.scope.admitted config.ruleKey .empty
      (files.map FileDescriptor.rules)).flatten.length := by
  obtain ⟨last, made, registered_eq, _⟩ := exists_tablesFrom_of_buildTables built
  have keys_eq := congrArg List.length (flatMap_keys_tablesFrom made)
  rw [List.length_map] at keys_eq
  rw [registered_eq, (tablesFrom_counted made).1, ← keys_eq]
  simp [List.length_flatMap, Table.keys, Counters.zero]

theorem texts_of_buildTables [PatternEngine]
    (built : buildTables config middleware resolver files = (counters, .ok tables)) :
    ((tables.flatMap Table.keys).map RouteKey.text).toFinset =
      ((files.flatMap FileDescriptor.rules).map fun r => (config.ruleKey r).text).toFinset := by
  obtain ⟨last, made, _⟩ := exists_tablesFrom_of_buildTables built
  exact toFinset_texts_tablesFrom made

/-- A manifest lists the keys of the rules that are admitted. -/
theorem map_key_of_buildManifest (listed : (buildManifest config files).2 = .ok entries) :
    entries.map ManifestEntry.key = (config.scope.admitted (Manifest.ruleKey config.base) .empty
      (files.map FileDescriptor.rules)).flatten.map (Manifest.ruleKey config.base) := by
  obtain ⟨_, _, rfl⟩ := buildManifest_ok_iff.mp listed
  exact map_key_entry config.base _

theorem texts_of_buildManifest (listed : (buildManifest config files).2 = .ok entries) :
    ((entries.map ManifestEntry.key).map RouteKey.text).toFinset =
      ((files.flatMap FileDescriptor.rules).map fun r =>
        (Manifest.ruleKey config.base r).text).toFinset := by
  ext text
  rw [map_key_of_buildManifest listed, List.map_map, List.mem_toFinset, List.mem_toFinset]
  exact RegistryScope.mem_texts_admitted

/-- Where texts tell the keys, a manifest lists those of all rules. -/
theorem keys_of_buildManifest (listed : (buildManifest config files).2 = .ok entries)
    (told : ToldByText (Manifest.ruleKey config.base) (files.flatMap FileDescriptor.rules)) :
    (entries.map ManifestEntry.key).toFinset =
      ((files.flatMap FileDescriptor.rules).map (Manifest.ruleKey config.base)).toFinset := by
  ext key
  rw [map_key_of_buildManifest listed, List.mem_toFinset, List.mem_toFinset]
  exact RegistryScope.mem_keys_admitted told

/-- Files, the services in them and the methods of these may stand in any order. Tables are built
in all of them or in none; they then have the same texts, and as many routes were mounted and as
many duplicates found. A manifest is made in all of them or in none, and lists the same texts.
Where a text tells the method and the pattern, it lists the same methods with the same patterns. -/
theorem build_rearranged [PatternEngine] (config : RoutingConfig) (middleware : List (Middleware H))
    (resolver : HandlerResolver H) {files files' : List FileDescriptor}
    (rearranged : Rearranges FileDescriptor.Reordered files files') :
    ((∃ tables, (buildTables config middleware resolver files).2 = .ok tables) ↔
      ∃ tables, (buildTables config middleware resolver files').2 = .ok tables) ∧
    (∀ (counters counters' : Counters) (tables tables' : List (Table H)),
      buildTables config middleware resolver files = (counters, .ok tables) →
      buildTables config middleware resolver files' = (counters', .ok tables') →
        ((tables.flatMap Table.keys).map RouteKey.text).toFinset =
          ((tables'.flatMap Table.keys).map RouteKey.text).toFinset ∧
        counters.total = counters'.total ∧
        counters.registered.total = counters'.registered.total) ∧
    ((∃ entries, (buildManifest config files).2 = .ok entries) ↔
      ∃ entries, (buildManifest config files').2 = .ok entries) ∧
    ∀ entries entries' : List ManifestEntry, (buildManifest config files).2 = .ok entries →
      (buildManifest config files').2 = .ok entries' →
        ((entries.map ManifestEntry.key).map RouteKey.text).toFinset =
          ((entries'.map ManifestEntry.key).map RouteKey.text).toFinset ∧
        (ToldByText (Manifest.ruleKey config.base) (files.flatMap FileDescriptor.rules) →
          (entries.map ManifestEntry.key).toFinset =
            (entries'.map ManifestEntry.key).toFinset) := by
  have rules := rearranged.rules
  have perm : (files.flatMap FileDescriptor.rules).Perm (files'.flatMap FileDescriptor.rules) :=
    rules.flatten
  refine ⟨?_, ?_, ?_, ?_⟩
  · rw [buildTables_built_iff, buildTables_built_iff, rules.repeats_iff,
      rearranged.forall_iff fun _ _ => FileDescriptor.Reordered.usable_iff]
  · intro counters counters' tables tables' built built'
    have registered : counters.registered.total = counters'.registered.total := by
      rw [registered_of_buildTables built, registered_of_buildTables built',
        rules.length_admitted]
    -- Of the rules, all but one for each text are counted as duplicates.
    have texts := List.toFinset_eq_of_perm _ _ (perm.map fun r => (config.ruleKey r).text)
    have here := duplicate_add_texts built
    have there := duplicate_add_texts built'
    rw [texts, perm.length_eq] at here
    refine ⟨?_, ?_, registered⟩
    · rw [texts_of_buildTables built, texts_of_buildTables built', texts]
    · rw [Counters.total, Counters.total]
      omega
  · rw [buildManifest_built_iff, buildManifest_built_iff, rules.repeats_iff,
      rearranged.forall_iff fun _ _ => FileDescriptor.Reordered.extracted_iff]
  · intro entries entries' listed listed'
    constructor
    · rw [texts_of_buildManifest listed, texts_of_buildManifest listed']
      exact List.toFinset_eq_of_perm _ _ (perm.map _)
    · intro told
      rw [keys_of_buildManifest listed told, keys_of_buildManifest listed' (told.perm perm)]
      exact List.toFinset_eq_of_perm _ _ (perm.map _)

end Build

/-- The second file repeats a text of the first. In another order the text is its own, and the
first file, whose methods are exchanged, repeats it. -/
theorem build_rearranged_swapped :
    ∃ (counters counters' : Counters) (tables tables' : List (Table String))
        (entries entries' : List ManifestEntry),
      buildTables ⟨"/v1", .warn, .shared⟩ [] (fun service m => some (service ++ m.name))
        [.getters "a.proto" "a.A" [("Get", "/items/{id}"), ("List", "/items")],
          .getters "b.proto" "b.B" [("Get", "items/{id}")]] = (counters, .ok tables) ∧
      buildTables ⟨"/v1", .warn, .shared⟩ [] (fun service m => some (service ++ m.name))
        [.getters "b.proto" "b.B" [("Get", "items/{id}")],
          .getters "a.proto" "a.A" [("List", "/items"), ("Get", "/items/{id}")]] =
            (counters', .ok tables') ∧
      tables.map (fun t => t.routes.length) = [2, 0] ∧
      tables'.map (fun t => t.routes.length) = [1, 1] ∧
      ((tables.flatMap Table.keys).map RouteKey.text).toFinset =
        ((tables'.flatMap Table.keys).map RouteKey.text).toFinset ∧
      counters.total = counters'.total ∧
      (buildManifest ⟨"/v1", .warn, .shared⟩
        [.getters "a.proto" "a.A" [("Get", "/items/{id}"), ("List", "/items")],
          .getters "b.proto" "b.B" [("Get", "items/{id}")]]).2 = .ok entries ∧
      (buildManifest ⟨"/v1", .warn, .shared⟩
        [.getters "b.proto" "b.B" [("Get", "items/{id}")],
          .getters "a.proto" "a.A" [("List", "/items"), ("Get", "/items/{id}")]]).2 =
            .ok entries' ∧
      entries.map ManifestEntry.service = ["a.A", "a.A"] ∧
      entries'.map ManifestEntry.service = ["b.B", "a.A"] ∧
      ((entries.map ManifestEntry.key).map RouteKey.text).toFinset =
        ((entries'.map ManifestEntry.key).map RouteKey.text).toFinset ∧
      (entries.map ManifestEntry.key).toFinset = (entries'.map ManifestEntry.key).toFinset := by
  have rearranged : Rearranges FileDescriptor.Reordered
      [.getters "a.proto" "a.A" [("Get", "/items/{id}"), ("List", "/items")],
        .getters "b.proto" "b.B" [("Get", "items/{id}")]]
      [.getters "b.proto" "b.B" [("Get", "items/{id}")],
        .getters "a.proto" "a.A" [("List", "/items"), ("Get", "/items/{id}")]] :=
    ⟨_, .cons (.getters (.swap ..)) (.cons (.getters (.refl _)) .nil), .swap ..⟩
  have told : ToldByText (Manifest.ruleKey "/v1") (List.flatMap FileDescriptor.rules
      [.getters "a.proto" "a.A" [("Get", "/items/{id}"), ("List", "/items")],
        .getters "b.proto" "b.B" [("Get", "items/{id}")]]) := by
    unfold ToldByText
    decide
  obtain ⟨-, built, made, listed⟩ := build_rearranged ⟨"/v1", .warn, .shared⟩ []
    (fun service m => some (service ++ m.name)) rearranged
  obtain ⟨texts, total, -⟩ := built _ _ _ _ rfl rfl
  obtain ⟨entries', swapped⟩ := made.mp ⟨_, rfl⟩
  obtain ⟨same_texts, same_keys⟩ := listed _ entries' rfl swapped
  refine ⟨_, _, _, _, _, entries', rfl, rfl, rfl, rfl, texts, total, rfl, swapped, rfl, ?_,
    same_texts, same_keys told⟩
  obtain rfl := Except.ok.inj swapped
  rfl

end RpcRoutes
