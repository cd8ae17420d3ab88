import RpcRoutes.Proofs.Routing.Mounting
import RpcRoutes.Startup.Build

/-!
# Tables of files

How the tables of a list of files come about, one file after another.

* `FileDescriptor.rules` lists the rules that are extracted from a file, mounted or not.
* `tablesFrom_cons_unextracted`, `tablesFrom_cons_unmounted` and `tablesFrom_cons_mounted` say what
  becomes of the first file and of those after it.
* `tablesFrom_cons_ok`: where all files are built, the first one's rules are mountable, and its
  table holds those that its registry admits.
-/

namespace RpcRoutes

variable {H : Type}

/-- The rules that are extracted from a file; none when its extraction fails. -/
def FileDescriptor.rules (file : FileDescriptor) : List OwnedRule :=
  match file.bindings with
  | .ok bindings => Mount.rules bindings
  | .error _ => []

theorem FileDescriptor.rules_eq {file : FileDescriptor} {bindings : List ServiceBinding}
    (extracted : file.bindings = .ok bindings) : file.rules = Mount.rules bindings := by
  rw [rules, extracted]

/-- A file with one service, which has one method that answers GET. -/
def FileDescriptor.getter (name service pattern : String) : FileDescriptor :=
  ⟨name, none, none,
    [⟨service, [⟨"Get", some (.mk (some pattern) none none none none none "" [])⟩]⟩]⟩

namespace RoutingConfig

/-- The group in which the rules of every file are mounted. -/
def group (config : RoutingConfig) (middleware : List (Middleware H)) : Group H :=
  (Group.root config.base).install middleware

/-- The site at which the rules of a file are mounted. -/
def site (config : RoutingConfig) (shared : Registry) (counters : Counters) : Site H :=
  ⟨config.scope.registryFor shared, .empty config.policy, counters⟩

/-- The key of a rule under the configured base. -/
def ruleKey (config : RoutingConfig) (r : OwnedRule) : RouteKey :=
  ⟨r.rule.method, Path.join (Path.nest "" config.base) r.rule.pattern⟩

theorem isRooted_ruleKey (config : RoutingConfig) (r : OwnedRule) :
    Path.IsRooted (config.ruleKey r).pattern :=
  Path.isRooted_join (Path.isBase_root config.base) r.rule.pattern

end RoutingConfig

/-- A result under a function is a value when it was one before. -/
theorem except_map_eq_ok_iff {ε α β : Type} {f : α → β} {r : Except ε α} {b : β} :
    r.map f = .ok b ↔ ∃ a, r = .ok a ∧ b = f a := by
  cases r with
  | error e => simp [Except.map]
  | ok a => simp [Except.map, eq_comm]

theorem except_map_eq_error_iff {ε α β : Type} {f : α → β} {r : Except ε α} {e : ε} :
    r.map f = .error e ↔ r = .error e := by
  cases r <;> simp [Except.map]

theorem map_eq_ok_iff {γ ε α β : Type} {f : α → β} {p : γ × Except ε α} {c : γ} {b : β} :
    p.map id (Except.map f) = (c, .ok b) ↔ ∃ a, p = (c, .ok a) ∧ b = f a := by
  cases p
  simp [except_map_eq_ok_iff, and_assoc]

section Build

open Mount

variable [PatternEngine] {config : RoutingConfig} {middleware : List (Middleware H)}
  {resolver : HandlerResolver H} {shared : Registry} {counters last : Counters}
  {file : FileDescriptor} {files : List FileDescriptor} {bindings : List ServiceBinding}
  {after : Site H}

theorem tablesFrom_cons_unextracted {e : BindingError} (fails : file.bindings = .error e) :
    tablesFrom config middleware resolver shared counters (file :: files) =
      (counters, .error ⟨file.name, .binding e⟩) := by
  rw [tablesFrom, fails]

theorem tablesFrom_cons_unmounted {e : RouteError} (extracted : file.bindings = .ok bindings)
    (fails : (config.group middleware).mount (config.site shared counters) bindings resolver =
      (after, .error e)) :
    tablesFrom config middleware resolver shared counters (file :: files) =
      (after.counters, .error ⟨file.name, .route e⟩) := by
  rw [RoutingConfig.group, RoutingConfig.site] at fails
  rw [tablesFrom, extracted]
  simp only [fails]

theorem tablesFrom_cons_mounted {report : MountReport} (extracted : file.bindings = .ok bindings)
    (done : (config.group middleware).mount (config.site shared counters) bindings resolver =
      (after, .ok report)) :
    tablesFrom config middleware resolver shared counters (file :: files) =
      (tablesFrom config middleware resolver (config.scope.carry shared after.registry)
        after.counters files).map id (Except.map (after.table :: ·)) := by
  rw [RoutingConfig.group, RoutingConfig.site] at done
  rw [tablesFrom, extracted]
  simp only [done]
  rcases tablesFrom config middleware resolver (config.scope.carry shared after.registry)
    after.counters files with ⟨last, result⟩
  cases result with
  | error e => rfl
  | ok tables => rfl

theorem tablesFrom_nil_ok_iff {tables : List (Table H)} :
    tablesFrom config middleware resolver shared counters [] = (last, .ok tables) ↔
      last = counters ∧ tables = [] := by
  simp [tablesFrom, eq_comm]

/-- A list of files is built exactly when the first is mounted and the others are built after
it. -/
theorem tablesFrom_cons_ok_iff {tables : List (Table H)} :
    tablesFrom config middleware resolver shared counters (file :: files) = (last, .ok tables) ↔
      ∃ (bindings : List ServiceBinding) (after : Site H) (report : MountReport)
        (rest : List (Table H)), file.bindings = .ok bindings ∧
        (config.group middleware).mount (config.site shared counters) bindings resolver =
          (after, .ok report) ∧
        tablesFrom config middleware resolver (config.scope.carry shared after.registry)
          after.counters files = (last, .ok rest) ∧
        tables = after.table :: rest := by
  cases extracted : file.bindings with
  | error e =>
      rw [tablesFrom_cons_unextracted extracted]
      simp
  | ok bindings =>
      rcases result : (config.group middleware).mount (config.site shared counters) bindings
        resolver with ⟨after, e | report⟩
      · rw [tablesFrom_cons_unmounted extracted result]
        simp [result]
      · rw [tablesFrom_cons_mounted extracted result, map_eq_ok_iff]
        simp [result]

/-- A list of files that is built begins with a file that is mounted. -/
theorem tablesFrom_cons_ok {tables : List (Table H)}
    (built : tablesFrom config middleware resolver shared counters (file :: files) =
      (last, .ok tables)) :
    ∃ (bindings : List ServiceBinding) (after : Site H) (rest : List (Table H)),
      file.bindings = .ok bindings ∧
      (∀ r ∈ rules bindings, resolver r.service r.method ≠ none) ∧
      Mountable (config.group middleware) (config.site shared counters) (rules bindings) ∧
      Mounts (config.group middleware) (config.site shared counters) resolver (rules bindings)
        after ∧
      tablesFrom config middleware resolver (config.scope.carry shared after.registry)
        after.counters files = (last, .ok rest) ∧
      tables = after.table :: rest := by
  obtain ⟨bindings, after, report, rest, extracted, done, later, rfl⟩ :=
    tablesFrom_cons_ok_iff.mp built
  obtain ⟨handled, mountable, mounts⟩ := Group.mounts_of_mount_ok done
  exact ⟨bindings, after, rest, extracted, Checked.handled_rules handled, mountable, mounts, later,
    rfl⟩

/-- The shadowed routes that are counted at the end change no table. -/
theorem buildTables_snd : (buildTables config middleware resolver files).2 =
    (tablesFrom config middleware resolver .empty .zero files).2 := by
  rw [buildTables]
  rcases tablesFrom config middleware resolver .empty .zero files with ⟨last, result⟩
  cases result with
  | error e => rfl
  | ok tables => rfl

end Build

end RpcRoutes
