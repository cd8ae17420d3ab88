import RpcRoutes.Config.Schema
import RpcRoutes.Routing.Mount
import RpcRoutes.Startup.Manifest

/-!
# Building from files

Every file gives one table, in the order of the files. All tables have the same base, policy and
layers; they share one registry or have one each, as the configuration says. The first failure
ends the building and names its file. The same files give one manifest.

* `buildTables` makes the tables; the routes that a text of an earlier table shadows are counted
  as duplicates.
* `buildManifest` makes the manifest.
-/

namespace RpcRoutes

/-- Why a file could not be used. -/
inductive FileFault where
  /-- Its rules could not be extracted. -/
  | binding (error : BindingError)
  /-- Its rules could not be mounted. -/
  | route (error : RouteError)
  /-- Its rules could not be listed. -/
  | manifest (error : ManifestError)
  deriving DecidableEq, Repr

def FileFault.message? : FileFault → Option String
  | .binding e => some e.message
  | .route e => e.message?
  | .manifest e => some e.message

/-- A fault with the file that has it. -/
structure StartupError where
  file : String
  fault : FileFault
  deriving DecidableEq, Repr

def StartupError.message? (e : StartupError) : Option String :=
  e.fault.message?.map fun text => e.file ++ ": " ++ text

namespace RegistryScope

/-- The registry that a file starts with, when earlier files left `shared`. -/
def registryFor (scope : RegistryScope) (shared : Registry) : Registry :=
  match scope with
  | .shared => shared
  | .table => .empty

/-- The registry for later files, when a file leaves `used` and earlier ones left `shared`. -/
def carry (scope : RegistryScope) (shared used : Registry) : Registry :=
  match scope with
  | .shared => used
  | .table => shared

end RegistryScope

variable {H : Type}

/-- Makes the tables of files in order, from the registry and the counters that earlier files
left. -/
def tablesFrom [PatternEngine] (config : RoutingConfig) (middleware : List (Middleware H))
    (resolver : HandlerResolver H) :
    Registry → Counters → List FileDescriptor → Counters × Except StartupError (List (Table H))
  | _, counters, [] => (counters, .ok [])
  | shared, counters, file :: files =>
    match file.bindings with
    | .error e => (counters, .error ⟨file.name, .binding e⟩)
    | .ok bindings =>
      let site : Site H :=
        ⟨config.scope.registryFor shared, .empty config.policy, counters⟩
      match ((Group.root config.base).install middleware).mount site bindings resolver with
      | (site, .error e) => (site.counters, .error ⟨file.name, .route e⟩)
      | (site, .ok _) =>
        match tablesFrom config middleware resolver (config.scope.carry shared site.registry)
            site.counters files with
        | (counters, .error e) => (counters, .error e)
        | (counters, .ok tables) => (counters, .ok (site.table :: tables))

/-- Makes the tables of files, and counts the routes that are shadowed. -/
def buildTables [PatternEngine] (config : RoutingConfig) (middleware : List (Middleware H))
    (resolver : HandlerResolver H) (files : List FileDescriptor) :
    Counters × Except StartupError (List (Table H)) :=
  match tablesFrom config middleware resolver .empty .zero files with
  | (counters, .error e) => (counters, .error e)
  | (counters, .ok tables) =>
    ((Table.shadowed tables).foldl (fun c (_, key) => c.addDuplicate key.method) counters,
      .ok tables)

/-- Lists the routes of files in order, from the registry and the counters that earlier files
left. -/
def manifestFrom (config : RoutingConfig) :
    Registry → Counters → List FileDescriptor → Counters × Except StartupError (List ManifestEntry)
  | _, counters, [] => (counters, .ok [])
  | shared, counters, file :: files =>
    match file.bindings with
    | .error e => (counters, .error ⟨file.name, .binding e⟩)
    | .ok bindings =>
      match Manifest.list config.base config.policy ⟨config.scope.registryFor shared, counters⟩
          bindings with
      | (s, .error e) => (s.counters, .error ⟨file.name, .manifest e⟩)
      | (s, .ok entries) =>
        match manifestFrom config (config.scope.carry shared s.registry) s.counters files with
        | (counters, .error e) => (counters, .error e)
        | (counters, .ok more) => (counters, .ok (entries ++ more))

def buildManifest (config : RoutingConfig) (files : List FileDescriptor) :
    Counters × Except StartupError (List ManifestEntry) :=
  manifestFrom config .empty .zero files

end RpcRoutes
