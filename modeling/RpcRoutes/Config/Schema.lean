import RpcRoutes.Routing.Table

/-!
# Configuration

The settings of the program in three sections, each with its defaults.
-/

namespace RpcRoutes

/-- How far a registry reaches when several files are mounted. -/
inductive RegistryScope where
  | table
  | shared
  deriving DecidableEq, Repr

structure RoutingConfig where
  base : String
  policy : DuplicatePolicy
  scope : RegistryScope
  deriving DecidableEq, Repr

structure ServerConfig where
  bindAddress : String
  deriving DecidableEq, Repr

structure ObservabilityConfig where
  /-- The least level of the lines that are logged. -/
  logLevel : String
  deriving DecidableEq, Repr

structure Config where
  routing : RoutingConfig
  server : ServerConfig
  observability : ObservabilityConfig
  deriving DecidableEq, Repr

/-- No base, duplicates are errors, every table has its own registry. -/
def RoutingConfig.default : RoutingConfig := ⟨"", .reject, .table⟩

def ServerConfig.default : ServerConfig := ⟨"127.0.0.1:8080"⟩

def ObservabilityConfig.default : ObservabilityConfig := ⟨"info"⟩

def Config.default : Config := ⟨.default, .default, .default⟩

def DuplicatePolicy.name : DuplicatePolicy → String
  | .reject => "reject"
  | .warn => "warn"

def DuplicatePolicy.all : List DuplicatePolicy := [.reject, .warn]

def RegistryScope.name : RegistryScope → String
  | .table => "table"
  | .shared => "shared"

def RegistryScope.all : List RegistryScope := [.table, .shared]

/-- The log filter of a level: the library's own lines and those of its HTTP layer. -/
def ObservabilityConfig.filterOf (level : String) : String :=
  "route_binder=" ++ level ++ ",tower_http=" ++ level

end RpcRoutes
