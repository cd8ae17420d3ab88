import RpcRoutes.Config.Schema
import RpcRoutes.Config.Setting
import RpcRoutes.Json.Value

/-!
# Reading settings

Settings start from their defaults and are changed member by member, in the order in which they
are written; the first member that cannot be read ends it. Unknown members count for nothing. A
section may also be written as the list of its fields from the first, and a choice as a section
with the choice's name as its only member.

* `Config.ofSetting` reads all settings, `RoutingConfig.ofSetting` those of one section.
-/

namespace RpcRoutes

/-- Why settings could not be read. -/
inductive SettingError where
  /-- A value is of the wrong kind. -/
  | wrongKind
  /-- A choice is not one of those that there are. -/
  | unknownChoice (given : String) (choices : List String)
  deriving DecidableEq, Repr

/-- The text of an unknown choice. -/
def SettingError.message? : SettingError → Option String
  | .wrongKind => none
  | .unknownChoice given choices =>
    some ("unknown variant `" ++ given ++ "`, expected "
      ++ " or ".intercalate (choices.map fun c => "`" ++ c ++ "`"))

namespace Setting

def asText : Setting → Except SettingError String
  | .text s => .ok s
  | _ => .error .wrongKind

def choiceOf {α : Type} (all : List α) (name : α → String) (given : String) :
    Except SettingError α :=
  match all.find? (fun a => name a == given) with
  | some a => .ok a
  | none => .error (.unknownChoice given (all.map name))

/-- One of several choices, each with its name. -/
def asChoice {α : Type} (form : SettingForm) (all : List α) (name : α → String) :
    Setting → Except SettingError α
  | .text s => choiceOf all name s
  | .section [(s, payload)] => do
    let a ← choiceOf all name s
    if form.isVoid payload then .ok a else .error .wrongKind
  | _ => .error .wrongKind

/-- The members of a section with the given fields, in the order in which they are written. -/
def membersOf (form : SettingForm) (fields : List String) :
    Setting → Except SettingError (List (String × Setting))
  | .section members => .ok members
  | .list items =>
    if items.length ≤ fields.length || form.spareItems then .ok (fields.zip items)
    else .error .wrongKind
  | .moment => .ok []
  | _ => .error .wrongKind

end Setting

namespace RoutingConfig

def set (form : SettingForm) (c : RoutingConfig) (member : String × Setting) :
    Except SettingError RoutingConfig :=
  match member.1 with
  | "root_prefix" => do pure { c with base := ← member.2.asText }
  | "duplicate_policy" => do
    pure { c with policy := ← member.2.asChoice form DuplicatePolicy.all DuplicatePolicy.name }
  | "registry_scope" => do
    pure { c with scope := ← member.2.asChoice form RegistryScope.all RegistryScope.name }
  | _ => pure c

def ofSetting (form : SettingForm) (v : Setting) : Except SettingError RoutingConfig := do
  let members ← v.membersOf form ["root_prefix", "duplicate_policy", "registry_scope"]
  members.foldlM (set form) default

end RoutingConfig

def ServerConfig.ofSetting (form : SettingForm) (v : Setting) :
    Except SettingError ServerConfig := do
  let members ← v.membersOf form ["bind_address"]
  members.foldlM
    (fun c member =>
      if member.1 = "bind_address" then do pure { c with bindAddress := ← member.2.asText }
      else pure c)
    .default

def ObservabilityConfig.ofSetting (form : SettingForm) (v : Setting) :
    Except SettingError ObservabilityConfig := do
  let members ← v.membersOf form ["log_level"]
  members.foldlM
    (fun c member =>
      if member.1 = "log_level" then do pure { c with logLevel := ← member.2.asText }
      else pure c)
    .default

namespace Config

def set (form : SettingForm) (c : Config) (member : String × Setting) :
    Except SettingError Config :=
  match member.1 with
  | "routing" => do pure { c with routing := ← RoutingConfig.ofSetting form member.2 }
  | "server" => do pure { c with server := ← ServerConfig.ofSetting form member.2 }
  | "observability" => do
    pure { c with observability := ← ObservabilityConfig.ofSetting form member.2 }
  | _ => pure c

def ofSetting (form : SettingForm) (v : Setting) : Except SettingError Config := do
  let members ← v.membersOf form ["routing", "server", "observability"]
  members.foldlM (set form) default

end Config

namespace Json

mutual

def toSetting : Json → Setting
  | .null => .null
  | .string s => .text s
  | .array items => .list (toSettings items)
  | .object members => .section (toMembers members)
  | .bool _ => .other
  | .number _ => .other
  | .raw _ => .other

def toSettings : List Json → List Setting
  | [] => []
  | v :: vs => v.toSetting :: toSettings vs

def toMembers : List (String × Json) → List (String × Setting)
  | [] => []
  | (name, v) :: ms => (name, v.toSetting) :: toMembers ms

end

end Json

end RpcRoutes
