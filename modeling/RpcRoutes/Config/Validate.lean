import RpcRoutes.Config.Schema
import RpcRoutes.Net.SocketAddress
import RpcRoutes.Text.Quoted

/-!
# Validating settings

Settings that can be read need not make sense. Three of them are checked, and all faults are
reported, in a fixed order: the base is empty or starts with a slash and has no placeholders, the
log level is a known one, and the address to listen on is a socket address.

* `Config.faults` lists the faults of a configuration.
-/

namespace RpcRoutes

/-- What is wrong with a setting. -/
inductive ConfigFault where
  /-- The base is not empty and does not start with a slash. -/
  | relativeBase (base : String)
  | baseWithBraces
  | unknownLevel (level : String)
  /-- The address is no socket address. -/
  | badAddress (address : String)
  deriving DecidableEq, Repr

namespace ConfigFault

def field : ConfigFault → String
  | relativeBase _ => "routing.root_prefix"
  | baseWithBraces => "routing.root_prefix"
  | unknownLevel _ => "observability.log_level"
  | badAddress _ => "server.bind_address"

def message : ConfigFault → String
  | relativeBase base => "must be empty or start with '/', got " ++ Text.quoted base
  | baseWithBraces => "must not contain path parameters"
  | unknownLevel level => "unknown level " ++ Text.quoted level
  | badAddress address => "not a socket address: " ++ Text.quoted address

def text (f : ConfigFault) : String := f.field ++ ": " ++ f.message

end ConfigFault

namespace Config

def levels : List String := ["trace", "debug", "info", "warn", "error"]

/-- A text with its ASCII letters in lower case. -/
def lowerCase (s : String) : String := s.map Char.toLower

/-- The faults of a configuration, in the order of report. -/
def faults (c : Config) : List ConfigFault :=
  let base := c.routing.base
  (if base ≠ "" ∧ base.toList.head? ≠ some '/' then [.relativeBase base] else [])
    ++ (if '{' ∈ base.toList ∨ '}' ∈ base.toList then [.baseWithBraces] else [])
    ++ (if lowerCase c.observability.logLevel ∈ levels then []
        else [.unknownLevel c.observability.logLevel])
    ++ (if SocketAddress.isValid c.server.bindAddress then []
        else [.badAddress c.server.bindAddress])

end Config

end RpcRoutes
