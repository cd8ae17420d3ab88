import RpcRoutes.Config.Decode
import RpcRoutes.Config.Validate
import RpcRoutes.Descriptor.Decode
import RpcRoutes.Toml.Reader

/-!
# Files

The two kinds of files that the program reads: a configuration in TOML and a descriptor document
in JSON. A file is given by its bytes, or is missing.

* `readConfig` reads a configuration from its text, `loadConfig` from a file.
* `loadDescriptors` reads a descriptor document from a file.
-/

namespace RpcRoutes

/-- The bytes of a file, or none when there is no such file. -/
abbrev FileBytes := Option ByteArray

/-- Why a file has no text. -/
inductive FileError where
  | notFound
  | notText
  deriving DecidableEq, Repr

def FileError.message : FileError → String
  | .notFound => "No such file or directory (os error 2)"
  | .notText => "stream did not contain valid UTF-8"

def textOf : FileBytes → Except FileError String
  | none => .error .notFound
  | some bytes =>
    match String.fromUTF8? bytes with
    | none => .error .notText
    | some text => .ok text

/-- Why a configuration could not be used. -/
inductive ConfigError where
  | file (error : FileError)
  | notToml
  /-- A setting could not be read. -/
  | setting (error : SettingError)
  | invalid (faults : List ConfigFault)
  deriving DecidableEq, Repr

def ConfigError.message? : ConfigError → Option String
  | .file e => some ("IO error: " ++ e.message)
  | .notToml => none
  | .setting e => e.message?
  | .invalid faults =>
    some ("Validation failed: " ++ ", ".intercalate (faults.map ConfigFault.text))

/-- Reads a configuration and validates it. -/
def readConfig (text : String) : Except ConfigError Config :=
  match Toml.read? text with
  | none => .error .notToml
  | some members =>
    match Config.ofSetting .lenient (.section (Toml.toSections members)) with
    | .error e => .error (.setting e)
    | .ok config =>
      match config.faults with
      | [] => .ok config
      | faults => .error (.invalid faults)

def loadConfig (bytes : FileBytes) : Except ConfigError Config :=
  match textOf bytes with
  | .error e => .error (.file e)
  | .ok text => readConfig text

/-- Why a descriptor file could not be used. -/
inductive DescriptorFileError where
  | file (error : FileError)
  /-- The text is no descriptor document. -/
  | document (error : DescriptorError)
  deriving DecidableEq, Repr

def DescriptorFileError.message? (path : String) : DescriptorFileError → Option String
  | .file e => some ("failed to read descriptor file " ++ path ++ ": " ++ e.message)
  | .document e =>
    e.message?.map fun text => "failed to parse descriptor file " ++ path ++ ": " ++ text

def loadDescriptors (bytes : FileBytes) : Except DescriptorFileError (List FileDescriptor) :=
  match textOf bytes with
  | .error e => .error (.file e)
  | .ok text =>
    match readDescriptors text with
    | .error e => .error (.document e)
    | .ok files => .ok files

end RpcRoutes
