import RpcRoutes.Http.Dispatch
import RpcRoutes.Program.Engine
import RpcRoutes.Program.Files
import RpcRoutes.Startup.Build

/-!
# Command line

The program has two commands: one prints the manifest of a descriptor file, the other serves its
routes. A configuration file may be named before the command; the address to serve at may be
named after it.

* `Command.parse` reads the arguments.
* `Command.run` says what the program does, given the files that it reads.
-/

namespace RpcRoutes

inductive Command where
  /-- Prints the manifest of a descriptor file. -/
  | routes (descriptor : String)
  /-- Serves the routes of a descriptor file, at an address of its own if one is given. -/
  | serve (descriptor : String) (bind : Option String)
  deriving DecidableEq, Repr

/-- What the arguments ask for. -/
inductive Invocation where
  /-- A command, and the configuration file if one is named. -/
  | command (config : Option String) (command : Command)
  | help
  deriving DecidableEq, Repr

namespace Command

structure ValueOption where
  /-- Its short form, after one dash. -/
  short : Char
  /-- Its long form, after two dashes. -/
  long : String

/-- What the front of a list of arguments is. -/
inductive Front where
  /-- The option with its value, and the arguments that follow. -/
  | value (value : String) (rest : List String)
  | help
  | endOfOptions (rest : List String)
  /-- An argument that is no option. -/
  | plain (argument : String) (rest : List String)
  | none
  | malformed

/-- An argument with a dash in front is an option; a single dash is none. -/
def isOption (argument : String) : Bool :=
  match argument.toList with
  | '-' :: _ :: _ => true
  | _ => false

/-- The value of an option that stands in the next argument. -/
def separateValue : List String → Front
  | [] => .malformed
  | v :: rest => if isOption v then .malformed else .value v rest

/-- Looks at the front of a list of arguments; `option?` is the option that may stand there. -/
def front (option? : Option ValueOption) : List String → Front
  | [] => .none
  | argument :: rest =>
    if argument = "--help" ∨ "-h".toList.isPrefixOf argument.toList then .help
    else if argument = "--" then .endOfOptions rest
    else if !isOption argument then .plain argument rest
    else
      match option? with
      | .none => .malformed
      | .some o =>
        let cs := argument.toList
        let long := "--".toList ++ o.long.toList
        if cs = long ∨ cs = ['-', o.short] then separateValue rest
        else if (long ++ ['=']).isPrefixOf cs then
          .value (String.ofList (cs.drop (long.length + 1))) rest
        else
          match cs with
          | '-' :: c :: cs =>
            if c = o.short then
              .value (String.ofList (match cs with | '=' :: cs => cs | cs => cs)) rest
            else .malformed
          | _ => .malformed

/-- The arguments of a command as read so far. -/
structure Arguments where
  file : Option String
  /-- The value of the command's option. -/
  value : Option String

/-- Adds a file; there is one at most, and its name is not empty. -/
def Arguments.addFile (a : Arguments) (file : String) : Option Arguments :=
  if a.file.isSome || file.isEmpty then none else some { a with file := some file }

/-- Reads the arguments of a command: help, or the file and the option's value. `bound` limits
the number of arguments. -/
def arguments (option? : Option ValueOption) :
    (bound : Nat) → Arguments → List String → Option (Option Arguments)
  | 0, _, _ => none
  | bound + 1, a, args =>
    match front option? args with
    | .none => some (some a)
    | .help => some none
    | .malformed => none
    | .value v rest =>
      if a.value.isSome then none else arguments option? bound { a with value := some v } rest
    | .plain file rest => do arguments option? bound (← a.addFile file) rest
    | .endOfOptions rest => do pure (some (← rest.foldlM Arguments.addFile a))

def bindOption : ValueOption := ⟨'b', "bind"⟩

def configOption : ValueOption := ⟨'c', "config"⟩

def parseNamed (config : Option String) (name : String) (args : List String) :
    Option Invocation :=
  if name = "routes" then
    match arguments none (args.length + 1) ⟨none, none⟩ args with
    | some (some ⟨some file, _⟩) => some (.command config (.routes file))
    | some none => some .help
    | _ => none
  else if name = "serve" then
    match arguments (some bindOption) (args.length + 1) ⟨none, none⟩ args with
    | some (some ⟨some file, bind⟩) => some (.command config (.serve file bind))
    | some none => some .help
    | _ => none
  else if name = "help" then
    match args with
    | [] => some .help
    | [about] => if about = "routes" ∨ about = "serve" ∨ about = "help" then some .help else none
    | _ => none
  else none

/-- Reads all arguments; none when they are not used as they should be. -/
def parse (args : List String) : Option Invocation :=
  match front (some configOption) args with
  | .plain name rest => parseNamed none name rest
  | .help => some .help
  | .value config rest =>
    if config.isEmpty then none
    else
      match front (some configOption) rest with
      | .plain name rest => parseNamed (some config) name rest
      | .help => some .help
      | _ => none
  | _ => none

inductive Effect where
  /-- Prints a text and ends well. -/
  | print (text : String)
  /-- Ends with an error, of which the reason may be told. -/
  | fail (reason : Option String)
  /-- Ends because the arguments are not used as they should be. -/
  | misuse
  | listen (address : String) (tables : List (Table Handler))

/-- The exit code of a program that ends. Serving needs a network: without one it ends in an
error. -/
def Effect.exitCode : Effect → UInt32
  | .print _ => 0
  | .fail _ => 1
  | .misuse => 2
  | .listen _ _ => 1

/-- What a program that ends has printed. -/
def Effect.output : Effect → String
  | .print text => text
  | _ => ""

def usage : String :=
  "Compile HTTP bindings of RPC services into route tables\n\n"
    ++ "Usage: [--config FILE] routes FILE\n"
    ++ "       [--config FILE] serve FILE [--bind ADDRESS]\n"

def runWith (files : String → FileBytes) (config : Config) : Command → Effect
  | .routes descriptor =>
    match loadDescriptors (files descriptor) with
    | .error e => .fail (e.message? descriptor)
    | .ok descriptors =>
      match (buildManifest config.routing descriptors).2 with
      | .error e => .fail e.message?
      | .ok entries => .print (Manifest.render entries ++ "\n")
  | .serve descriptor bind =>
    match loadDescriptors (files descriptor) with
    | .error e => .fail (e.message? descriptor)
    | .ok descriptors =>
      match (buildTables config.routing [Handler.requestId, Handler.accessLog]
          Handler.echoResolver descriptors).2 with
      | .error e => .fail e.message?
      | .ok tables => .listen (bind.getD config.server.bindAddress) tables

/-- What the program does with its arguments, given the files it reads. -/
def run (files : String → FileBytes) (args : List String) : Effect :=
  match parse args with
  | none => .misuse
  | some .help => .print usage
  | some (.command none command) => runWith files .default command
  | some (.command (some path) command) =>
    match loadConfig (files path) with
    | .error e => .fail e.message?
    | .ok config => runWith files config command

end Command

end RpcRoutes
