import RpcRoutes.Program.CommandLine

/-!
# The program

Reads the files that the arguments name, prints what the command prints, and ends with its exit
code. All that it does is decided by `Command.run`.
-/

namespace RpcRoutes.Program

/-- The bytes of the named files that exist. -/
def readFiles (paths : List String) : IO (List (String × ByteArray)) :=
  paths.filterMapM fun (path : String) => do
    try
      let bytes ← IO.FS.readBinFile path
      return some (path, bytes)
    catch _ => return none

def filesOf : Option Invocation → List String
  | some (.command config (.routes file)) => config.toList ++ [file]
  | some (.command config (.serve file _)) => config.toList ++ [file]
  | _ => []

def run (args : List String) : IO UInt32 := do
  let contents ← readFiles (filesOf (Command.parse args))
  let effect := Command.run (fun path => List.lookup path contents) args
  IO.print effect.output
  match effect with
  | .fail reason => IO.eprintln ("Error: " ++ reason.getD "invalid input")
  | .misuse => IO.eprint Command.usage
  | .listen address _ => IO.eprintln ("Error: cannot listen at " ++ address)
  | .print _ => pure ()
  return effect.exitCode

end RpcRoutes.Program

def main (args : List String) : IO UInt32 := RpcRoutes.Program.run args
