import DocQuery.Command.Run

/-! # The command line

Reads the arguments, the configuration file and the input, and prints what the command
leaves behind. -/
namespace DocQuery

/-- The content of a file. -/
def readFile (path : String) : IO File := do
  try
    return .bytes (← IO.FS.readBinFile path)
  catch
    | .noFileOrDirectory .. => return .missing
    | e => return .unreadable (toString e)

/-- All that is left of a stream. -/
partial def readAll (stream : IO.FS.Stream) (seen : ByteArray) : IO ByteArray := do
  let chunk ← stream.read 65536
  if chunk.isEmpty then return seen else readAll stream (seen ++ chunk)

def usage : String := "Usage: docquery <compile|explain> [--config <path>]\n"

/-- Prints why arguments make no command. -/
def reportUsage : UsageError → IO UInt32
  | .help => do
      IO.print usage
      return 0
  | .version => do
      IO.println "docquery"
      return 0
  | _ => do
      IO.eprint usage
      return 2

end DocQuery

open DocQuery in
/-- Runs the command of the arguments. -/
def main (args : List String) : IO UInt32 := do
  match Command.parse args with
  | .error e => reportUsage e
  | .ok command =>
      let file ← readFile command.config
      let out := command.mode.run file (← readAll (← IO.getStdin) ByteArray.empty)
      IO.print out.stdout
      IO.eprint out.stderr
      match out.failure with
      | none => return 0
      | some (.refused e) =>
          IO.eprintln e.report
          return 1
      | some (.outOfBounds size index) =>
          IO.eprintln (Failure.boundsMessage size index)
          return 1
