import TextWalk.Command.Run

namespace TextWalk

open Command

def sourceFault : IO.Error → SourceFault
  -- A failure to open a file names it, and a failure to read it does not.
  | .inappropriateType none .. => .isDirectory
  | .inappropriateType (some _) .. => .cannotOpen .notDirectory
  | .invalidArgument .. => .cannotOpen .nameTooLong
  | .permissionDenied .. => .cannotOpen .denied
  | _ => .cannotOpen .missing

def readSource : Source → IO (Except SourceFault Bytes)
  | .standardInput => do
    let stdin ← IO.getStdin
    return .ok (← stdin.readBinToEnd).toList
  | .file name => do
    try
      return .ok (← IO.FS.readBinFile (shown name)).toList
    catch e =>
      return .error (sourceFault e)

/-- Runs an argument list on the standard input and the files of the system; only the source that
the request names is read. -/
def runProgram (args : List Bytes) : IO Outcome :=
  match request args with
  | .ok (.job j) => return j.run (← readSource j.source)
  | _ => return run args [] {}

end TextWalk

def main (args : List String) : IO UInt32 := do
  let outcome ← TextWalk.runProgram (args.map (·.toUTF8.toList))
  (← IO.getStdout).putStr outcome.stdout
  (← IO.getStderr).putStr outcome.stderr
  return if outcome.failed then 1 else 0
