import RecordStore.CommandLine.Run

namespace RecordStore.CommandLine

/-!
# The program

Reads the configuration file that the arguments name, runs the command on databases that are empty
at first, and reports a failure on the error stream.
-/

def filesFor (args : List String) : IO (List (String × String)) := do
  match Invocation.read args with
  | .error _ => return []
  | .ok i =>
    try
      return [(plainPath i.configPath, ← IO.FS.readFile i.configPath)]
    catch _ =>
      return []

def program (args : List String) : IO UInt32 := do
  let (result, _) := run ⟨← filesFor args, [], []⟩ args
  IO.print result.stdout
  if let some report := result.report then IO.eprintln report
  return UInt32.ofNat result.exitCode

end RecordStore.CommandLine

def main (args : List String) : IO UInt32 :=
  RecordStore.CommandLine.program args
