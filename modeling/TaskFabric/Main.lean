import TaskFabric.Program
import TaskFabric.Shell.Service

/-! The command line: looks at the files that a command needs, runs it, and writes what changed. -/

namespace TaskFabric.Shell

open Std.Async

/-- The case file that a list of arguments leads to, and the disk as far as they need it: the file
of the configuration and the case file.
-/
def surroundings (arguments : List String) : IO (Path × Disk) := do
  let disk ← emptyDisk
  match CommandLine.parse arguments with
  | .error _ => return (⟨""⟩, disk)
  | .ok invocation =>
      let disk ←
        match invocation.config with
        | some path => observe path disk
        | none => pure disk
      match Program.configOf invocation disk with
      | .error _ => return (⟨""⟩, disk)
      | .ok config => return (⟨config.node.caseFile⟩, ← observe ⟨config.node.caseFile⟩ disk)

/-- Says how a run ended, and answers its exit code. -/
def conclude (ending : Ending) : IO UInt32 := do
  if let some text := ending.output then
    IO.println text
  if let some line := ending.complaint then
    IO.eprintln line
  return ending.code.toUInt32

/-- Runs the program. A case file that the machine refuses is one that cannot be written. -/
def start (arguments : List String) : Async UInt32 := do
  let (caseFile, before) ← surroundings arguments
  let found ← IO.mkRef none
  let (run, after) ← Program.run (network found) (← wallClock) arguments before
  let saved ← tryCatch (do save before after; return true) fun _ => return false
  if !saved then
    return ← conclude (.failed (.caseNotWritten caseFile))
  match run, ← found.get with
  | .serving node config, some server =>
      serve node after ⟨network found, config.dialTimeout⟩ server
      return 0
  | .ended ending, _ => conclude ending
  | .serving _ _, none => return 1

end TaskFabric.Shell

def main (arguments : List String) : IO UInt32 := (TaskFabric.Shell.start arguments).block
