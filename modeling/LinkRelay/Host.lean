import LinkRelay.Environment
import LinkRelay.Step

namespace LinkRelay

/-- What a finished process leaves: its status, negative for a signal, and what it wrote. -/
structure Finished where
  status : Int
  output : List UInt8
  errors : List UInt8
deriving DecidableEq, Repr

/-- Runs a command to its end in a directory on a disk. The run may change the disk, also when it
ends in a fault. -/
abbrev Runner := List String → Option String → Disk → Disk × Except Fault Finished

/-- What a run finds around it: its own environment and process number, where temporary files go,
and how processes are run. -/
structure Host where
  /-- The environment of the running process, which an explicit one may stand in for. -/
  environment : Environment
  processId : Int
  temporary : Path
  runner : Runner
  /-- The characters of the command line that stand for bytes which are no text. -/
  standIns : Utf8.StandIns := .empty

/-- Runs a command; that it was started is an event even if it could not be. -/
def Host.start (host : Host) (command : List String) (directory : Option String) : Step Finished :=
  fun disk =>
    let (disk', answer) := host.runner command directory disk
    ⟨[.started ⟨command, directory, disk⟩], disk', answer⟩

end LinkRelay
