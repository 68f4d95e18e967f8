import LinkRelay.Link
import LinkRelay.Log.Hierarchy
import LinkRelay.Log.Settings

namespace LinkRelay.Program

/-- How a run of the program ends: with an exit code, or with a fault that nobody catches. -/
inductive Ending where
  | exited (code : Nat)
  | escaped (fault : Fault)
deriving DecidableEq, Repr

/-- A piece of text written to a sink. -/
abbrev Writing := Log.Sink × String

/-- The logs of a process whose environment asks for them; `terminal` tells whether standard error
is one. -/
def configure (h : Log.Hierarchy) (env : Environment) (terminal : Bool) : Log.Hierarchy :=
  let settings := Log.Settings.ofEnvironment env terminal
  h.setUp settings.level ⟨.standardError, settings.colored⟩

/-- What the records of a run make the loggers write. -/
def writings (h : Log.Hierarchy) (records : List Log.Record) : List Writing :=
  records.flatMap h.writes

/-- A link with its logs: they are configured first, from the same environment. -/
structure Report where
  hierarchy : Log.Hierarchy
  written : List Writing
  outcome : Outcome LinkResult

/-- Runs a link and writes its logs. -/
def link (host : Host) (env : Environment) (terminal : Bool) (h : Log.Hierarchy)
    (argv : List String) (disk : Disk) : Report :=
  let h := configure h env terminal
  let outcome := Link.run host env argv disk
  ⟨h, writings h outcome.records, outcome⟩

/-- The variable that lets unexpected faults escape if its value is `1`. -/
def debugVariable : String := "DEBUG"

/-- The ending for an answer, and the message to leave. -/
def conclude (env : Environment) : Except Fault LinkResult → Ending × Option String
  | .ok _ => (.exited 0, none)
  | .error (.interrupted _) => (.exited 130, some "Interrupted by user.")
  | .error (.link e) => (.exited 1, some e.message)
  | .error fault =>
    if env.get? debugVariable = some "1" then (.escaped fault, none)
    else (.exited 1, some s!"Unexpected error: {fault.message}")

/-- What comes of a run of the program. -/
structure Run where
  hierarchy : Log.Hierarchy
  written : List Writing
  events : List Event
  disk : Disk
  ending : Ending

/-- Runs the program in its own environment. The message is written last and past the logs, so that
no filter can hide it. -/
def run (host : Host) (terminal : Bool) (h : Log.Hierarchy) (argv : List String) (disk : Disk) :
    Run :=
  let report := link host host.environment terminal h argv disk
  let (ending, message) := conclude host.environment report.outcome.answer
  let last := message.toList.map fun m => (Log.Sink.standardError, s!"Error: {m}\n")
  ⟨report.hierarchy, report.written ++ last, report.outcome.events, report.outcome.disk, ending⟩

end LinkRelay.Program
