import LinkRelay.Host

namespace LinkRelay.ResponseFile

def logger : String := "ldproxy.runtime.rsp"

/-- The text of a response file: one argument on each line, and no quotes. -/
def text (tokens : List String) : String :=
  "\n".intercalate tokens

/-- The name of the response file of a process. -/
def fileName (processId : Int) : String :=
  s!"ldproxy-{processId}.rsp"

/-- The response file of a process in a directory. -/
def path (directory : Path) (processId : Int) : Path :=
  directory.join (fileName processId)

/-- The response file of the running process, in the given directory or where temporary files go. -/
def pathOn (host : Host) (directory : Option Path) : Path :=
  path (directory.getD host.temporary) host.processId

/-- Opens a file anew and fills it. -/
def fill (path : Path) (bytes : List UInt8) : Step Unit :=
  Step.change fun disk =>
    (disk.write path.toString bytes).mapError (Refusal.fault path.toString)

/-- Writes a response file. It is open by the time that its text is encoded, so that a text which
cannot be encoded leaves an empty file. -/
def write (standIns : Utf8.StandIns) (tokens : List String) (path : Path) : Step Unit :=
  match standIns.encode (text tokens) with
  | .ok bytes => fill path bytes
  | .error cause => do
    fill path []
    Step.fail (.unencodable cause)

/-- Removes a file. -/
def remove (path : Path) : Step Unit :=
  Step.change fun disk => (disk.remove path.toString).mapError (Refusal.fault path.toString)

/-- Removes a response file after use. That it is gone already is fine; that it cannot be removed is
worth a warning. -/
def cleanUp (logger : String) (path : Path) : Step Unit := do
  match ← (remove path).attempt with
  | .ok () => pure ()
  | .error (.system cause) =>
    if cause.number = some 2 then pure ()
    else Step.warning logger s!"Could not remove response file {path}: {cause.message}"
  | .error fault => Step.fail fault

/-- Runs a step with a response file, or with none if the system refuses to write it. Any other
fault of the writing goes past the step, and past the cleaning up as well. -/
def within {α : Type} (standIns : Utf8.StandIns) (logger : String) (tokens : List String)
    (path : Path) (body : Option Path → Step α) : Step α := do
  match ← (write standIns tokens path).attempt with
  | .ok () =>
    Step.info logger s!"Wrote {tokens.length} args to response file: {path}"
    let answer ← (body (some path)).attempt
    cleanUp logger path
    Step.ofExcept answer
  | .error (.system cause) =>
    Step.warning logger
      s!"Failed to write response file: {cause.message}, falling back to direct args"
    let _ ← (remove path).attempt
    body none
  | .error fault => Step.fail fault

end LinkRelay.ResponseFile
