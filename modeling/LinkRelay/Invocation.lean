import LinkRelay.ResponseFile

namespace LinkRelay

/-- A successful link. -/
structure LinkResult where
  linker : String
  arguments : List String
  directory : Option String
  status : Int
  output : String
  errors : String
  responseFile : Option Path
deriving DecidableEq, Repr

namespace Invocation

def logger : String := "ldproxy.invoker"

/-- From this many arguments on, plus one, a response file is used. -/
def usualThreshold : Int := 500

/-- The variable that asks for a failure after a good link. -/
def failureVariable : String := "LDPROXY_LINK_FAIL"

/-- What an invocation takes from around it. -/
structure Settings where
  host : Host
  environment : Environment
  threshold : Int
  /-- Where response files go, if not to the place for temporary files. -/
  directory : Option Path

/-- Whether there are enough arguments for a response file. -/
def Settings.wantsResponseFile (s : Settings) (arguments : List String) : Bool :=
  s.threshold < arguments.length

/-- Logs the command: all of it if it is short, and else both of its ends. -/
def reportCommand (linker : String) (arguments : List String) : Step Unit := do
  Step.info logger s!"Linker command: {linker} (with {arguments.length} args)"
  let spaced := " ".intercalate
  if arguments.length < 50 then
    Step.debug logger s!"Full linker command: {linker} {spaced arguments}"
  else
    Step.debug logger s!"First 10 args: {spaced (arguments.take 10)}"
    Step.debug logger s!"Last 10 args: {spaced (arguments.drop (arguments.length - 10))}"

/-- Starts the linker. A refusal by the system means that it could not be started; any other fault
is the starter's own. -/
def start (host : Host) (linker : String) (arguments : List String) (directory : Option String) :
    Step Finished := do
  let command := linker :: arguments
  Step.debug logger s!"Calling actual linker: {Text.quoteList command}"
  match ← (host.start command directory).attempt with
  | .ok finished => pure finished
  | .error (.system cause) => Step.fail (.link (.linkerNotStarted linker cause))
  | .error fault => Step.fail fault

/-- The arguments that hand over a response file, or those that stand for themselves. -/
def handedOver (arguments : List String) : Option Path → List String
  | some path => [s!"@{path}"]
  | none => arguments

/-- Starts the linker with its arguments, through a response file if there are many; tells the
response file that was used. -/
def handOver (s : Settings) (linker : String) (arguments : List String)
    (directory : Option String) : Step (Finished × Option Path) := do
  let startWith (path : Option Path) : Step (Finished × Option Path) := do
    let finished ← start s.host linker (handedOver arguments path) directory
    pure (finished, path)
  if s.wantsResponseFile arguments then
    Step.info logger s!"Using response file due to {arguments.length} args"
    ResponseFile.within s.host.standIns logger arguments
      (ResponseFile.pathOn s.host s.directory) startWith
  else startWith none

/-- The text that the linker wrote to a stream. -/
def streamText (stream : Stream) (bytes : List UInt8) : Step String :=
  match Utf8.decode bytes with
  | .ok text => pure text
  | .error cause => Step.fail (.link (.outputNotText stream cause))

/-- What the end of the linker means: both streams have to be text, the status has to be zero, and
the environment must not ask for a failure. -/
def conclude (s : Settings) (linker : String) (arguments : List String)
    (directory : Option String) (finished : Finished) (path : Option Path) : Step LinkResult := do
  let output ← streamText .output finished.output
  let errors ← streamText .errors finished.errors
  Step.debug logger s!"==============Linker stdout:\n{output}\n=============="
  Step.debug logger s!"==============Linker stderr:\n{errors}\n=============="
  if finished.status ≠ 0 then Step.fail (.link (.linkerFailed linker finished.status errors))
  else if s.environment.has failureVariable then Step.fail (.link .failureRequested)
  else pure ⟨linker, arguments, directory, finished.status, output, errors, path⟩

/-- Runs the linker once. -/
def run (s : Settings) (linker : String) (arguments : List String) (directory : Option String) :
    Step LinkResult := do
  match directory.filter (· ≠ "") with
  | some path => Step.info logger s!"Linker working directory: {path}"
  | none => pure ()
  reportCommand linker arguments
  let (finished, path) ← handOver s linker arguments directory
  conclude s linker arguments directory finished path

end Invocation

end LinkRelay
