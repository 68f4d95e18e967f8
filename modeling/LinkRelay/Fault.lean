import LinkRelay.ExitStatus
import LinkRelay.Path
import LinkRelay.Text.Quoted
import LinkRelay.Text.Utf8
import LinkRelay.Words

namespace LinkRelay

/-- A refusal by the operating system: its number if it carries one, its text, and the path that it
is about if it names one. -/
structure SystemError where
  number : Option Int
  text : String
  path : Option String
deriving DecidableEq, Repr

/-- The path is told only together with a number. -/
def SystemError.message (e : SystemError) : String :=
  match e.number, e.path with
  | none, _ => e.text
  | some n, none => s!"[Errno {n}] {e.text}"
  | some n, some path => s!"[Errno {n}] {e.text}: {Text.quote path}"

/-- Why a file has no text: it cannot be read, or its bytes are no text. -/
inductive ReadError where
  | refused (cause : SystemError)
  | notText (cause : Utf8.Fault)
deriving DecidableEq, Repr

def ReadError.message : ReadError → String
  | .refused e => e.message
  | .notText f => f.message

/-- What a finished process has written to. -/
inductive Stream where
  | output
  | errors
deriving DecidableEq, Repr

def Stream.name : Stream → String
  | .output => "stdout"
  | .errors => "stderr"

/-- The conditions that this program reports of itself. -/
inductive LinkError where
  /-- A flag that takes a value is the last token. -/
  | danglingFlag (flag : String)
  | linkerNotFound
  | argumentsUnreadable (path : Path) (cause : ReadError)
  | argumentsUnsplittable (path : Path) (cause : Words.Fault)
  | linkerNotStarted (linker : String) (cause : SystemError)
  | outputNotText (stream : Stream) (cause : Utf8.Fault)
  | linkerFailed (linker : String) (status : Int) (errors : String)
  /-- The environment asks for a failure after a good link. -/
  | failureRequested
  /-- A failure of the linker's run in words of the starter. -/
  | linkerTrouble (text : String)
  /-- Any other condition in words of the starter. -/
  | trouble (text : String)
deriving DecidableEq, Repr

def LinkError.message : LinkError → String
  | .danglingFlag flag => s!"argument '{flag}': expected a value"
  | .linkerNotFound =>
    "Cannot locate argument '--ldproxy-linker <linker>' and no linker found in environment or PATH"
  | .argumentsUnreadable path cause => s!"cannot read response file {path}: {cause.message}"
  | .argumentsUnsplittable path cause => s!"cannot tokenize response file {path}: {cause.message}"
  | .linkerNotStarted linker cause => s!"cannot run linker {linker}: {cause.message}"
  | .outputNotText stream cause => s!"linker {stream.name} is not valid UTF-8: {cause.message}"
  | .linkerFailed linker status errors =>
    s!"Linker {linker} failed: {ExitStatus.describe status}\nSTDERR OUTPUT:\n{errors}"
  | .failureRequested => "Failure requested"
  | .linkerTrouble text => text
  | .trouble text => text

/-- What ends a run early. The conditions that this program reports of itself are set apart from
what the system, or the linker's starter, can throw in. -/
inductive Fault where
  | link (error : LinkError)
  | system (error : SystemError)
  | notText (fault : Utf8.Fault)
  /-- A text to be written that stands for bytes which are no text. -/
  | unencodable (cause : Utf8.Unencodable)
  /-- A value that no operation accepts, such as a path that holds the character zero. -/
  | badValue (text : String)
  /-- A failure at run time in words of the starter. -/
  | internal (text : String)
  | interrupted (text : String)
deriving DecidableEq, Repr

def Fault.message : Fault → String
  | .link e => e.message
  | .system e => e.message
  | .notText f => f.message
  | .unencodable cause => cause.message
  | .badValue text => text
  | .internal text => text
  | .interrupted text => text

/-- The reason why a file has no text, if the fault is one. -/
def Fault.readError? : Fault → Option ReadError
  | .system e => some (.refused e)
  | .notText f => some (.notText f)
  | _ => none

end LinkRelay
