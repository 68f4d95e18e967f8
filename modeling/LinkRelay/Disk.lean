import LinkRelay.Fault
import LinkRelay.Text.Newline

namespace LinkRelay

/-- A place on the disk: the names from the root down. -/
abbrev Location := List String

inductive Node where
  | directory
  | file (bytes : List UInt8) (executable : Bool)
  /-- A device that reads as empty and takes whatever is written to it. -/
  | sink
deriving DecidableEq, Repr

/-- What stands where, and the location that relative names start from. The root is always a
directory; of several entries for one location the first one counts. There are no links, so that two
names lead to one location only by way of `.` and `..`; whoever uses the disk may read, write and
search everything on it; and it is never full and never fails. What holds of all disks is said of
such disks alone. -/
structure Disk where
  nodes : List (Location × Node)
  here : Location
deriving DecidableEq, Repr

/-- Why an operation on a name is refused. -/
inductive Refusal where
  | missing
  | notDirectory
  | isDirectory
  | nameTooLong
  /-- The name holds the character zero, which ends names. -/
  | holdsZero
deriving DecidableEq, Repr

/-- The fault that a refusal is, for an operation on the given name. -/
def Refusal.fault (name : String) : Refusal → Fault
  | .missing => .system ⟨some 2, "No such file or directory", some name⟩
  | .notDirectory => .system ⟨some 20, "Not a directory", some name⟩
  | .isDirectory => .system ⟨some 21, "Is a directory", some name⟩
  | .nameTooLong => .system ⟨some 36, "File name too long", some name⟩
  | .holdsZero => .badValue "embedded null byte"

namespace Disk

/-- What stands at a location. -/
def node? (disk : Disk) (loc : Location) : Option Node :=
  if loc = [] then some .directory else List.lookup loc disk.nodes

/-- A disk with a node at a location, in place of what stood there. -/
def put (disk : Disk) (loc : Location) (node : Node) : Disk :=
  { disk with nodes := (loc, node) :: disk.nodes.filter fun e => e.1 ≠ loc }

/-- A disk with nothing at a location. -/
def erase (disk : Disk) (loc : Location) : Disk :=
  { disk with nodes := disk.nodes.filter fun e => e.1 ≠ loc }

/-- A disk without a location and all that is below it. -/
def prune (disk : Disk) (loc : Location) : Disk :=
  { disk with nodes := disk.nodes.filter fun e => !loc.isPrefixOf e.1 }

/-- A disk with a node at a location and directories wherever nothing stood above it. -/
def grow (disk : Disk) (loc : Location) (node : Node) : Disk :=
  let raise (d : Disk) (n : Nat) :=
    if (d.node? (loc.take n)).isSome then d else d.put (loc.take n) .directory
  ((List.range loc.length).foldl raise disk).put loc node

/-- What is below a location: the names from there on, each with its node. -/
def below (disk : Disk) (loc : Location) : List (List String × Node) :=
  disk.nodes.filterMap fun (l, node) =>
    if loc.isPrefixOf l && l ≠ loc then some (l.drop loc.length, node) else none

/-- The most bytes a component may have. -/
def componentLimit : Nat := 255

/-- A name has fewer bytes than this. -/
def nameLimit : Nat := 4096

/-- Goes one component on from a location, which has to be a directory. Where this leads need not
exist. -/
def enter (disk : Disk) (loc : Location) (part : String) : Except Refusal Location :=
  match disk.node? loc with
  | none => .error .missing
  | some .directory =>
    if part = "" || part = "." then .ok loc
    else if part = ".." then .ok loc.dropLast
    else if componentLimit < part.utf8ByteSize then .error .nameTooLong
    else .ok (loc ++ [part])
  | some _ => .error .notDirectory

/-- The location that a name leads to, whether something stands there or not. -/
def walk (disk : Disk) (name : String) : Except Refusal Location :=
  if name.toList.contains (Char.ofNat 0) then .error .holdsZero
  else if nameLimit ≤ name.utf8ByteSize then .error .nameTooLong
  else if name = "" then .error .missing
  else
    (Text.split '/' name).foldlM disk.enter (if Text.startsWith name "/" then [] else disk.here)

/-- What a name leads to. -/
def stat (disk : Disk) (name : String) : Except Refusal Node := do
  let loc ← disk.walk name
  match disk.node? loc with
  | some node => .ok node
  | none => .error .missing

/-- Whether a name leads to something. -/
def exists? (disk : Disk) (name : String) : Bool :=
  (disk.stat name).isOk

/-- Answers a question about what a path leads to. No answer is given for a name that is too long;
every other refusal means no. -/
def ask (disk : Disk) (path : Path) (question : Node → Bool) : Except Fault Bool :=
  match disk.stat path.toString with
  | .ok node => .ok (question node)
  | .error .nameTooLong => .error (Refusal.nameTooLong.fault path.toString)
  | .error _ => .ok false

/-- Whether a path leads to a directory. -/
def isDirectory (disk : Disk) (path : Path) : Except Fault Bool :=
  disk.ask path fun node => node = .directory

/-- Whether a path leads to a file. -/
def isFile (disk : Disk) (path : Path) : Except Fault Bool :=
  disk.ask path fun
    | .file _ _ => true
    | _ => false

/-- Whether a name leads to a file that may be executed. -/
def isExecutable (disk : Disk) (name : String) : Bool :=
  match disk.stat name with
  | .ok (.file _ executable) => executable
  | _ => false

/-- The bytes of the file that a name leads to. -/
def read (disk : Disk) (name : String) : Except Refusal (List UInt8) := do
  match ← disk.stat name with
  | .directory => .error .isDirectory
  | .file bytes _ => .ok bytes
  | .sink => .ok []

/-- The names in the directory that a name leads to, in no particular order. -/
def names (disk : Disk) (name : String) : Except Refusal (List String) := do
  let loc ← disk.walk name
  match disk.node? loc with
  | none => .error .missing
  | some .directory =>
    .ok ((disk.below loc).filterMap fun (l, _) => if l.length = 1 then l.head? else none)
  | some _ => .error .notDirectory

/-- Writes a file anew; one that is already there keeps its permission to be executed. -/
def write (disk : Disk) (name : String) (bytes : List UInt8) : Except Refusal Disk := do
  let loc ← disk.walk name
  match disk.node? loc with
  | none => .ok (disk.put loc (.file bytes false))
  | some (.file _ executable) => .ok (disk.put loc (.file bytes executable))
  | some .sink => .ok disk
  | some .directory => .error .isDirectory

/-- Removes a file. -/
def remove (disk : Disk) (name : String) : Except Refusal Disk := do
  match ← disk.stat name with
  | .directory => .error .isDirectory
  | _ => return disk.erase (← disk.walk name)

/-- The text of the file that a path leads to, with every line end as a line feed. -/
def readText (disk : Disk) (path : Path) : Except Fault String := do
  let bytes ← (disk.read path.toString).mapError (Refusal.fault path.toString)
  let text ← (Utf8.decode bytes).mapError Fault.notText
  return String.ofList (Text.unifyNewlines text.toList)

end Disk

end LinkRelay
