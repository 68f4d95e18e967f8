import LinkRelay.Disk
import LinkRelay.Shell.Number
import LinkRelay.Shell.Setting
import LinkRelay.Shell.Variable

namespace LinkRelay.Shell

/-- What a descriptor is connected to. -/
inductive Channel where
  /-- A text that was or is written elsewhere, by its number. -/
  | pipe (number : Nat)
  /-- A file that was opened, by its number. -/
  | file (number : Nat)
  /-- Takes whatever is written, and reads as empty. -/
  | sink
deriving DecidableEq, Repr

/-- A text between writers and readers: what was written after it was last read, last character
first, and what is to be read before that. -/
structure Pipe where
  written : Chars
  ready : Chars

def Pipe.unread (p : Pipe) : Chars :=
  p.ready ++ p.written.reverse

/-- A file that is written to: the place where the next text goes, or none for the end. -/
structure OpenFile where
  loc : Location
  place : Option Nat

/-- The pipes that the output and the errors of a whole shell go to. -/
def outputPipe : Nat := 1

def errorPipe : Nat := 2

/-- What a running shell holds: the disk, its variables, functions and settings, and what its
descriptors are connected to. -/
structure State where
  disk : Disk
  /-- What complaints begin with. -/
  name : Chars
  /-- The command that complaints name, if any. -/
  speaker : Option Chars
  line : Nat
  positional : List Chars
  bindings : Variables
  functions : List (Chars × Command)
  settings : List Setting
  status : Nat
  /-- The status of the last script run for a word of the current command. -/
  inner : Nat
  descriptors : List (Nat × Channel)
  pipes : List (Nat × Pipe)
  files : List (Nat × OpenFile)
  documents : List (Nat × Word)
  /-- How many documents the scripts read so far have asked for. -/
  asked : Nat
  /-- How many loops of the current function the shell is in. -/
  loops : Nat
  /-- In a function, the variables that it has for itself, with what they are outside. -/
  locals : Option (List (Chars × Option Variable))
  /-- What is run at signals, by the names of the signals, and at the end under `EXIT`. -/
  traps : List (String × Chars)
  /-- The commands in the background, with their statuses. -/
  jobs : List (Nat × Nat)
  /-- The argument that `getopts` is at, and the place in it. -/
  optionIndex : Nat
  optionPlace : Nat
  mask : Nat
  /-- Whether something has failed so that the shell must end, unless a command stops that. -/
  broken : Bool

/-- How a command passes control on. -/
inductive Flow where
  | onward
  | leaveLoops (depth : Nat)
  | nextRound (depth : Nat)
  | leaveFunction
  | leaveShell
deriving DecidableEq, Repr

/-- The number that every shell gives as its own. -/
def processNumber : Nat := 4243

namespace State

def has (s : State) (setting : Setting) : Bool :=
  s.settings.contains setting

def lookup? (s : State) (name : Chars) : Option Chars :=
  (s.bindings.find? name).bind Variable.value

/-- The characters that words are split at. -/
def separators (s : State) : Chars :=
  (s.lookup? "IFS".toList).getD [' ', '\t', '\n']

/-- The positional parameters as one text. -/
def joinedPositional (s : State) : Chars :=
  (s.separators.take 1).intercalate s.positional

/-- The value of a parameter: a variable, a position, or one of the special ones. -/
def parameter? (s : State) (name : Chars) : Option Chars :=
  match name with
  | ['?'] => some (toString s.status).toList
  | ['#'] => some (toString s.positional.length).toList
  | ['$'] => some (toString processNumber).toList
  | ['!'] => s.jobs.head?.map fun job => (toString job.1).toList
  | ['-'] => some (Setting.letters s.settings)
  | ['@'] | ['*'] => if s.positional.isEmpty then none else some s.joinedPositional
  | _ =>
    if name.all Char.isDigit then
      match name.foldl (fun n c => n * 10 + (c.toNat - 48)) 0 with
      | 0 => some s.name
      | n + 1 => s.positional[n]?
    else s.lookup? name

def channel? (s : State) (descriptor : Nat) : Option Channel :=
  List.lookup descriptor s.descriptors

/-- Connects a descriptor, or closes it. -/
def connect (s : State) (descriptor : Nat) (channel : Option Channel) : State :=
  let others := s.descriptors.filter fun e => e.1 ≠ descriptor
  { s with
    descriptors := match channel with
      | some c => (descriptor, c) :: others
      | none => others }

/-- A new pipe with a text to be read from it, and its number. -/
def addPipe (s : State) (text : Chars) : State × Nat :=
  let number := (s.pipes.getLast?.map Prod.fst).getD 0 + 1
  ({ s with pipes := s.pipes ++ [(number, ⟨[], text⟩)] }, number)

/-- A file that is now written to from a given place on, and its number. -/
def addFile (s : State) (loc : Location) (place : Option Nat) : State × Nat :=
  let number := (s.files.getLast?.map Prod.fst).getD 0 + 1
  ({ s with files := s.files ++ [(number, ⟨loc, place⟩)] }, number)

/-- Leaves only the pipes and files that were there before, or that a descriptor is connected to. -/
def dropUnused (s before : State) : State :=
  let isUsed (channel : Channel) : Bool := s.descriptors.any fun d => d.2 = channel
  { s with
    pipes := s.pipes.filter fun p =>
      (before.pipes.any fun old => old.1 = p.1) || isUsed (.pipe p.1)
    files := s.files.filter fun f =>
      (before.files.any fun old => old.1 = f.1) || isUsed (.file f.1) }

/-- What is to be read from a pipe. -/
def unread (s : State) (number : Nat) : Chars :=
  ((List.lookup number s.pipes).map Pipe.unread).getD []

def putPipe (s : State) (number : Nat) (pipe : Pipe) : State :=
  { s with pipes := s.pipes.map fun e => if e.1 = number then (number, pipe) else e }

def input (s : State) (descriptor : Nat) : Chars :=
  match s.channel? descriptor with
  | some (.pipe number) => s.unread number
  | _ => []

/-- Leaves a text to be read from a descriptor. -/
def setInput (s : State) (descriptor : Nat) (text : Chars) : State :=
  match s.channel? descriptor with
  | some (.pipe number) => s.putPipe number ⟨[], text⟩
  | _ => s

/-- Writes to an open file. What was there before stays as far as nothing is written over it. -/
def writeFile (s : State) (number : Nat) (file : OpenFile) (text : Chars) : State :=
  match s.disk.node? file.loc with
  | some (.file before executable) =>
    let place := file.place.getD before.length
    let bytes := before.take place ++ List.replicate (place - before.length) 0 ++ toBytes text ++
      before.drop (place + text.length)
    let moved := { file with place := file.place.map (· + text.length) }
    { s with
      disk := s.disk.put file.loc (.file bytes executable)
      files := s.files.map fun f => if f.1 = number then (number, moved) else f }
  | _ => s

/-- Writes to a channel. -/
def send (s : State) (channel : Option Channel) (text : Chars) : State :=
  match channel with
  | some (.pipe number) =>
    match List.lookup number s.pipes with
    | some p => s.putPipe number { p with written := text.reverse ++ p.written }
    | none => s
  | some (.file number) =>
    match List.lookup number s.files with
    | some file => if text.isEmpty then s else s.writeFile number file text
    | none => s
  | some .sink | none => s

/-- Writes to what a descriptor is connected to. -/
def write (s : State) (descriptor : Nat) (text : Chars) : State :=
  s.send (s.channel? descriptor) text

/-- Complains in the shell's own words, and fails with a status. -/
def complain (s : State) (text : Chars) (status : Nat) : State :=
  let speaker :=
    match s.speaker with
    | some name => name ++ ": ".toList
    | none => []
  { s.write 2 (s.name ++ s!": {s.line}: ".toList ++ speaker ++ text ++ ['\n']) with
    status := status }

/-- Complains and breaks off. -/
def breakOff (s : State) (text : Chars) : State :=
  { s.complain text 2 with broken := true }

/-- Leaves control of jobs aside, which there is no terminal for. -/
def withoutJobs (s : State) : State :=
  if s.has .monitor then
    let status := s.status
    let s := s.complain "can't access tty; job control turned off".toList 0
    { s with settings := s.settings.filter (· ≠ .monitor), status := status }
  else s

/-- Gives a variable a value. A fixed one is not changed. -/
def setVariable (s : State) (name value : Chars) : State :=
  let v := (s.bindings.find? name).getD ⟨none, false, false⟩
  if v.fixed then s.breakOff (name ++ ": is read only".toList)
  else
    let v := { v with value := some value, exported := v.exported || s.has .allexport }
    let s := { s with bindings := s.bindings.put name v }
    if name = "OPTIND".toList then
      { s with optionIndex := max 1 ((natural? value).getD 1), optionPlace := 0 }
    else s

def exportVariable (s : State) (name : Chars) : State :=
  let v := (s.bindings.find? name).getD ⟨none, false, false⟩
  { s with bindings := s.bindings.put name { v with exported := true } }

def unset (s : State) (name : Chars) : State :=
  match s.bindings.find? name with
  | some v =>
    if v.fixed then s.breakOff (name ++ ": is read only".toList)
    else { s with bindings := s.bindings.erase name }
  | none => s

/-- Writes the output of a command of the shell, which fails if the output is closed. -/
def say (s : State) (text : Chars) : State :=
  if (s.channel? 1).isNone && !text.isEmpty then
    s.complain (s.speaker.getD [] ++ ": I/O error".toList) 1
  else s.write 1 text

def answer (s : State) (b : Bool) : State :=
  { s with status := if b then 0 else 1 }

/-- What is left of a state that a part of the shell has run on by itself, such as a command in
parentheses: the status of that part, and what it has written, on the disk and elsewhere. -/
def joining (s part : State) : State :=
  { s with
    disk := { part.disk with here := s.disk.here }
    pipes := part.pipes
    files := part.files
    asked := part.asked
    documents := part.documents
    status := part.status % 256 }

/-- The state in which a part of the shell runs by itself: traps are not passed on. -/
def parting (s : State) : State :=
  { s with traps := s.traps.filter fun t => t.2.isEmpty }

end State

end LinkRelay.Shell
