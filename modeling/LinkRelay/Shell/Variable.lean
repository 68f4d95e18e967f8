import LinkRelay.Environment
import LinkRelay.Shell.Source
import LinkRelay.Text.Utf8

namespace LinkRelay.Shell

/-- A text as the bytes of its UTF-8 form. -/
def ofString (text : String) : Chars :=
  (Utf8.encode text).map fun b => Char.ofNat b.toNat

def toBytes (text : Chars) : List UInt8 :=
  text.map fun c => UInt8.ofNat c.toNat

def ofBytes (bytes : List UInt8) : Chars :=
  bytes.map fun b => Char.ofNat b.toNat

/-- The text that bytes stand for, or the bytes one by one if they stand for none. -/
def toText (text : Chars) : String :=
  match Utf8.decode (toBytes text) with
  | .ok s => s
  | .error _ => String.ofList text

/-- Whether a text comes before another one, or is the same: by the first bytes that differ. -/
def precedes : Chars → Chars → Bool
  | [], _ => true
  | _, [] => false
  | a :: as, b :: bs => a < b || (a = b && precedes as bs)

structure Variable where
  /-- None if the variable is only known to be exported or fixed. -/
  value : Option Chars
  /-- Whether programs find it in their environment. -/
  exported : Bool
  /-- Whether it keeps its value. -/
  fixed : Bool

abbrev Variables := List (Chars × Variable)

namespace Variables

def find? (vars : Variables) (name : Chars) : Option Variable :=
  List.lookup name vars

/-- The variables with a given one in place of the one that had its name; a new one comes last. -/
def put : Variables → Chars → Variable → Variables
  | [], name, v => [(name, v)]
  | (other, w) :: rest, name, v =>
    if other = name then (name, v) :: rest else (other, w) :: put rest name v

def erase (vars : Variables) (name : Chars) : Variables :=
  vars.filter fun v => v.1 ≠ name

/-- The variables with a given one as it was before, or without it. -/
def restore (vars : Variables) (name : Chars) : Option Variable → Variables
  | some v => vars.put name v
  | none => vars.erase name

/-- The variables in the order of their names. -/
def sorted (vars : Variables) : Variables :=
  vars.mergeSort fun a b => precedes a.1 b.1

/-- The place of a name in the environment of programs, among 39. -/
def place (name : Chars) : Nat :=
  ((name.headD '\x00').toNat * 16 + name.foldl (fun n c => n + c.toNat) 0) % 39

/-- The environment of programs, in the order of the places of names. -/
def environment (vars : Variables) : List (Chars × Chars) :=
  let exported := vars.filterMap fun (name, v) =>
    if v.exported then v.value.map fun value => (name, value) else none
  exported.mergeSort fun a b => decide (place a.1 ≤ place b.1)

end Variables

/-- A text in quotes, as a shell reads it back: single quotes in it stand in double ones. -/
def quoted : Nat → Chars → Chars
  | 0, _ => []
  | fuel + 1, text =>
    let plain := text.takeWhile (· ≠ '\'')
    let rest := text.dropWhile (· ≠ '\'')
    let marks := rest.takeWhile (· = '\'')
    let others := rest.dropWhile (· = '\'')
    let first := '\'' :: plain ++ ['\'']
    if marks.isEmpty then first
    else
      let second := first ++ '"' :: marks ++ ['"']
      if others.isEmpty then second else second ++ quoted fuel others

def quote (text : Chars) : Chars :=
  quoted (text.length + 1) text

/-- A line about a variable, after a given word. -/
def Variables.describe (word : String) (name : Chars) (v : Variable) : Chars :=
  word.toList ++ name ++
    (match v.value with
    | some value => '=' :: quote value
    | none => []) ++ ['\n']

end LinkRelay.Shell
