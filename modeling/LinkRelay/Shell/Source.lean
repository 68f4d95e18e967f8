import LinkRelay.Shell.Command

namespace LinkRelay.Shell

/-- Why a script cannot be read, and on which line. -/
structure Mistake where
  line : Nat
  text : String

inductive Token where
  | word (fragments : Word)
  | reserved (text : String)
  | operator (text : String)
  | redirect (descriptor : Nat) (direction : Direction)
  | newline
  | ending

/-- A document that a line has asked for and that begins after it. -/
structure Awaited where
  number : Nat
  /-- The line that ends it. -/
  mark : Chars
  /-- Whether its text is taken as it stands. -/
  literal : Bool
  /-- Whether its lines are freed of tabs at the front. -/
  indented : Bool

/-- The text of a script while it is read: what is left of it, and what has been seen so far. -/
structure Source where
  text : Chars
  /-- More than the number of characters of the whole script. -/
  limit : Nat
  line : Nat
  /-- Tokens that were read and put back, next one first. -/
  ahead : List Token
  awaited : List Awaited
  /-- The documents read so far, and how many were asked for. -/
  documents : List (Nat × Word)
  asked : Nat

abbrev Reader := StateT Source (Except Mistake)

/-- The start of a script, after scripts that asked for some documents. -/
def Source.ofText (text : Chars) (asked : Nat) : Source :=
  ⟨text, text.length + 1, 1, [], [], [], asked⟩

def isNameStart (c : Char) : Bool := c.isAlpha || c = '_'

def isNameChar (c : Char) : Bool := c.isAlphanum || c = '_'

def isName (text : Chars) : Bool :=
  match text with
  | [] => false
  | c :: _ => isNameStart c && text.all isNameChar

/-- The characters that end a word and begin what is no word. -/
def isMeta (c : Char) : Bool :=
  [' ', '\t', '\n', ';', '&', '|', '(', ')', '<', '>'].contains c

/-- Whether a character means something to the reader of words. -/
def isSpecial (c : Char) : Bool :=
  isMeta c || ['\\', '\'', '"', '\x60', '$', '\x7d'].contains c

/-- What follows a number of joined line ends, and the number. -/
def skipJoins : Nat → Chars → Nat × Chars
  | n, '\\' :: '\n' :: rest => skipJoins (n + 1) rest
  | n, text => (n, text)

namespace Reader

def fail {α : Type} (text : String) : Reader α := do
  throw ⟨(← get).line, text⟩

def peek : Reader (Option Char) := do
  let s ← get
  let (joins, text) := skipJoins 0 s.text
  set { s with text := text, line := s.line + joins }
  return text.head?

def takeRaw : Reader (Option Char) := do
  let s ← get
  match s.text with
  | [] => return none
  | c :: rest =>
    set { s with text := rest, line := if c = '\n' then s.line + 1 else s.line }
    return some c

def take : Reader (Option Char) := do
  let _ ← peek
  takeRaw

/-- Takes the next character, which is not counted as a line end. -/
def takeUncounted : Reader (Option Char) := do
  let _ ← peek
  let s ← get
  set { s with text := s.text.drop 1 }
  return s.text.head?

def takeIf (c : Char) : Reader Bool := do
  if (← peek) = some c then
    let _ ← takeRaw
    return true
  else return false

/-- Takes characters as long as they are of a kind and none joins lines. -/
def takeWhile (kind : Char → Bool) : Reader Chars := do
  let s ← get
  let taken := s.text.takeWhile kind
  set { s with text := s.text.drop taken.length, line := s.line + taken.count '\n' }
  return taken

/-- Takes characters of a kind. -/
def takeKind (kind : Char → Bool) : Nat → Reader Chars
  | 0 => return []
  | fuel + 1 => do
    match ← peek with
    | some c =>
      if kind c then
        let taken ← takeWhile kind
        return taken ++ (← takeKind kind fuel)
      else return []
    | none => return []

def takeName : Reader Chars := do
  takeKind isNameChar (← get).limit

def putBack (token : Token) : Reader Unit :=
  modify fun s => { s with ahead := token :: s.ahead }

/-- Takes a text up to a single quote. -/
def takeSingleQuoted : Reader Chars := do
  let text ← takeWhile (· ≠ '\'')
  match ← takeRaw with
  | some _ => return text
  | none => fail "Syntax error: Unterminated quoted string"

/-- Takes a text up to a backquote, without the backslashes that protect characters in it. -/
def takeBackquoted (quoted : Bool) : Nat → Reader Chars
  | 0 => return []
  | fuel + 1 => do
    match ← take with
    | none => fail "Syntax error: EOF in backquote substitution"
    | some '\x60' => return []
    | some '\\' =>
      match ← takeRaw with
      | none => fail "Syntax error: EOF in backquote substitution"
      | some c =>
        let rest ← takeBackquoted quoted fuel
        if ['\\', '\x60', '$'].contains c || (quoted && c = '"') then return c :: rest
        else return '\\' :: c :: rest
    | some c => return c :: (← takeBackquoted quoted fuel)

/-- Takes the lines of a document and the mark after them. -/
def takeDocument (mark : Chars) (indented : Bool) : Nat → Reader Chars
  | 0 => return []
  | fuel + 1 => do
    if indented then let _ ← takeWhile (· = '\t')
    let line ← takeWhile (· ≠ '\n')
    let ended := (← takeRaw).isNone
    if line = mark then return []
    else if ended then return line
    else return line ++ '\n' :: (← takeDocument mark indented fuel)

end Reader

end LinkRelay.Shell
