import LinkRelay.Disk
import LinkRelay.Shell.Number

namespace LinkRelay.Shell.Condition

inductive Operator where
  | unary (letter : Char)
  | binary (name : String)
  | negation
  | conjunction
  | disjunction
  | opening
  | closing
deriving DecidableEq, Repr

/-- The operator that a word may be. What a word means depends on how many there are: one that looks
like an operator may stand for itself. -/
def operator? (word : Chars) : Option Operator :=
  match word with
  | ['!'] => some .negation
  | ['('] => some .opening
  | [')'] => some .closing
  | ['-', 'a'] => some .conjunction
  | ['-', 'o'] => some .disjunction
  | ['-', c] => if "rwxefdcbpugkstznhOGLS".toList.contains c then some (.unary c) else none
  | word =>
    let name := String.ofList word
    if ["=", "!=", "<", ">", "-eq", "-ne", "-gt", "-ge", "-lt", "-le", "-nt", "-ot", "-ef"].contains
      name then some (.binary name) else none

/-- Whether the second of some words is an operator between two others. -/
def isBinary (word : Chars) : Bool :=
  operator? word matches some (.binary _)

/-- The operator that the first of some words is, given those after it. -/
def lead? : List Chars → Option Operator
  | [] => none
  | word :: rest =>
    match operator? word, rest with
    | some (.unary _), [] => none
    | some (.unary c), second :: _ :: _ => if isBinary second then none else some (.unary c)
    | some .opening, [] => none
    | found, _ => found

/-- What is wrong with the words of a condition. -/
abbrev Complaint := Chars

def complaint (word : String) (text : String) : Complaint :=
  (word ++ ": " ++ text).toList

variable (disk : Disk) (fileName : Chars → String)

/-- The answer to a question about one word. -/
def ask (question : Char) (word : Chars) : Except Complaint Bool :=
  let node? := (disk.stat (fileName word)).toOption
  match question with
  | 'n' => .ok !word.isEmpty
  | 'z' => .ok word.isEmpty
  | 'e' | 'r' | 'w' | 'O' | 'G' => .ok node?.isSome
  | 'f' => .ok (node? matches some (.file _ _))
  | 'd' => .ok (node? = some .directory)
  | 'c' => .ok (node? = some .sink)
  | 'x' =>
    match node? with
    | some (.file _ executable) => .ok executable
    | some .directory => .ok true
    | _ => .ok false
  | 's' =>
    match node? with
    | some (.file bytes _) => .ok !bytes.isEmpty
    | some .directory => .ok true
    | _ => .ok false
  | 't' =>
    match decimal? word with
    | some _ => .ok false
    | none => .error (complaint "Illegal number" (String.ofList word))
  | _ => .ok false

def compare (name : String) (a b : Chars) : Except Complaint Bool :=
  let number (word : Chars) : Except Complaint Int :=
    match decimal? word with
    | some n => .ok n
    | none => .error ("Illegal number: ".toList ++ word)
  let numbers (holds : Int → Int → Bool) : Except Complaint Bool := do
    return holds (← number a) (← number b)
  let exists? (word : Chars) : Bool := disk.exists? (fileName word)
  match name with
  | "=" => .ok (a = b)
  | "!=" => .ok (a ≠ b)
  | "<" => .ok (a < b)
  | ">" => .ok (b < a)
  | "-eq" => numbers fun x y => x = y
  | "-ne" => numbers fun x y => x ≠ y
  | "-gt" => numbers fun x y => x > y
  | "-ge" => numbers fun x y => x ≥ y
  | "-lt" => numbers fun x y => x < y
  | "-le" => numbers fun x y => x ≤ y
  | "-ef" =>
    .ok (exists? a && exists? b &&
      (disk.walk (fileName a)).toOption = (disk.walk (fileName b)).toOption)
  | _ => .ok false

mutual

/-- The answer of words up to where no `-o` follows, and the words from the last one used on. -/
def disjunction : Nat → List Chars → Except Complaint (Bool × List Chars)
  | 0, words => .ok (false, words)
  | fuel + 1, words => do
    let (a, words) ← conjunction fuel words
    if lead? (words.drop 1) = some .disjunction then
      let (b, words) ← disjunction fuel (words.drop 2)
      return (a || b, words)
    else return (a, words)

/-- The answer of words up to where no `-a` follows, and the words from the last one used on. -/
def conjunction : Nat → List Chars → Except Complaint (Bool × List Chars)
  | 0, words => .ok (false, words)
  | fuel + 1, words => do
    let (a, words) ← negation fuel words
    if lead? (words.drop 1) = some .conjunction then
      let (b, words) ← conjunction fuel (words.drop 2)
      return (a && b, words)
    else return (a, words)

/-- The answer of words that may begin with `!`, and the words from the last one used on. -/
def negation : Nat → List Chars → Except Complaint (Bool × List Chars)
  | 0, words => .ok (false, words)
  | fuel + 1, words => do
    match lead? words, words with
    | some .negation, [_] => return (true, words)
    | some .negation, _ =>
      let (a, words) ← negation fuel (words.drop 1)
      return (!a, words)
    | _, _ => primary fuel words

/-- The answer of one question, and the words from the last one used on. -/
def primary : Nat → List Chars → Except Complaint (Bool × List Chars)
  | 0, words => .ok (false, words)
  | fuel + 1, words => do
    match lead? words, words with
    | _, [] => return (false, [])
    | some .opening, _ :: rest =>
      if lead? rest = some .closing then return (false, rest)
      let (a, rest) ← disjunction fuel rest
      if lead? (rest.drop 1) = some .closing then return (a, rest.drop 1)
      else throw "closing paren expected".toList
    | some (.unary c), op :: rest =>
      match rest with
      | [] => throw (complaint (String.ofList op) "argument expected")
      | word :: _ => return (← ask disk fileName c word, rest)
    | _, word :: rest =>
      match lead? rest, rest with
      | some (.binary name), _ :: others =>
        match others with
        | [] => throw (complaint name "argument expected")
        | other :: _ => return (← compare disk fileName name word other, others)
      | _, _ => return (!word.isEmpty, word :: rest)

end

/-- The answer of words that make one condition. -/
def single (words : List Chars) : Except Complaint Bool := do
  let (answer, rest) ← disjunction disk fileName (8 * words.length + 8) words
  match rest with
  | word :: _ :: _ => throw (complaint (String.ofList word) "unexpected operator")
  | _ => return answer

/-- The answer of the words of `test`. Three words with a comparison in the middle are that
comparison, whatever the other two look like. -/
def evaluate : Nat → List Chars → Except Complaint Bool
  | 0, _ => .ok false
  | fuel + 1, words =>
    match words with
    | [] => .ok false
    | [a, op, b] =>
      if isBinary op then compare disk fileName (String.ofList op) a b
      else framed fuel words
    | [_, _, _, _] => framed fuel words
    | words => single disk fileName words
where
  /-- The answer of three or four words that may stand in parentheses or after `!`. -/
  framed (fuel : Nat) (words : List Chars) : Except Complaint Bool :=
    match words with
    | ['('] :: rest =>
      if rest.getLast? = some [')'] then single disk fileName rest.dropLast
      else single disk fileName words
    | ['!'] :: rest => (evaluate fuel rest).map (!·)
    | words => single disk fileName words

end LinkRelay.Shell.Condition
