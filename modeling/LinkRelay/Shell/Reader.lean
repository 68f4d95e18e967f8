import LinkRelay.Shell.Source

namespace LinkRelay.Shell

open Reader

def reservedWords : List String :=
  ["!", "case", "do", "done", "elif", "else", "esac", "fi", "for", "if", "in", "then", "until",
    "while", "\x7b", "\x7d"]

/-- The commands of the shell that no function can stand in for. -/
def specialCommands : List String :=
  [".", ":", "break", "continue", "eval", "exec", "exit", "export", "local", "readonly", "return",
    "set", "shift", "times", "trap", "unset"]

/-- The reserved word that a word is if it has no quotes. -/
def reserved? : Word → Option String
  | [.plain text] =>
    let text := String.ofList text
    if reservedWords.contains text then some text else none
  | _ => none

/-- What a token is called in a mistake. -/
def Token.describe : Token → String
  | .word _ => "word"
  | .reserved text | .operator text => s!"\"{text}\""
  | .redirect _ _ => "redirection"
  | .newline => "newline"
  | .ending => "end of file"

/-- The mistake that a token is, where another one was expected or none fits. -/
def unexpected {α : Type} (token : Token) (expected : Option String) : Reader α :=
  fail ("Syntax error: " ++ token.describe ++ " unexpected" ++
    match expected with
    | some other => s!" (expecting {other})"
    | none => "")

/-- Whether a list of commands may end before a token. -/
def Token.endsList : Token → Bool
  | .ending => true
  | .operator text => text = ")" || text = ";;"
  | .reserved text => ["do", "done", "elif", "else", "esac", "fi", "then", "\x7d"].contains text
  | _ => false

/-- Whether a token is a given operator or reserved word. -/
def Token.is : Token → String → Bool
  | .operator text, other | .reserved text, other => text = other
  | _, _ => false

/-- Expects a token that was read to be a given operator or reserved word. -/
def expect (token : Token) (text : String) : Reader Unit :=
  if token.is text then pure () else unexpected token (some s!"\"{text}\"")

/-- The assignment that a word is, if it is one. -/
def assignment? : Word → Option (Chars × Word)
  | .plain text :: rest =>
    let name := text.takeWhile isNameChar
    match text.dropWhile isNameChar with
    | '=' :: value =>
      if isName name then some (name, if value.isEmpty then rest else .plain value :: rest)
      else none
    | _ => none
  | _ => none

/-- Puts stretches of plain text together. -/
def joinPlain : Word → Word
  | .plain a :: rest =>
    match joinPlain rest with
    | .plain b :: others => .plain (a ++ b) :: others
    | others => .plain a :: others
  | f :: rest => f :: joinPlain rest
  | [] => []

/-- The text of a word without its quotes, and whether it has any. -/
def markOf (word : Word) : Chars × Bool :=
  (word.flatMap fun
    | .plain text | .quoted text => text
    | _ => [],
   word.any fun
    | .quoted _ => true
    | _ => false)

/-- What ends a stretch of fragments. -/
inductive Closing where
  /-- A character that belongs to no word, which stays. -/
  | word
  /-- A double quote, which is taken. -/
  | quote
  /-- A closing brace, which is taken. -/
  | brace
  /-- Two closing parentheses, which are taken. -/
  | parens
  | ending
deriving DecidableEq

/-- Ends a stretch of fragments at the end of the text. -/
def closeAtEnding (closing : Closing) (quoted : Bool) : Reader Word :=
  match closing with
  | .word | .ending => return []
  | .parens => fail "Syntax error: Missing '))'"
  | .quote => fail "Syntax error: Unterminated quoted string"
  | .brace =>
    if quoted then fail "Syntax error: Unterminated quoted string"
    else fail "Syntax error: Missing '\x7d'"

/-- Whether a backslash protects a character where double quotes are open. -/
def isProtected (closing : Closing) (c : Char) : Bool :=
  ['\\', '\x60', '$'].contains c || (c = '"' && closing ≠ .ending) ||
    (c = '\x7d' && closing = .brace)

/-- The modifier that follows the name of a parameter in braces; none if none is known. The word
after it is read with or without double quotes. -/
def takeModifier : Reader (Option Modifier) := do
  let empty ← takeIf ':'
  match ← takeUncounted with
  | some '-' => return some (.default empty)
  | some '=' => return some (.assign empty)
  | some '+' => return some (.instead empty)
  | some '?' => return some (.require empty)
  | some '#' => if empty then return none else return some (.dropStart (← takeIf '#'))
  | some '%' => if empty then return none else return some (.dropEnd (← takeIf '%'))
  | _ => return none

/-- Whether the word of a modifier is a pattern, in which double quotes outside do not count. -/
def Modifier.isPattern : Modifier → Bool
  | .dropStart _ | .dropEnd _ => true
  | _ => false

/-- The parameters that have one character as their name, digits aside. -/
def specialParameters : List Char := ['@', '*', '#', '?', '$', '!', '-']

/-- The name of a parameter in braces; none if there is none. -/
def takeParameter : Reader (Option Chars) := do
  match ← peek with
  | some c =>
    if isNameStart c then return some (← takeName)
    else if c.isDigit then return some (← takeKind Char.isDigit (← get).limit)
    else if specialParameters.contains c then
      let _ ← take
      return some [c]
    else return none
  | none => return none

/-- The operator or the end of a line that comes next, blanks and comments before it aside; none if
a word comes next. -/
def takeOperator : Nat → Reader (Option Token)
  | 0 => return some .ending
  | fuel + 1 => do
    let twice (c : Char) (once double : String) : Reader (Option Token) := do
      let _ ← take
      return some (.operator (if ← takeIf c then double else once))
    match ← peek with
    | none => return some .ending
    | some ' ' | some '\t' =>
      let _ ← take
      takeOperator fuel
    | some '#' =>
      let _ ← takeWhile (· ≠ '\n')
      takeOperator fuel
    | some '\n' =>
      let _ ← take
      return some .newline
    | some '&' => twice '&' "&" "&&"
    | some '|' => twice '|' "|" "||"
    | some ';' => twice ';' ";" ";;"
    | some '(' =>
      let _ ← take
      return some (.operator "(")
    | some ')' =>
      let _ ← take
      return some (.operator ")")
    | some _ => return none

/-- The rest of a redirection after its first character, for a descriptor if one is given. The flag
tells of a document whose lines are indented. -/
def takeRedirection (descriptor : Option Nat) : Reader (Token × Bool) := do
  let output (direction : Direction) : Token × Bool :=
    (.redirect (descriptor.getD 1) direction, false)
  let input (direction : Direction) : Token × Bool :=
    (.redirect (descriptor.getD 0) direction, false)
  if (← take) = some '>' then
    if ← takeIf '>' then return output .append
    else if ← takeIf '|' then return output .clobber
    else if ← takeIf '&' then return output .duplicate
    else return output .truncate
  else if ← takeIf '<' then
    let number := (← get).asked
    modify fun s => { s with asked := number + 1 }
    return (.redirect (descriptor.getD 0) (.document number), ← takeIf '-')
  else if ← takeIf '&' then return input .duplicate
  else if ← takeIf '>' then return input .both
  else return input .input

/-- Runs a reader on a text of its own, from a given line on. -/
def within {α : Type} (text : Chars) (line : Nat) (reader : Reader α) : Reader α := do
  let outer ← get
  set { outer with text := text, line := line, ahead := [], awaited := [] }
  let answer ← reader
  modify fun s => { outer with documents := s.documents, asked := s.asked }
  return answer

/-- What a simple command has so far, last parts first. -/
structure Simple where
  assignments : List (Chars × Word)
  words : List Word
  redirections : List (Redirection Word)

mutual

/-- Reads fragments up to the closing; `quoted` tells whether double quotes are open, and `depth`
counts the parentheses open in arithmetic. -/
def readFragments (closing : Closing) (quoted : Bool) : Nat → Nat → Reader Word
  | 0, _ => return []
  | fuel + 1, depth => do
    let onward (f : Fragment) : Reader Word :=
      return f :: (← readFragments closing quoted fuel depth)
    let literal (text : Chars) : Fragment := if quoted then .quoted text else .plain text
    match ← peek with
    | none => closeAtEnding closing quoted
    | some c =>
      if closing = .word && isMeta c then return []
      else if (closing = .quote && c = '"') || (closing = .brace && c = '\x7d') then
        let _ ← take
        return []
      else if !isSpecial c then onward (literal (← takeWhile fun c => !isSpecial c))
      else
        let _ ← take
        match c with
        | '\\' =>
          match ← takeRaw with
          | none => onward (.quoted ['\\'])
          | some d =>
            if quoted && !isProtected closing d then onward (.quoted ['\\', d])
            else onward (.quoted [d])
        | '$' => onward (← readDollar quoted fuel)
        | '\x60' =>
          let script ← takeBackquoted quoted (← get).limit
          onward (.output (← within script 1 (readList true fuel none)) quoted)
        | '\'' =>
          if quoted then onward (.quoted ['\'']) else onward (.quoted (← takeSingleQuoted))
        | '"' =>
          if closing = .ending || closing = .parens then onward (.quoted ['"'])
          else if quoted then readFragments closing quoted fuel depth
          else
            match ← readFragments .quote true fuel 0 with
            | [.parameter ['@'] true] => onward (.parameter ['@'] true)
            | inner => return .quoted [] :: inner ++ (← readFragments closing quoted fuel depth)
        | '(' =>
          if closing = .parens then
            return literal ['('] :: (← readFragments closing quoted fuel (depth + 1))
          else onward (literal ['('])
        | ')' =>
          if closing = .parens && 0 < depth then
            return literal [')'] :: (← readFragments closing quoted fuel (depth - 1))
          else if closing = .parens then
            if ← takeIf ')' then return [] else onward (literal [')'])
          else onward (literal [')'])
        | c => onward (literal [c])
termination_by structural fuel _ => fuel

def readDollar (quoted : Bool) : Nat → Reader Fragment
  | 0 => return .malformed
  | fuel + 1 => do
    match ← peek with
    | some '(' =>
      let _ ← take
      if ← takeIf '(' then return .arithmetic (← readFragments .parens true fuel 0) quoted
      else
        let outside := (← get).awaited
        modify fun s => { s with awaited := [] }
        let script ← readList true fuel none
        expect (← readToken false false fuel) ")"
        modify fun s => { s with awaited := outside }
        return .output script quoted
    | some '\x7b' =>
      let _ ← take
      readBraces quoted fuel
    | some c =>
      if isNameStart c then return .parameter (← takeName) quoted
      else if c.isDigit || specialParameters.contains c then
        let _ ← take
        return .parameter [c] quoted
      else return if quoted then .quoted ['$'] else .plain ['$']
    | none => return if quoted then .quoted ['$'] else .plain ['$']
termination_by structural fuel => fuel

/-- Reads a parameter in braces. A sign for the length may also be the parameter of that name. -/
def readBraces (quoted : Bool) : Nat → Reader Fragment
  | 0 => return .malformed
  | fuel + 1 => do
    let malformed : Reader Fragment := do
      let _ ← readFragments .brace quoted fuel 0
      return .malformed
    let modified (name : Chars) : Reader Fragment := do
      if ← takeIf '\x7d' then return .parameter name quoted
      match ← takeModifier with
      | some modifier =>
        let word ← readFragments .brace (quoted && !modifier.isPattern) fuel 0
        return .modified name modifier word quoted
      | none => malformed
    match ← takeParameter with
    | some ['#'] =>
      let before ← get
      match ← takeParameter with
      | some name =>
        if ← takeIf '\x7d' then return .modified name .length [] quoted
        else if name.all isNameChar then malformed
        else
          set before
          modified ['#']
      | none => modified ['#']
    | some name => modified name
    | none =>
      if (← peek) ≠ some '\x7d' then let _ ← takeUncounted
      malformed
termination_by structural fuel => fuel

/-- Reads a token, and the documents that a finished line asks for. -/
def nextToken : Nat → Reader Token
  | 0 => return .ending
  | fuel + 1 => do
    match (← get).ahead with
    | token :: others =>
      modify fun s => { s with ahead := others }
      return token
    | [] =>
      match ← takeOperator (← get).limit with
      | some token =>
        match token with
        | .newline | .ending => readDocuments fuel
        | _ => pure ()
        return token
      | none =>
        let fragments := joinPlain (← readFragments .word false fuel 0)
        let descriptor? : Option (Option Nat) :=
          match fragments with
          | [] => some none
          | [.plain [c]] => if c.isDigit then some (some (c.toNat - 48)) else none
          | _ => none
        let next ← peek
        match descriptor? with
        | some descriptor =>
          if next = some '<' || next = some '>' then
            let (token, indented) ← takeRedirection descriptor
            match token with
            | .redirect _ (.document number) => readMark number indented fuel
            | _ => pure ()
            return token
          else return .word fragments
        | none => return .word fragments
termination_by structural fuel => fuel

/-- Reads the mark that is to end a document, which is then awaited. -/
def readMark (number : Nat) (indented : Bool) : Nat → Reader Unit
  | 0 => return ()
  | fuel + 1 => do
    match ← nextToken fuel with
    | .word fragments =>
      let (mark, literal) := markOf fragments
      modify fun s => { s with
        awaited := s.awaited ++ [⟨number, mark, literal, indented⟩] }
      putBack (.word [])
    | token => unexpected token none
termination_by structural fuel => fuel

/-- Reads the documents awaited, in order. -/
def readDocuments : Nat → Reader Unit
  | 0 => return ()
  | fuel + 1 => do
    match (← get).awaited with
    | [] => return ()
    | document :: others =>
      modify fun s => { s with awaited := others }
      let line := (← get).line
      let text ← takeDocument document.mark document.indented (← get).limit
      let word ←
        if document.literal then pure [Fragment.quoted text]
        else within text line (readFragments .ending true fuel 0)
      modify fun s => { s with documents := (document.number, word) :: s.documents }
      readDocuments fuel
termination_by structural fuel => fuel

/-- Reads a token where reserved words count, if so asked, and line ends do not, if so asked. -/
def readToken (reserving skipping : Bool) : Nat → Reader Token
  | 0 => return .ending
  | fuel + 1 => do
    match ← nextToken fuel with
    | .newline => if skipping then readToken reserving skipping fuel else return .newline
    | .word fragments =>
      match if reserving then reserved? fragments else none with
      | some text => return .reserved text
      | none => return .word fragments
    | token => return token
termination_by structural fuel => fuel

/-- Reads commands one after the other, after the ones read before. The list may be empty if so
allowed. -/
def readList (mayBeEmpty : Bool) : Nat → Option Command → Reader Command
  | 0, _ => return .skip
  | fuel + 1, before => do
    let token ← readToken true true fuel
    putBack token
    if token.endsList && (mayBeEmpty || before.isSome || token matches .ending) then
      return before.getD .skip
    let (command, next) ← readSeparated fuel before
    match next with
    | .newline | .operator ";" | .operator "&" => readList mayBeEmpty fuel (some command)
    | token =>
      putBack token
      return command
termination_by structural fuel _ => fuel

/-- Reads a command after the ones read before, and the token that ends it. -/
def readSeparated : Nat → Option Command → Reader (Command × Token)
  | 0, _ => return (.skip, .ending)
  | fuel + 1, before => do
    let command ← readConditional fuel (← readPipeline fuel)
    let next ← readToken false false fuel
    let command := if next.is "&" then .background command else command
    match before with
    | some first => return (.sequence first command, next)
    | none => return (command, next)
termination_by structural fuel _ => fuel

/-- Reads what `&&` and `||` add to a command, from left to right. -/
def readConditional : Nat → Command → Reader Command
  | 0, command => return command
  | fuel + 1, command => do
    match ← readToken false false fuel with
    | .operator "&&" => readConditional fuel (.both command (← readNextPipeline fuel))
    | .operator "||" => readConditional fuel (.either command (← readNextPipeline fuel))
    | token =>
      putBack token
      return command
termination_by structural fuel _ => fuel

/-- Reads a pipeline that may begin on a later line. -/
def readNextPipeline : Nat → Reader Command
  | 0 => return .skip
  | fuel + 1 => do
    putBack (← readToken true true fuel)
    readPipeline fuel
termination_by structural fuel => fuel

/-- Reads commands joined by bars, perhaps negated. -/
def readPipeline : Nat → Reader Command
  | 0 => return .skip
  | fuel + 1 => do
    let token ← readToken true false fuel
    if token.is "!" then return .negate (← readPiped fuel)
    else
      putBack token
      readPiped fuel
termination_by structural fuel => fuel

def readPiped : Nat → Reader Command
  | 0 => return .skip
  | fuel + 1 => do
    let first ← readCommand fuel (← readToken true false fuel)
    match ← readToken false false fuel with
    | .operator "|" =>
      putBack (← readToken true true fuel)
      return .pipe first (← readPiped fuel)
    | token =>
      putBack token
      return first
termination_by structural fuel => fuel

/-- Reads the rest of a branch after its condition's word. -/
def readBranch : Nat → Reader Command
  | 0 => return .skip
  | fuel + 1 => do
    let condition ← readList false fuel none
    expect (← readToken false false fuel) "then"
    let yes ← readList false fuel none
    match ← readToken false false fuel with
    | .reserved "elif" => return .branch condition yes (← readBranch fuel)
    | .reserved "else" =>
      let no ← readList false fuel none
      expect (← readToken false false fuel) "fi"
      return .branch condition yes no
    | token =>
      expect token "fi"
      return .branch condition yes .skip
termination_by structural fuel => fuel

/-- Reads a body between `do`, which is given, and `done`. -/
def readBody (opening : Token) : Nat → Reader Command
  | 0 => return .skip
  | fuel + 1 => do
    expect opening "do"
    let body ← readList false fuel none
    expect (← readToken false false fuel) "done"
    return body
termination_by structural fuel => fuel

def readWords : Nat → Reader (List Word × Token)
  | 0 => return ([], .ending)
  | fuel + 1 => do
    match ← readToken false false fuel with
    | .word word =>
      let (words, next) ← readWords fuel
      return (word :: words, next)
    | token => return ([], token)
termination_by structural fuel => fuel

/-- Reads the rest of a loop over words. -/
def readEach (line : Nat) : Nat → Reader Command
  | 0 => return .skip
  | fuel + 1 => do
    match ← readToken false false fuel with
    | .word [.plain name] =>
      if !isName name then fail "Syntax error: Bad for loop variable"
      let words ←
        match ← readToken true true fuel with
        | .reserved "in" =>
          let (words, next) ← readWords fuel
          match next with
          | .newline | .operator ";" => pure (some words)
          | token => unexpected token none
        | .operator ";" => pure none
        | token =>
          putBack token
          pure none
      return .each line name words (← readBody (← readToken true true fuel) fuel)
    | _ => fail "Syntax error: Bad for loop variable"
termination_by structural fuel => fuel

/-- Reads the patterns of an arm, the first of which is given, and the parenthesis after them. -/
def readPatterns (first : Token) : Nat → Reader (List Word)
  | 0 => return []
  | fuel + 1 => do
    let word : Word :=
      match first with
      | .word word => word
      | .reserved text => [.plain text.toList]
      | _ => []
    match ← readToken false false fuel with
    | .operator "|" => return word :: (← readPatterns (← readToken false false fuel) fuel)
    | token =>
      expect token ")"
      return [word]
termination_by structural fuel => fuel

/-- Reads the arms of a choice and the word that ends it. -/
def readArms : Nat → Reader (List (List Word × Command))
  | 0 => return []
  | fuel + 1 => do
    let token ← readToken true true fuel
    if token.is "esac" then return []
    let first ← if token.is "(" then readToken false false fuel else pure token
    let patterns ← readPatterns first fuel
    let body ← readList true fuel none
    let next ← readToken true true fuel
    if next.is "esac" then return [(patterns, body)]
    expect next ";;"
    return (patterns, body) :: (← readArms fuel)
termination_by structural fuel => fuel

def readCommand : Nat → Token → Reader Command
  | 0, _ => return .skip
  | fuel + 1, token => do
    let line := (← get).line
    let closed (command : Command) : Reader Command := do
      match ← readRedirections fuel with
      | [] => return command
      | redirections => return .group line command redirections
    match token with
    | .reserved "if" => closed (← readBranch fuel)
    | .reserved "while" =>
      let condition ← readList false fuel none
      closed (.loop false condition (← readBody (← readToken false false fuel) fuel))
    | .reserved "until" =>
      let condition ← readList false fuel none
      closed (.loop true condition (← readBody (← readToken false false fuel) fuel))
    | .reserved "for" => closed (← readEach line fuel)
    | .reserved "case" =>
      match ← readToken false false fuel with
      | .word subject =>
        expect (← readToken true true fuel) "in"
        closed (.choose line subject (← readArms fuel))
      | token => unexpected token (some "word")
    | .reserved "\x7b" =>
      let body ← readList false fuel none
      expect (← readToken false false fuel) "\x7d"
      closed body
    | .operator "(" =>
      let body ← readList false fuel none
      expect (← readToken false false fuel) ")"
      return .subshell line body (← readRedirections fuel)
    | .word _ | .redirect _ _ =>
      putBack token
      readSimple line ⟨[], [], []⟩ fuel
    | token => unexpected token none
termination_by structural fuel _ => fuel

def readRedirections : Nat → Reader (List (Redirection Word))
  | 0 => return []
  | fuel + 1 => do
    match ← readToken true false fuel with
    | .redirect descriptor direction =>
      match ← readToken false false fuel with
      | .word target => return ⟨descriptor, direction, target⟩ :: (← readRedirections fuel)
      | token => unexpected token none
    | token =>
      putBack token
      return []
termination_by structural fuel => fuel

/-- Reads the rest of a simple command, or of the definition of a function. -/
def readSimple (line : Nat) (s : Simple) : Nat → Reader Command
  | 0 => return .skip
  | fuel + 1 => do
    match ← readToken false false fuel with
    | .word word =>
      match if s.words.isEmpty then assignment? word else none with
      | some a => readSimple line { s with assignments := a :: s.assignments } fuel
      | none => readSimple line { s with words := word :: s.words } fuel
    | .redirect descriptor direction =>
      match ← readToken false false fuel with
      | .word target =>
        readSimple line
          { s with redirections := ⟨descriptor, direction, target⟩ :: s.redirections } fuel
      | token => unexpected token none
    | token =>
      match s.words, token.is "(" && s.assignments.isEmpty && s.redirections.isEmpty with
      | [name], true =>
        expect (← readToken false false fuel) ")"
        match name with
        | [.plain text] =>
          if !isName text || specialCommands.contains (String.ofList text) then
            fail "Syntax error: Bad function name"
          return .define text (← readCommand fuel (← readToken true true fuel))
        | _ => fail "Syntax error: Bad function name"
      | _, _ =>
        putBack token
        return .simple line s.assignments.reverse s.words.reverse s.redirections.reverse
termination_by structural fuel => fuel

end

/-- Reads the rest of a line of commands, after the ones read before. -/
def readRest (fuel : Nat) : Nat → Option Command → Reader Command
  | 0, before => return before.getD .skip
  | n + 1, before => do
    match ← readToken true false fuel with
    | .newline => return before.getD .skip
    | token =>
      putBack token
      if token matches .ending then return before.getD .skip
      let (command, next) ← readSeparated fuel before
      match next with
      | .operator ";" | .operator "&" => readRest fuel n (some command)
      | .newline => return command
      | .ending =>
        putBack .ending
        return command
      | token => unexpected token none

/-- As many steps as the reader may take in depth: no token needs more than a few. -/
def Source.depth (source : Source) : Nat := 16 * source.limit + 64

/-- Reads a line of commands, which may run on over several; none at the end of the text. What
stands before a mistake on a later line is run before the mistake is found. -/
def readLine : Reader (Option Command) := do
  let fuel := (← get).depth
  match ← readToken true false fuel with
  | .ending => return none
  | token =>
    putBack token
    return some (← readRest fuel fuel none)

end LinkRelay.Shell
