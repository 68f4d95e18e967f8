namespace LinkRelay.Words

/-- Why a text has no words: a quote stays open, or the text ends right after a backslash. -/
inductive Fault where
  | openQuote
  | openEscape
deriving DecidableEq, Repr

def Fault.message : Fault → String
  | .openQuote => "No closing quotation"
  | .openEscape => "No escaped character"

/-- Words are separated by these four characters and by no other blank. -/
def isSeparator (c : Char) : Bool :=
  c = ' ' || c = '\t' || c = '\r' || c = '\n'

/-- Where the reader stands. -/
inductive Mode where
  /-- Between two words. -/
  | between
  /-- In a word, outside quotes. -/
  | bare
  /-- Right after a backslash outside quotes. -/
  | bareEscape
  | singleQuoted
  | doubleQuoted
  /-- Right after a backslash inside double quotes. -/
  | doubleEscape
deriving DecidableEq, Repr

/-- Reads on with the characters of the current word so far, last one first. A backslash takes the
meaning from any character outside quotes, but only from a double quote or a backslash inside
double ones, where it is otherwise an ordinary character. -/
def splitFrom : Mode → List Char → List Char → Except Fault (List String)
  | .between, _, [] => .ok []
  | .bare, word, [] => .ok [String.ofList word.reverse]
  | .singleQuoted, _, [] | .doubleQuoted, _, [] => .error .openQuote
  | .bareEscape, _, [] | .doubleEscape, _, [] => .error .openEscape
  | .between, _, c :: rest =>
    if isSeparator c then splitFrom .between [] rest
    else if c = '\\' then splitFrom .bareEscape [] rest
    else if c = '\'' then splitFrom .singleQuoted [] rest
    else if c = '"' then splitFrom .doubleQuoted [] rest
    else splitFrom .bare [c] rest
  | .bare, word, c :: rest =>
    if isSeparator c then (String.ofList word.reverse :: ·) <$> splitFrom .between [] rest
    else if c = '\\' then splitFrom .bareEscape word rest
    else if c = '\'' then splitFrom .singleQuoted word rest
    else if c = '"' then splitFrom .doubleQuoted word rest
    else splitFrom .bare (c :: word) rest
  | .bareEscape, word, c :: rest => splitFrom .bare (c :: word) rest
  | .singleQuoted, word, c :: rest =>
    if c = '\'' then splitFrom .bare word rest else splitFrom .singleQuoted (c :: word) rest
  | .doubleQuoted, word, c :: rest =>
    if c = '"' then splitFrom .bare word rest
    else if c = '\\' then splitFrom .doubleEscape word rest
    else splitFrom .doubleQuoted (c :: word) rest
  | .doubleEscape, word, c :: rest =>
    if c = '"' || c = '\\' then splitFrom .doubleQuoted (c :: word) rest
    else splitFrom .doubleQuoted (c :: '\\' :: word) rest

/-- The words of a text, which falls apart at blanks; quotes and backslashes keep a blank in a word.
There are no comments. -/
def split (text : String) : Except Fault (List String) :=
  splitFrom .between [] text.toList

/-- A word between single quotes; a single quote inside it leaves them for a double-quoted one. -/
def quoteChars (word : List Char) : List Char :=
  '\'' :: word.flatMap (fun c => if c = '\'' then ['\'', '"', '\'', '"', '\''] else [c]) ++ ['\'']

end LinkRelay.Words
