import LinkRelay.Text.Blank

namespace LinkRelay.Text

/-- A carriage return, alone or before a line feed, becomes one line feed. -/
def unifyNewlines : List Char → List Char
  | [] => []
  | '\r' :: '\n' :: rest => '\n' :: unifyNewlines rest
  | c :: rest => (if c = '\r' then '\n' else c) :: unifyNewlines rest

/-- The characters that end a line. -/
def isLineEnd (c : Char) : Bool :=
  let n := c.toNat
  (0x0A ≤ n && n ≤ 0x0D) || (0x1C ≤ n && n ≤ 0x1E) || n == 0x85 || n == 0x2028 || n == 0x2029

/-- The lines of a text without their ends; there is no empty line after the last end. -/
def lineChars : List Char → List (List Char)
  | [] => []
  | '\r' :: '\n' :: rest => [] :: lineChars rest
  | c :: rest =>
    if isLineEnd c then [] :: lineChars rest
    else
      match lineChars rest with
      | [] => [[c]]
      | l :: ls => (c :: l) :: ls

/-- The lines of a text, which ten different characters end. -/
def lines (text : String) : List String :=
  (lineChars text.toList).map String.ofList

/-- A line without the carriage returns and line feeds at its end. -/
def chomp (line : String) : String :=
  String.ofList (dropEndWhile (fun c => c = '\r' || c = '\n') line.toList)

end LinkRelay.Text
