import LinkRelay.Shell.Number

namespace LinkRelay.Shell

/-- The byte that up to three octal digits spell, and what follows. -/
def octalByte (text : Chars) : Char × Chars :=
  let taken := (text.take 3).takeWhile isOctal
  (Char.ofNat (digitsValue 8 taken % 256), text.drop taken.length)

/-- The character that a letter after a backslash stands for. -/
def escapeLetter? : Char → Option Char
  | 'a' => some '\x07'
  | 'b' => some '\x08'
  | 'e' => some '\x1b'
  | 'f' => some '\x0c'
  | 'n' => some '\n'
  | 'r' => some '\r'
  | 't' => some '\t'
  | 'v' => some '\x0b'
  | '\\' => some '\\'
  | _ => none

/-- What a backslash stands for together with what follows it, and the text after that. -/
def takeEscape (text : Chars) : Char × Chars :=
  match text with
  | c :: rest =>
    if isOctal c then octalByte text
    else
      match escapeLetter? c with
      | some d => (d, rest)
      | none => ('\\', text)
  | [] => ('\\', [])

/-- A text with its escapes carried out, and whether `\c` cut it off. A zero before octal digits is
not one of them. -/
def unescape : Nat → Chars → Chars × Bool
  | 0, text => (text, false)
  | _ + 1, [] => ([], false)
  | fuel + 1, c :: rest =>
    if c = '\\' && rest.head? = some 'c' then ([], true)
    else
      let (first, rest) : Char × Chars :=
        if c ≠ '\\' then (c, rest)
        else
          match rest with
          | '0' :: d :: _ => takeEscape (if isOctal d then rest.drop 1 else rest)
          | _ => takeEscape rest
      let (others, cut) := unescape fuel rest
      (first :: others, cut)

/-- What `echo` writes: its arguments with blanks between them and, unless the first is `-n` or the
text is cut off, a line end. -/
def echoText (arguments : List Chars) : Chars :=
  let (arguments, ends) :=
    match arguments with
    | ['-', 'n'] :: rest => (rest, false)
    | arguments => (arguments, true)
  let text := [' '].intercalate arguments
  let (written, cut) := unescape (text.length + 1) text
  if cut || !ends then written else written ++ ['\n']

/-- How a `printf` conversion lays out a text. -/
structure Layout where
  left : Bool
  zeros : Bool
  plus : Bool
  blank : Bool
  marked : Bool
  width : Nat
  precision : Option Nat

namespace Layout

/-- A text with blanks up to the width. -/
def pad (l : Layout) (text : Chars) : Chars :=
  let fill := List.replicate (l.width - text.length) ' '
  if l.left then text ++ fill else fill ++ text

/-- A text cut to the precision. -/
def cut (l : Layout) (text : Chars) : Chars :=
  match l.precision with
  | some n => text.take n
  | none => text

/-- Digits after a sign or a mark. The precision is the least number of digits; without one, zeros
may fill the width. -/
def digits (l : Layout) (sign : String) (digits : Chars) : Chars :=
  let digits := if l.precision = some 0 && digits = ['0'] then [] else digits
  let room := l.width - sign.length
  let least :=
    match l.precision with
    | some n => n
    | none => if l.zeros && !l.left then room else 0
  l.pad (sign.toList ++ List.replicate (least - digits.length) '0' ++ digits)

def signed (l : Layout) (n : Int) : Chars :=
  let sign := if n < 0 then "-" else if l.plus then "+" else if l.blank then " " else ""
  l.digits sign (Nat.toDigits 10 n.natAbs)

/-- A number without a sign in the base that a letter stands for. -/
def unsigned (l : Layout) (letter : Char) (n : Nat) : Chars :=
  match letter with
  | 'o' =>
    let octal := Nat.toDigits 8 n
    if l.marked && n ≠ 0 then l.digits "" ('0' :: octal)
    else if l.marked then ({ l with precision := l.precision.map (max 1) }).digits "" octal
    else l.digits "" octal
  | 'x' => l.digits (if l.marked && n ≠ 0 then "0x" else "") (Nat.toDigits 16 n)
  | 'X' =>
    l.digits (if l.marked && n ≠ 0 then "0X" else "") ((Nat.toDigits 16 n).map Char.toUpper)
  | _ => l.digits "" (Nat.toDigits 10 n)

end Layout

/-- The number that an argument of `printf` spells, and what is wrong with the argument. Where signs
do not count, negative numbers stand for those with the same last 64 bits. -/
def argumentNumber (isSigned : Bool) (text : Chars) : Int × Option String :=
  match text with
  | [] => (0, none)
  | '\'' :: rest | '"' :: rest => (((rest.head?.map Char.toNat).getD 0 : Nat), none)
  | text =>
    let n := leadingNumber takeLiteral text
    let most : Int := wordCount - 1
    let nearest := if isSigned then clamp n.value else max (-most) (min most n.value)
    let value :=
      if isSigned then nearest
      else if nearest = n.value then n.value % wordCount
      else most
    if n.rest.length = text.length then (0, some "expected numeric value")
    else if !n.rest.isEmpty then (value, some "not completely converted")
    else if nearest ≠ n.value then (value, some "Numerical result out of range")
    else (value, none)

/-- What a format has come to so far: the text, last character first, the arguments that are left,
and those that spell no number, with what is wrong, last one first. -/
structure Printed where
  text : Chars
  rest : List Chars
  malformed : List (Chars × String)

namespace Printed

def add (p : Printed) (text : Chars) : Printed :=
  { p with text := text.reverse ++ p.text }

/-- The next argument, empty if there is none. -/
def takeText (p : Printed) : Chars × Printed :=
  (p.rest.headD [], { p with rest := p.rest.drop 1 })

/-- The number that the next argument spells, zero if there is none. -/
def takeNumber (p : Printed) (isSigned : Bool) : Int × Printed :=
  let (text, p) := p.takeText
  let (n, wrong) := argumentNumber isSigned text
  (n, { p with malformed := (wrong.map fun why => (text, why)).toList ++ p.malformed })

end Printed

/-- Reads a number of a layout, which the next argument gives if there is a star. -/
def takeSize (format : Chars) (p : Printed) : Option Int × Chars × Printed :=
  match format with
  | '*' :: rest =>
    let (n, p) := p.takeNumber true
    (some n, rest, p)
  | _ =>
    match takeDecimal format with
    | some (n, rest) => (some n, rest, p)
    | none => (none, format, p)

/-- Reads the layout between a percent sign and its letter. -/
def takeLayout (format : Chars) (p : Printed) : Layout × Chars × Printed :=
  let isFlag (c : Char) : Bool := ['#', '-', '+', ' ', '0'].contains c
  let flags := format.takeWhile isFlag
  let (width, format, p) := takeSize (format.dropWhile isFlag) p
  let width := width.getD 0
  let (precision, format, p) : Option Nat × Chars × Printed :=
    match format with
    | '.' :: rest =>
      let (n, rest, p) := takeSize rest p
      let n := n.getD 0
      (if n < 0 then none else some n.toNat, rest, p)
    | _ => (none, format, p)
  (⟨flags.contains '-' || width < 0, flags.contains '0', flags.contains '+', flags.contains ' ',
      flags.contains '#', width.natAbs, precision⟩, format, p)

/-- How a format comes to its end. -/
inductive PrintEnd where
  | done
  /-- The text is cut off. -/
  | cut
  | mistake (text : Chars)
deriving DecidableEq

/-- One pass over a format. -/
def printPass : Nat → Chars → Printed → Printed × PrintEnd
  | 0, _, p => (p, .cut)
  | _ + 1, [], p => (p, .done)
  | fuel + 1, '%' :: '%' :: format, p => printPass fuel format (p.add ['%'])
  | fuel + 1, '%' :: format, p =>
    let (layout, rest, p) := takeLayout format p
    match rest with
    | [] => (p, .mistake "missing format character".toList)
    | letter :: after =>
      match letter with
      | 's' =>
        let (text, p) := p.takeText
        printPass fuel after (p.add (layout.pad (layout.cut text)))
      | 'b' =>
        let (text, p) := p.takeText
        let (text, stops) := unescape (text.length + 1) text
        let p := p.add (layout.pad (layout.cut text))
        if stops then (p, .cut) else printPass fuel after p
      | 'c' =>
        let (text, p) := p.takeText
        printPass fuel after (p.add (layout.pad [text.headD '\x00']))
      | 'd' | 'i' =>
        let (n, p) := p.takeNumber true
        printPass fuel after (p.add (layout.signed n))
      | 'u' | 'o' | 'x' | 'X' =>
        let (n, p) := p.takeNumber false
        printPass fuel after (p.add (layout.unsigned letter n.toNat))
      | _ =>
        let directive := '%' :: format.take (format.length - after.length)
        (p, .mistake (directive ++ ": invalid directive".toList))
  | fuel + 1, '\\' :: format, p =>
    let (c, format) := takeEscape format
    printPass fuel format (p.add [c])
  | fuel + 1, c :: format, p => printPass fuel format (p.add [c])

/-- What `printf` makes of a format: it is used again as long as arguments are left and it takes
some. -/
def printAll (format : Chars) : Nat → Printed → Printed × PrintEnd
  | 0, p => (p, .done)
  | fuel + 1, p =>
    match printPass (format.length + 1) format p with
    | (after, .done) =>
      if !after.rest.isEmpty && after.rest.length < p.rest.length then printAll format fuel after
      else (after, .done)
    | other => other

end LinkRelay.Shell
