import LinkRelay.Shell.Command

namespace LinkRelay.Shell

def isSpace (c : Char) : Bool :=
  c = ' ' || ('\t' ≤ c && c ≤ '\r')

/-- The value of a digit in bases up to sixteen. -/
def digitValue (c : Char) : Nat :=
  if c.isDigit then c.toNat - '0'.toNat else c.toLower.toNat - 'a'.toNat + 10

/-- The value of digits in a base. -/
def digitsValue (base : Nat) (digits : Chars) : Nat :=
  digits.foldl (fun n c => n * base + digitValue c) 0

def isOctal (c : Char) : Bool := '0' ≤ c && c ≤ '7'

def isHexadecimal (c : Char) : Bool :=
  c.isDigit || ('a' ≤ c.toLower && c.toLower ≤ 'f')

/-- The number that a text begins with, and what follows it: octal after a zero, hexadecimal after
`0x`, and none if no digit comes first. -/
def takeLiteral (text : Chars) : Option (Nat × Chars) :=
  let digits (base : Nat) (kind : Char → Bool) (text : Chars) : Option (Nat × Chars) :=
    some (digitsValue base (text.takeWhile kind), text.dropWhile kind)
  match text with
  | '0' :: x :: d :: rest =>
    if (x = 'x' || x = 'X') && isHexadecimal d then digits 16 isHexadecimal (d :: rest)
    else digits 8 isOctal text
  | '0' :: _ => digits 8 isOctal text
  | c :: _ => if c.isDigit then digits 10 Char.isDigit text else none
  | [] => none

/-- How many numbers of 64 bits there are. -/
def wordCount : Nat := 18446744073709551616

/-- The numbers of 64 bits are those from `-limit` on and below `limit`. -/
def limit : Int := 9223372036854775808

/-- The nearest number of 64 bits. -/
def clamp (n : Int) : Int := max (-limit) (min (limit - 1) n)

/-- The number of 64 bits that has the same last 64 bits. -/
def wrap (n : Int) : Int := n.bmod wordCount

/-- A number at the front of a text, unbounded, and what follows it. -/
structure Leading where
  value : Int
  rest : Chars

/-- The number that a text begins with, after blanks and with its sign. If there is none, the value
is zero and the rest is the text. -/
def leadingNumber (literal : Chars → Option (Nat × Chars)) (text : Chars) : Leading :=
  let (sign, digits) : Int × Chars :=
    match text.dropWhile isSpace with
    | '-' :: digits => (-1, digits)
    | '+' :: digits => (1, digits)
    | digits => (1, digits)
  match literal digits with
  | some (n, rest) => ⟨sign * n, rest⟩
  | none => ⟨0, text⟩

/-- A decimal number at the front of a text. -/
def takeDecimal (text : Chars) : Option (Nat × Chars) :=
  let digits := text.takeWhile Char.isDigit
  if digits.isEmpty then none else some (digitsValue 10 digits, text.dropWhile Char.isDigit)

/-- The number of 64 bits that a text spells as a whole, blanks around it aside. -/
def wholeNumber? (literal : Chars → Option (Nat × Chars)) (text : Chars) : Option Int :=
  let n := leadingNumber literal text
  if n.rest.all isSpace && n.value = clamp n.value then some n.value else none

/-- The decimal number that a text spells. -/
def decimal? (text : Chars) : Option Int :=
  if text.all isSpace then none else wholeNumber? takeDecimal text

/-- The decimal number from zero on that a text spells. -/
def natural? (text : Chars) : Option Nat :=
  (decimal? text).bind fun n => if 0 ≤ n then some n.toNat else none

end LinkRelay.Shell
