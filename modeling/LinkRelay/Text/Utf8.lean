namespace LinkRelay.Utf8

/-- The bytes of a text. -/
def encode (text : String) : List UInt8 :=
  text.toList.flatMap String.utf8EncodeChar

/-- Characters that stand for bytes which are no text. A command line may hold such bytes, and they
come in as one stand-in each: they can be told apart and passed on like any other character, but a
text that holds one cannot be encoded. Which characters these are is left open, so that each text
may be taken for what it is; bytes of ASCII are text. In the order of names and in the number of
their bytes a stand-in counts as the character that it is. -/
structure StandIns where
  byte? : Char → Option UInt8
  ascii : ∀ c : Char, c.toNat < 0x80 → byte? c = none

/-- Every character stands for itself. -/
def StandIns.empty : StandIns :=
  ⟨fun _ => none, fun _ _ => rfl⟩

/-- Stand-ins from the last plane of private characters. -/
def StandIns.privateUse : StandIns where
  byte? c :=
    if 0x10FC80 ≤ c.toNat && c.toNat < 0x10FD00 then some (UInt8.ofNat c.toNat) else none
  ascii c hc := if_neg (by simp; omega)

/-- The stand-ins in a row that keep a text from being encoded: where they begin, and the bytes that
they stand for. -/
structure Unencodable where
  offset : Nat
  bytes : List UInt8
deriving DecidableEq, Repr

/-- What is wrong with bytes that are no text. -/
inductive Flaw where
  | invalidStart
  | brokenSequence
  | truncated
deriving DecidableEq, Repr

/-- Bytes at an offset that no character is written with. -/
structure Fault where
  offset : Nat
  bytes : List UInt8
  flaw : Flaw
deriving DecidableEq, Repr

def Flaw.message : Flaw → String
  | .invalidStart => "invalid start byte"
  | .brokenSequence => "invalid continuation byte"
  | .truncated => "unexpected end of data"

private def hexDigit (n : Nat) : Char :=
  (Nat.toDigits 16 (n % 16)).headD '0'

/-- Two hexadecimal digits. -/
def hexByte (b : UInt8) : String :=
  String.ofList [hexDigit (b.toNat / 16), hexDigit b.toNat]

/-- The text of a fault names one byte by its value and several by their offsets. -/
def Fault.message (f : Fault) : String :=
  let place :=
    match f.bytes with
    | [b] => s!"byte 0x{hexByte b} in position {f.offset}"
    | bytes => s!"bytes in position {f.offset}-{f.offset + bytes.length - 1}"
  s!"'utf-8' codec can't decode {place}: {f.flaw.message}"

/-- A stand-in is named by the half of a surrogate pair that it is outside of this program. -/
def Unencodable.message (u : Unencodable) : String :=
  let place :=
    match u.bytes with
    | [b] => s!"character '\\udc{hexByte b}' in position {u.offset}"
    | bytes => s!"characters in position {u.offset}-{u.offset + bytes.length - 1}"
  s!"'utf-8' codec can't encode {place}: surrogates not allowed"

/-- The bytes that the first characters stand for, up to one that stands for itself. -/
def StandIns.leading (standIns : StandIns) : List Char → List UInt8
  | [] => []
  | c :: rest =>
    match standIns.byte? c with
    | some b => b :: standIns.leading rest
    | none => []

/-- The first stand-ins among characters that begin at the given offset of the whole. -/
def StandIns.first? (standIns : StandIns) (offset : Nat) : List Char → Option Unencodable
  | [] => none
  | c :: rest =>
    match standIns.byte? c with
    | some b => some ⟨offset, b :: standIns.leading rest⟩
    | none => standIns.first? (offset + 1) rest

/-- The bytes of a text that holds no stand-in. -/
def StandIns.encode (standIns : StandIns) (text : String) : Except Unencodable (List UInt8) :=
  match standIns.first? 0 text.toList with
  | some cause => .error cause
  | none => .ok (Utf8.encode text)

/-- The range of a byte that follows, where it is not narrowed. -/
def anyFollower : UInt8 × UInt8 := (0x80, 0xBF)

/-- The ranges of the bytes that must follow a first byte, or none if no character starts with it.
The second byte is narrowed where a shorter form exists, at the surrogates, and past the last
character. -/
def followers (first : UInt8) : Option (List (UInt8 × UInt8)) :=
  if first < 0x80 then some []
  else if first < 0xC2 then none
  else if first < 0xE0 then some [anyFollower]
  else if first = 0xE0 then some [(0xA0, 0xBF), anyFollower]
  else if first = 0xED then some [(0x80, 0x9F), anyFollower]
  else if first < 0xF0 then some [anyFollower, anyFollower]
  else if first = 0xF0 then some [(0x90, 0xBF), anyFollower, anyFollower]
  else if first < 0xF4 then some [anyFollower, anyFollower, anyFollower]
  else if first = 0xF4 then some [(0x80, 0x8F), anyFollower, anyFollower]
  else none

/-- The longest run of bytes that lie in the given ranges, one byte for each range. -/
def matching : List (UInt8 × UInt8) → List UInt8 → List UInt8
  | (lo, hi) :: ranges, b :: rest => if lo ≤ b && b ≤ hi then b :: matching ranges rest else []
  | _, _ => []

/-- The character that a first byte and its followers stand for. -/
def assemble (first : UInt8) (rest : List UInt8) : Char :=
  let high := if rest.isEmpty then first.toNat else first.toNat % Nat.pow 2 (6 - rest.length)
  Char.ofNat (rest.foldl (fun n b => n * 64 + b.toNat % 64) high)

/-- Reads characters from bytes that begin at the given offset of the whole. -/
def decodeFrom (offset : Nat) : List UInt8 → Except Fault (List Char)
  | [] => .ok []
  | first :: rest =>
    match followers first with
    | none => .error ⟨offset, [first], .invalidStart⟩
    | some ranges =>
      let taken := matching ranges rest
      if taken.length = ranges.length then
        (assemble first taken :: ·) <$>
          decodeFrom (offset + 1 + taken.length) (rest.drop taken.length)
      else if taken.length = rest.length then
        .error ⟨offset, first :: taken, .truncated⟩
      else
        .error ⟨offset, first :: taken, .brokenSequence⟩
termination_by bytes => bytes.length
decreasing_by simp only [List.length_drop, List.length_cons]; omega

/-- The text that bytes stand for. -/
def decode (bytes : List UInt8) : Except Fault String :=
  String.ofList <$> decodeFrom 0 bytes

end LinkRelay.Utf8
