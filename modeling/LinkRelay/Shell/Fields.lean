import LinkRelay.Disk
import LinkRelay.Shell.Glob
import LinkRelay.Shell.Variable

namespace LinkRelay.Shell

/-- What a word has become: characters with what may still happen to them. -/
inductive Piece where
  /-- Stands for itself. -/
  | literal (c : Char)
  /-- May be a wildcard. -/
  | plain (c : Char)
  /-- May be a wildcard, or a place to split. -/
  | result (c : Char)
  /-- There is a quoted part, be it empty. -/
  | present
  /-- A new field begins. -/
  | boundary
deriving DecidableEq, Repr

/-- A piece of a word that stands in for a value, and is split as that would be. -/
def Piece.asResult : Piece → Piece
  | .plain c => .result c
  | piece => piece

/-- The characters of pieces that are not split, with a text where a new field would begin. -/
def joined (between : Chars) (pieces : List Piece) : Chars :=
  pieces.flatMap fun
    | .literal c | .plain c | .result c => [c]
    | .boundary => between
    | .present => []

def pattern (pieces : List Piece) : List PatternChar :=
  pieces.filterMap fun
    | .literal c => some (c, false)
    | .plain c | .result c => some (c, true)
    | .boundary => some (' ', false)
    | .present => none

def valuePieces (quoted : Bool) (value : Chars) : List Piece :=
  if quoted then .present :: value.map .literal else value.map .result

def isBlank (c : Char) : Bool := [' ', '\t', '\n'].contains c

/-- The fields that pieces fall into, with the field begun so far. A blank separator ends a field
that has begun; any other one also ends an empty field, unless only blanks lie between it and the
field that they have ended, as `afterBlank` tells. -/
def fieldsFrom (separators : Chars) :
    Option (List PatternChar) → Bool → List Piece → List (List PatternChar)
  | none, _, [] => []
  | some field, _, [] => [field.reverse]
  | field?, afterBlank, p :: rest =>
    let begun := field?.getD []
    match p with
    | .present => fieldsFrom separators (some begun) false rest
    | .literal c => fieldsFrom separators (some ((c, false) :: begun)) false rest
    | .plain c => fieldsFrom separators (some ((c, true) :: begun)) false rest
    | .boundary =>
      match field? with
      | some field => field.reverse :: fieldsFrom separators none false rest
      | none => fieldsFrom separators none false rest
    | .result c =>
      if !separators.contains c then
        fieldsFrom separators (some ((c, true) :: begun)) false rest
      else
        match field? with
        | some field => field.reverse :: fieldsFrom separators none (isBlank c) rest
        | none =>
          if isBlank c then fieldsFrom separators none afterBlank rest
          else if afterBlank then fieldsFrom separators none false rest
          else [] :: fieldsFrom separators none false rest

def fields (separators : Chars) (pieces : List Piece) : List (List PatternChar) :=
  fieldsFrom separators none false pieces

/-- The parts of a pattern between slashes. -/
def patternParts : List PatternChar → List (List PatternChar)
  | [] => [[]]
  | (c, special) :: rest =>
    if c = '/' then [] :: patternParts rest
    else
      match patternParts rest with
      | [] => [[(c, special)]]
      | p :: ps => ((c, special) :: p) :: ps

/-- The names that fit the parts of a pattern, after the part of the name found so far. A dot at the
front of a name has to be given. -/
def matchingNames (disk : Disk) : Chars → List (List PatternChar) → List Chars
  | found, [] => [found]
  | found, part :: rest =>
    let next (name : Chars) : List Chars :=
      let whole := found ++ name
      if rest.isEmpty then (if disk.exists? (toText whole) then [whole] else [])
      else matchingNames disk (whole ++ ['/']) rest
    let text := (resolveEscapes part).map Prod.fst
    if hasWildcard part then
      match disk.names (if found.isEmpty then "." else toText found) with
      | .ok names =>
        let fitting := ("." :: ".." :: names).map ofString |>.filter fun n =>
          fitsPattern part n && (n.head? ≠ some '.' || text.head? = some '.')
        fitting.flatMap next
      | .error _ => []
    else next text

/-- The words that a field stands for: the names that fit it, or itself. -/
def fieldWords (disk : Disk) (field : List PatternChar) : List Chars :=
  let text := field.map Prod.fst
  if hasWildcard field then
    match matchingNames disk [] (patternParts field) with
    | [] => [text]
    | names => names.mergeSort precedes
  else [text]

/-- A text that begins with a tilde, with the home that it names in its place. A tilde stands for
itself if something that is not plain text follows its name, as it does unless the text is `closed`
or has a slash. -/
def expandTilde (home : Chars → Option Chars) (closed : Bool) (text : Chars) : Word :=
  match text with
  | '~' :: rest =>
    let after := rest.dropWhile (· ≠ '/')
    match if closed || !after.isEmpty then home (rest.takeWhile (· ≠ '/')) else none with
    | some place =>
      let first : Word := if place.isEmpty then [] else [.quoted place]
      if after.isEmpty then first else first ++ [.plain after]
    | none => [.plain text]
  | _ => [.plain text]

/-- A word with the tildes at its start and, in the value of a variable, after colons replaced. -/
def expandTildes (home : Chars → Option Chars) (isValue : Bool) (word : Word) : Word :=
  let segments (first last : Bool) (text : Chars) : Word :=
    let parts := if isValue then Text.pieces ':' text else [text]
    let expanded := parts.mapIdx fun i part =>
      if first || i ≠ 0 then expandTilde home (last || i + 1 < parts.length) part
      else [.plain part]
    [Fragment.plain [':']].intercalate expanded
  let rec go (first : Bool) : Word → Word
    | [] => []
    | .plain text :: rest => segments first rest.isEmpty text ++ go false rest
    | fragment :: rest => fragment :: go false rest
  go true word

/-- The values that a line has for as many names, the last of which takes what is left. Only
characters with a mark may separate values. -/
def lineFields (separators : Chars) : Nat → List PatternChar → List Chars
  | 0, _ => []
  | n + 1, line =>
    let separates (c : PatternChar) : Bool := c.2 && separators.contains c.1
    let isGap (c : PatternChar) : Bool := separates c && isBlank c.1
    let line := line.dropWhile isGap
    let field := line.takeWhile fun c => !separates c
    let gap := line.dropWhile fun c => !separates c
    let after :=
      match gap.dropWhile isGap with
      | c :: rest => if separates c then rest.dropWhile isGap else c :: rest
      | [] => []
    if 0 < n then field.map Prod.fst :: lineFields separators n after
    else if after.isEmpty then [field.map Prod.fst]
    else [(line.reverse.dropWhile isGap).reverse.map Prod.fst]

end LinkRelay.Shell
