import LinkRelay.Shell.Command

namespace LinkRelay.Shell

/-- A character of a pattern, and whether it may be a wildcard. -/
abbrev PatternChar := Char × Bool

/-- A pattern in which no backslash protects the character after it any more. -/
def resolveEscapes : List PatternChar → List PatternChar
  | ('\\', true) :: (c, _) :: rest => (c, false) :: resolveEscapes rest
  | c :: rest => c :: resolveEscapes rest
  | [] => []

/-- What a bracket has one of. -/
inductive Member where
  | range (first last : Char)
  | kind (name : String)
deriving DecidableEq, Repr

/-- Whether a character is of a kind that has a name; none if there is no such kind. -/
def ofKind? (name : String) (c : Char) : Option Bool :=
  let isGraph := '!' ≤ c && c ≤ '~'
  match name with
  | "alnum" => some c.isAlphanum
  | "alpha" => some c.isAlpha
  | "blank" => some (c = ' ' || c = '\t')
  | "cntrl" => some (c < ' ' || c = '\x7f')
  | "digit" => some c.isDigit
  | "graph" => some isGraph
  | "lower" => some c.isLower
  | "print" => some (isGraph || c = ' ')
  | "punct" => some (isGraph && !c.isAlphanum)
  | "space" => some (c = ' ' || ('\t' ≤ c && c ≤ '\r'))
  | "upper" => some c.isUpper
  | "xdigit" => some (c.isDigit || ('a' ≤ c.toLower && c.toLower ≤ 'f'))
  | _ => none

def Member.has (c : Char) : Member → Bool
  | .range first last => first ≤ c && c ≤ last
  | .kind name => (ofKind? name c).getD false

/-- The kind that a pattern after an opening bracket names, such as `:alpha:]`, and what follows. -/
def takeKindName (pattern : List PatternChar) : Option (Member × List PatternChar) :=
  match pattern with
  | (':', true) :: rest =>
    let letters := rest.takeWhile fun c => c.2 && c.1.isAlpha
    let name := String.ofList (letters.map Prod.fst)
    match rest.drop letters.length with
    | (':', true) :: (']', true) :: rest =>
      if (ofKind? name ' ').isSome then some (.kind name, rest) else none
    | _ => none
  | _ => none

/-- The members of a bracket up to its end, and the pattern after it; none if it has no end. The end
cannot come first. -/
def bracketMembers (first : Bool) :
    Nat → List PatternChar → Option (List Member × List PatternChar)
  | 0, _ => none
  | _ + 1, [] => none
  | fuel + 1, (a, special) :: rest =>
    let onward (member : Member) (rest : List PatternChar) :
        Option (List Member × List PatternChar) :=
      (bracketMembers false fuel rest).map fun (members, after) => (member :: members, after)
    if a = ']' && special && !first then some ([], rest)
    else
      match if a = '[' && special then takeKindName rest else none with
      | some (member, rest) => onward member rest
      | none =>
        match rest with
        | ('-', true) :: (b, last) :: others =>
          if b = ']' && last then onward (.range a a) rest else onward (.range a b) others
        | _ => onward (.range a a) rest

/-- Whether a text fits a pattern as a whole. -/
def fits : Nat → List PatternChar → Chars → Bool
  | 0, _, _ => false
  | _ + 1, [], text => text.isEmpty
  | fuel + 1, ('*', true) :: pattern, text =>
    fits fuel pattern text ||
      match text with
      | [] => false
      | _ :: rest => fits fuel (('*', true) :: pattern) rest
  | fuel + 1, ('?', true) :: pattern, text =>
    match text with
    | [] => false
    | _ :: rest => fits fuel pattern rest
  | _ + 1, _, [] => false
  | fuel + 1, (c, special) :: pattern, d :: rest =>
    let (negated, inside) :=
      match pattern with
      | ('!', true) :: inside => (true, inside)
      | inside => (false, inside)
    match if c = '[' && special then bracketMembers true (inside.length + 1) inside else none with
    | some (members, pattern) => members.any (Member.has d) != negated && fits fuel pattern rest
    | none => c = d && fits fuel pattern rest

def fitsPattern (pattern : List PatternChar) (text : Chars) : Bool :=
  fits (pattern.length + text.length + 1) (resolveEscapes pattern) text

def hasWildcard (pattern : List PatternChar) : Bool :=
  (resolveEscapes pattern).any fun (c, special) => special && (c = '*' || c = '?' || c = '[')

/-- What is left of a text without the shortest or longest start that fits a pattern. -/
def dropFittingStart (longest : Bool) (pattern : List PatternChar) (text : Chars) : Chars :=
  let sizes := List.range (text.length + 1)
  let sizes := if longest then sizes.reverse else sizes
  match sizes.find? fun n => fitsPattern pattern (text.take n) with
  | some n => text.drop n
  | none => text

/-- What is left of a text without the shortest or longest end that fits a pattern. -/
def dropFittingEnd (longest : Bool) (pattern : List PatternChar) (text : Chars) : Chars :=
  let sizes := List.range (text.length + 1)
  let sizes := if longest then sizes else sizes.reverse
  match sizes.find? fun n => fitsPattern pattern (text.drop n) with
  | some n => text.take n
  | none => text

end LinkRelay.Shell
