namespace LinkRelay.Text

/-- Whether a text begins with another one. -/
def startsWith (text lead : String) : Bool :=
  lead.toList.isPrefixOf text.toList

/-- What follows a given beginning, if the text has that beginning. -/
def after? (lead text : String) : Option String :=
  if startsWith text lead then some (String.ofList (text.toList.drop lead.length)) else none

/-- The part before the last occurrence of a mark; the empty mark occurs at the end of any text. -/
def beforeLastChars? (mark : List Char) : List Char → Option (List Char)
  | [] => if mark.isEmpty then some [] else none
  | c :: rest =>
    match beforeLastChars? mark rest with
    | some kept => some (c :: kept)
    | none => if mark.isPrefixOf (c :: rest) then some [] else none

/-- The part of a text before the last occurrence of a mark, if the mark occurs. -/
def beforeLast? (mark text : String) : Option String :=
  (beforeLastChars? mark.toList text.toList).map String.ofList

/-- Whether a mark occurs somewhere in a text. -/
def contains (text mark : String) : Bool :=
  (beforeLastChars? mark.toList text.toList).isSome

/-- The parts of a text before and after the first occurrence of a character, if it occurs. -/
def cutAt? (sep : Char) : List Char → Option (List Char × List Char)
  | [] => none
  | c :: rest =>
    if c = sep then some ([], rest) else (cutAt? sep rest).map fun (a, b) => (c :: a, b)

/-- The pieces between the occurrences of a character, one more than there are occurrences. -/
def pieces (sep : Char) : List Char → List (List Char)
  | [] => [[]]
  | c :: rest =>
    if c = sep then [] :: pieces sep rest
    else
      match pieces sep rest with
      | [] => [[c]]
      | p :: ps => (c :: p) :: ps

/-- The pieces of a text between the occurrences of a character. -/
def split (sep : Char) (text : String) : List String :=
  (pieces sep text.toList).map String.ofList

end LinkRelay.Text
