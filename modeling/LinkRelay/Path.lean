import LinkRelay.Text.Search

namespace LinkRelay

/-- What a path starts from. Exactly two leading slashes are kept apart from one, or from three. -/
inductive Path.Root where
  | relative
  | slash
  | doubleSlash
deriving DecidableEq, Repr

/-- A path as a name, without asking any disk. Empty components and single dots say nothing and are
left out; double dots stay, since what they mean depends on the disk. -/
structure Path where
  root : Path.Root
  parts : List String
deriving DecidableEq, Repr

namespace Path

def Root.toString : Root → String
  | .relative => ""
  | .slash => "/"
  | .doubleSlash => "//"

/-- The root that the leading slashes of a text spell. -/
def Root.ofChars : List Char → Root
  | '/' :: '/' :: '/' :: _ => .slash
  | '/' :: '/' :: _ => .doubleSlash
  | '/' :: _ => .slash
  | _ => .relative

/-- The path that a text names. -/
def ofString (text : String) : Path where
  root := Root.ofChars text.toList
  parts := (Text.split '/' text).filter fun part => part ≠ "" && part ≠ "."

/-- A path in writing; the relative path without components is the dot. -/
def toString (path : Path) : String :=
  if path.root = .relative && path.parts.isEmpty then "."
  else path.root.toString ++ "/".intercalate path.parts

instance : ToString Path := ⟨toString⟩

/-- A path continued by a second one, which stands for itself if it has a root. -/
def append (path next : Path) : Path :=
  if next.root = .relative then { path with parts := path.parts ++ next.parts } else next

/-- A path continued by what a text names. -/
def join (path : Path) (text : String) : Path :=
  path.append (ofString text)

/-- A path continued by one component as it stands. -/
def child (path : Path) (name : String) : Path :=
  { path with parts := path.parts ++ [name] }

end Path

end LinkRelay
