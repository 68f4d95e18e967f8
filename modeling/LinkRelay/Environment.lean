import LinkRelay.Text.Search

namespace LinkRelay

/-- Variables with their values; no variable stands twice. -/
abbrev Environment := List (String × String)

namespace Environment

/-- The value of a variable, if it is set. -/
def get? (env : Environment) (name : String) : Option String :=
  List.lookup name env

/-- Whether a variable is set, be it to the empty text. -/
def has (env : Environment) (name : String) : Bool :=
  (env.get? name).isSome

/-- The environment that a text spells: entries of a name, an equals sign and a value, each ended by
the character zero. What has no equals sign is no entry. -/
def ofText (text : String) : Environment :=
  (Text.pieces (Char.ofNat 0) text.toList).filterMap fun entry =>
    (Text.cutAt? '=' entry).map fun (name, value) => (String.ofList name, String.ofList value)

end Environment

end LinkRelay
