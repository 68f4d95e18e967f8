import LinkRelay.Step

namespace LinkRelay.ControlFlag

def linkerFlag : String := "--ldproxy-linker"
def directoryFlag : String := "--ldproxy-cwd"
def collapseFlag : String := "--ldproxy-dedup-libs"

/-- What every control flag starts with. -/
def flagStart : String := "--ldproxy"

def logger : String := "ldproxy.parsing.flags"

/-- The flags that are understood, which speak to this program and not to the linker. A value flag
takes its value from the next token, or behind an equals sign; a switch takes none. A flag in both
lists is a switch. -/
structure Vocabulary where
  valueFlags : List String
  switches : List String
deriving DecidableEq, Repr

/-- The flags of this program. -/
def Vocabulary.own : Vocabulary := ⟨[linkerFlag, directoryFlag], [collapseFlag]⟩

def Vocabulary.knows (v : Vocabulary) (flag : String) : Bool :=
  v.valueFlags.contains flag || v.switches.contains flag

/-- How a token reads on its own. -/
inductive Reading where
  | passed
  | flag (name : String)
  | flagWithValue (name value : String)
deriving DecidableEq, Repr

/-- A token is a flag if it is one as it stands, or up to its first equals sign if it begins with
two hyphens. -/
def Vocabulary.reading (v : Vocabulary) (token : String) : Reading :=
  if v.knows token then .flag token
  else if Text.startsWith token "--" then
    match Text.cutAt? '=' token.toList with
    | some (name, value) =>
      if v.knows (String.ofList name) then .flagWithValue (String.ofList name) (String.ofList value)
      else .passed
    | none => .passed
  else .passed

/-- What the tokens of a command line are. -/
inductive Item where
  | passed (token : String)
  /-- A switch, with the token that it was written as. -/
  | switch (name written : String)
  /-- A value flag whose value stands in its own token. -/
  | inlineValue (name value written : String)
  /-- A value flag and the token after it. -/
  | nextValue (name value : String)
deriving DecidableEq, Repr

/-- The tokens that an item was written as. -/
def Item.tokens : Item → List String
  | .passed token => [token]
  | .switch _ written => [written]
  | .inlineValue _ _ written => [written]
  | .nextValue name value => [name, value]

/-- The token that an item leaves for the linker. -/
def Item.passed? : Item → Option String
  | .passed token => some token
  | _ => none

/-- The flag that an item is, with its value; a switch has the empty one. -/
def Item.flag? : Item → Option (String × String)
  | .passed _ => none
  | .switch name _ => some (name, "")
  | .inlineValue name value _ => some (name, value)
  | .nextValue name value => some (name, value)

/-- The items of a command line, or the value flag that is its last token. -/
def Vocabulary.items (v : Vocabulary) : List String → Except String (List Item)
  | [] => .ok []
  | token :: rest =>
    match v.reading token with
    | .passed => (.passed token :: ·) <$> v.items rest
    | .flag name =>
      if v.switches.contains name then (.switch name token :: ·) <$> v.items rest
      else
        match rest with
        | [] => .error name
        | value :: rest => (.nextValue name value :: ·) <$> v.items rest
    | .flagWithValue name value =>
      if v.switches.contains name then (.switch name token :: ·) <$> v.items rest
      else (.inlineValue name value token :: ·) <$> v.items rest

/-- The values given for each flag, flags in the order in which they first came. -/
abbrev Table := List (String × List String)

/-- Adds a value for a flag. -/
def Table.record (table : Table) (flag value : String) : Table :=
  match table with
  | [] => [(flag, [value])]
  | (f, vs) :: rest =>
    if f = flag then (f, vs ++ [value]) :: rest else (f, vs) :: record rest flag value

/-- The values given for a flag. -/
def Table.values (table : Table) (flag : String) : List String :=
  (List.lookup flag table).getD []

/-- The table of the flags among some items. -/
def Table.ofItems (items : List Item) : Table :=
  (items.filterMap Item.flag?).foldl (fun table (flag, value) => table.record flag value) []

/-- A command line without its flags, and the flags. -/
structure Scan where
  remaining : List String
  found : Table
deriving DecidableEq, Repr

/-- Takes the flags out of a command line. The only fault is a value flag without a value. -/
def Vocabulary.scan (v : Vocabulary) (tokens : List String) : Except Fault Scan :=
  match v.items tokens with
  | .ok items => .ok ⟨items.filterMap Item.passed?, Table.ofItems items⟩
  | .error flag => .error (.link (.danglingFlag flag))

/-- What a command line asks of this program, and what is left of it. -/
structure Request where
  remaining : List String
  linker : Option String
  collapses : Bool
  directory : Option String
deriving DecidableEq, Repr

/-- Of several values for a flag the last one counts. -/
def Scan.request (s : Scan) : Request where
  remaining := s.remaining
  linker := (s.found.values linkerFlag).getLast?
  collapses := (List.lookup collapseFlag s.found).isSome
  directory := (s.found.values directoryFlag).getLast?

/-- Takes the flags out of a command line and reads them. -/
def extract (v : Vocabulary) (tokens : List String) : Step Request := do
  let s ← Step.ofExcept (v.scan tokens)
  Step.debug logger s!"Control flags: {Text.quoteTable s.found}"
  pure s.request

end LinkRelay.ControlFlag
