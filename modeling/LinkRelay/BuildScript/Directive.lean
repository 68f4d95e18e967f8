import LinkRelay.ControlFlag

namespace LinkRelay.BuildScript

/-- What the line of a directive starts with, and how the values start that are dropped. What
follows on the line is its value, and a value is an argument for the linker unless it is a marker,
belongs to the marker before it, or is dropped. -/
structure Format where
  directive : String
  dropped : String
deriving DecidableEq, Repr

def Format.usual : Format := ⟨"cargo:rustc-link-arg=", ControlFlag.flagStart⟩

/-- What the value after a marker means. -/
inductive Marker where
  | directory
  | linker
deriving DecidableEq, Repr

/-- How a marker is written, in every format. -/
def Marker.text : Marker → String
  | .directory => ControlFlag.directoryFlag
  | .linker => ControlFlag.linkerFlag

def Marker.ofString? (text : String) : Option Marker :=
  if text = ControlFlag.directoryFlag then some .directory
  else if text = ControlFlag.linkerFlag then some .linker
  else none

/-- What the value of a directive is. -/
inductive Item where
  | marker (marker : Marker)
  /-- The value after a marker, whatever it looks like. -/
  | payload (marker : Marker) (value : String)
  | dropped (value : String)
  | argument (value : String)
deriving DecidableEq, Repr

/-- The value of an item, as it was written. -/
def Item.value : Item → String
  | .marker m => m.text
  | .payload _ value => value
  | .dropped value => value
  | .argument value => value

def Item.argument? : Item → Option String
  | .argument value => some value
  | _ => none

/-- The value after a given marker. -/
def Item.payload? (wanted : Marker) : Item → Option String
  | .payload m value => if m = wanted then some value else none
  | _ => none

/-- The values of the directives among some lines. -/
def Format.values (f : Format) (lines : List String) : List String :=
  lines.filterMap fun line => Text.after? f.directive (Text.chomp line)

/-- What some values are, when the value before them was the given marker or none. -/
def Format.items (f : Format) : Option Marker → List String → List Item
  | _, [] => []
  | some m, value :: rest => .payload m value :: f.items none rest
  | none, value :: rest =>
    match Marker.ofString? value with
    | some m => .marker m :: f.items (some m) rest
    | none =>
      if Text.startsWith value f.dropped then .dropped value :: f.items none rest
      else .argument value :: f.items none rest

/-- What a build script asks for. The linker is only recorded. -/
structure Directives where
  arguments : List String
  directory : Option String
  linker : Option String
deriving DecidableEq, Repr

/-- Of several values after equal markers the last one counts. -/
def Directives.ofItems (items : List Item) : Directives where
  arguments := items.filterMap Item.argument?
  directory := (items.filterMap (Item.payload? .directory)).getLast?
  linker := (items.filterMap (Item.payload? .linker)).getLast?

/-- What the lines of a build script's output ask for. -/
def Format.directives (f : Format) (lines : List String) : Directives :=
  .ofItems (f.items none (f.values lines))

/-- What is logged about an item. -/
def Item.report (logger : String) : Item → Step Unit
  | .payload .directory value => Step.info logger s!"Extracted working directory: {value}"
  | .payload .linker value => Step.debug logger s!"Ignoring linker from build output: {value}"
  | .dropped value => Step.debug logger s!"Dropping ldproxy argument from build output: {value}"
  | .marker _ | .argument _ => pure ()

/-- Logs the items in order, and a marker that no value follows. -/
def report (logger : String) : List Item → Step Unit
  | [] => pure ()
  | [.marker m] => Step.debug logger s!"Marker {m.text} has no value in build output"
  | item :: rest => do
    item.report logger
    report logger rest

/-- Reads the lines of a build script's output. -/
def Format.parseLines (f : Format) (logger : String) (lines : List String) : Step Directives := do
  let items := f.items none (f.values lines)
  report logger items
  pure (.ofItems items)

/-- Reads the output of a build script from a file. -/
def Format.parse (f : Format) (logger : String) (path : Path) : Step Directives := do
  let text ← Step.look fun disk => disk.readText path
  f.parseLines logger (Text.lines text)

end LinkRelay.BuildScript
