import LinkRelay.Log.Style
import LinkRelay.Text.Search

namespace LinkRelay.Log

/-- Where log output goes: to standard error, or to a stream of its own. -/
inductive Sink where
  | standardError
  | stream (number : Nat)
deriving DecidableEq, Repr

/-- Writes records to a sink, coloured or not. -/
structure Handler where
  sink : Sink
  colored : Bool
deriving DecidableEq, Repr

/-- Loggers by name. The base logger has a level and, once it is set up, handlers; all other loggers
take both from the loggers above them. What a logger has once been asked it remembers until the
level is set again. -/
structure Hierarchy where
  /-- The level of the base logger, zero if it has none. -/
  level : Level
  /-- The handlers of the base logger. -/
  handlers : List Handler
  /-- Whether records go on from the base logger to the handlers above it, of which there are
  none. -/
  propagates : Bool
  /-- The loggers met so far. -/
  known : List String
  /-- Which loggers have been asked whether they accept records of which level, and their answers,
  the latest first. -/
  remembered : List ((String × Level) × Bool)
deriving DecidableEq, Repr

/-- The full name of the logger that is asked for by a name: below the base logger, unless the name
begins as the base logger's does. -/
def loggerName (name : Option String) : String :=
  match name with
  | none | some "" => baseName
  | some name => if Text.startsWith name baseName then name else baseName ++ "." ++ name

/-- The names that stand above a name, nearest first, all of them reversed: what is left of a dot,
where a dot directly left of the one just used is passed over. -/
def namesAbove : List Char → List (List Char)
  | [] => []
  | '.' :: c :: rest => (c :: rest) :: namesAbove rest
  | _ :: rest => namesAbove rest

namespace Hierarchy

/-- Before anything is set up. -/
def fresh : Hierarchy := ⟨0, [], true, [baseName], []⟩

/-- The first of some names, which are reversed, that a known logger has. -/
def nearest? (h : Hierarchy) (names : List (List Char)) : Option String :=
  (names.map fun n => String.ofList n.reverse).find? h.known.contains

/-- The nearest known logger above a name. -/
def parent? (h : Hierarchy) (name : String) : Option String :=
  h.nearest? (namesAbove name.toList.reverse)

/-- A name and up to `n` loggers above it. -/
def lineage (h : Hierarchy) : Nat → String → List String
  | 0, name => [name]
  | n + 1, name =>
    name ::
      match h.parent? name with
      | some above => h.lineage n above
      | none => []

/-- Whether a logger is the base logger or stands below it. A name of `n` characters has fewer than
`n` names above it. -/
def isBelowBase (h : Hierarchy) (name : String) : Bool :=
  (h.lineage name.length name).contains baseName

/-- The least level that a logger accepts: the base logger's if it has one, and else a warning's. -/
def effectiveLevel (h : Hierarchy) (name : String) : Level :=
  if h.isBelowBase name && h.level ≠ 0 then h.level else .warning

/-- Whether records of a level are urgent enough for a logger. Levels from zero down never are. -/
def admits (h : Hierarchy) (name : String) (level : Level) : Bool :=
  0 < level && h.effectiveLevel name ≤ level

/-- Whether a logger accepts records of a level: as it remembers, or else as things are. -/
def accepts (h : Hierarchy) (name : String) (level : Level) : Bool :=
  (List.lookup (name, level) h.remembered).getD (h.admits name level)

/-- Asks a logger whether it accepts records of a level. -/
def ask (h : Hierarchy) (name : String) (level : Level) : Hierarchy :=
  { h with remembered := ((name, level), h.accepts name level) :: h.remembered }

/-- The handlers that a logger's records come to. -/
def reached (h : Hierarchy) (name : String) : List Handler :=
  if h.isBelowBase name then h.handlers else []

/-- What a record makes a logger write, and where. If it comes to no handler, warnings and what is
more urgent still go to standard error, as they are. -/
def writes (h : Hierarchy) (record : Record) : List (Sink × String) :=
  if h.accepts record.logger record.level then
    match h.reached record.logger with
    | [] => if Level.warning ≤ record.level then [(.standardError, record.text ++ "\n")] else []
    | handlers => handlers.map fun handler =>
      (handler.sink, Style.paint handler.colored record.level record.text ++ "\n")
  else []

/-- Meets a logger. -/
def meet (h : Hierarchy) (name : String) : Hierarchy :=
  if h.known.contains name then h else { h with known := name :: h.known }

/-- Gives the base logger a level, which makes all loggers forget their answers, and, if it has no
handler yet, the handler. From then on no record goes further up. -/
def setUp (h : Hierarchy) (level : Level) (handler : Handler) : Hierarchy :=
  let h := { h with level := level, remembered := [] }
  if h.handlers.isEmpty then { h with handlers := [handler], propagates := false } else h

end Hierarchy

/-- Sets the base logger up when its first logger is asked for, and never again. -/
structure Provider where
  level : Level
  handler : Handler
  used : Bool
deriving DecidableEq, Repr

/-- The full name of a logger, after the base logger was set up. -/
def Provider.logger (p : Provider) (name : Option String) (h : Hierarchy) :
    String × Provider × Hierarchy :=
  let h := if p.used then h else h.setUp p.level p.handler
  let name := loggerName name
  (name, { p with used := true }, h.meet name)

end LinkRelay.Log
