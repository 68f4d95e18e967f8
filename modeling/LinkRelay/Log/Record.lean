namespace LinkRelay.Log

/-- Levels are numbers; a higher one is more urgent. -/
abbrev Level := Int

namespace Level

def trace : Level := 5
def debug : Level := 10
def info : Level := 20
def warning : Level := 30
def error : Level := 40
def critical : Level := 50

/-- Above every level that records have. -/
def off : Level := 60

end Level

structure Record where
  level : Level
  logger : String
  text : String
deriving DecidableEq, Repr

/-- The name of the logger that all others stand below. -/
def baseName : String := "ldproxy"

end LinkRelay.Log
