import LinkRelay.Environment
import LinkRelay.Log.Filter
import LinkRelay.Log.Style

namespace LinkRelay.Log

/-- The least level that is written, and whether output is coloured. -/
structure Settings where
  level : Level
  colored : Bool
deriving DecidableEq, Repr

def filterVariable : String := "LDPROXY_LOG"
def styleVariable : String := "LDPROXY_LOG_STYLE"

/-- The settings that an environment asks for; without a filter, records from `info` on are written.
`terminal` tells whether the output goes to a terminal. -/
def Settings.ofEnvironment (env : Environment) (terminal : Bool) : Settings where
  level := Filter.level ((env.get? filterVariable).getD "info") .info
  colored := Style.isColored ((env.get? styleVariable).getD "auto") terminal

end LinkRelay.Log
