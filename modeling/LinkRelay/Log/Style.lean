import LinkRelay.Log.Record
import LinkRelay.Text.Blank

namespace LinkRelay.Log.Style

/-- Whether output is coloured: as the style says, or, for any other style, if it goes to a
terminal. -/
def isColored (style : String) (terminal : Bool) : Bool :=
  match Text.lower (Text.trim style) with
  | "always" => true
  | "never" => false
  | _ => terminal

/-- The escape sequence that starts the colour of a level. -/
def color? (level : Level) : Option String :=
  if level = .trace then some "\x1b[35m"
  else if level = .debug then some "\x1b[34m"
  else if level = .info then some "\x1b[32m"
  else if level = .warning then some "\x1b[33m"
  else if level = .error then some "\x1b[31m"
  else if level = .critical then some "\x1b[1;31m"
  else none

/-- A text in the colour of its level, if colours are wanted and the level has one. -/
def paint (colored : Bool) (level : Level) (text : String) : String :=
  match color? level with
  | some start => if colored then start ++ text ++ "\x1b[0m" else text
  | none => text

end LinkRelay.Log.Style
