import LinkRelay.Log.Record
import LinkRelay.Text.Blank
import LinkRelay.Text.Search

namespace LinkRelay.Log.Filter

/-- The level that a word names. -/
def levelNamed? : String → Option Level
  | "off" => some .off
  | "error" => some .error
  | "warn" | "warning" => some .warning
  | "info" => some .info
  | "debug" => some .debug
  | "trace" => some .trace
  | _ => none

/-- Whether a target is the base logger or something below it. -/
def concerns (target : String) : Bool :=
  target = baseName || Text.startsWith target (baseName ++ "::") ||
    Text.startsWith target (baseName ++ ".")

/-- The level that an entry sets, if it applies. -/
def entryLevel? (entry : String) : Option Level :=
  let entry := Text.trim entry
  match Text.cutAt? '=' entry.toList with
  | none => levelNamed? (Text.lower entry)
  | some (target, value) =>
    if concerns (Text.trim (String.ofList target)) then
      levelNamed? (Text.lower (Text.trim (String.ofList value)))
    else none

/-- The level that a filter text such as `warn,ldproxy=trace` sets, or the default if no entry
applies. The last entry that applies decides. -/
def level (spec : String) (default : Level) : Level :=
  (Text.split ',' spec).foldl (fun current entry => (entryLevel? entry).getD current) default

end LinkRelay.Log.Filter
