import LinkRelay.BuildScript.Directive
import LinkRelay.BuildScript.Location

namespace LinkRelay.BuildScript

def mergeLogger : String := "ldproxy.merger"

/-- The tokens and the working directory of a link, and the file that was merged into them. -/
structure Merged where
  tokens : List String
  directory : Option String
  source : Option Path
deriving DecidableEq, Repr

/-- Adds the arguments of the directives at the end; their directory replaces the one there is. -/
def applyDirectives (tokens : List String) (directory : Option String) (source : Path)
    (d : Directives) : Step Merged := do
  Step.info mergeLogger s!"Extracted {d.arguments.length} link args from esp-idf-sys output"
  match d.directory with
  | some path => Step.info mergeLogger s!"Using working directory from esp-idf-sys: {path}"
  | none => pure ()
  if d.arguments.isEmpty then
    Step.warning mergeLogger "No ESP-IDF link args found in output file"
  else
    Step.info mergeLogger s!"Applying {d.arguments.length} ESP-IDF link args"
  pure ⟨tokens ++ d.arguments, d.directory.or directory, some source⟩

/-- Adds to a link what the build script below the target directory asks for. Whatever is missing or
unreadable on the way leaves the link as it was. -/
def merge (tokens : List String) (directory : Option String) (target : Option Path) :
    Step Merged := do
  let unchanged : Merged := ⟨tokens, directory, none⟩
  match target with
  | none => pure unchanged
  | some target =>
    Step.info mergeLogger s!"Reading esp-idf-sys link args from target directory: {target}"
    match ← Layout.usual.locate mergeLogger target with
    | none => pure unchanged
    | some source =>
      Step.debug mergeLogger s!"Reading esp-idf-sys output file: {source}"
      match ← (Format.usual.parse mergeLogger source).attempt with
      | .ok d => applyDirectives tokens directory source d
      | .error fault =>
        match fault.readError? with
        | some cause =>
          Step.warning mergeLogger s!"Failed to read ESP-IDF link args: {cause.message}"
          pure unchanged
        | none => Step.fail fault

end LinkRelay.BuildScript
