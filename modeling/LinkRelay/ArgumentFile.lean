import LinkRelay.Step

namespace LinkRelay.ArgumentFile

def logger : String := "ldproxy.parsing.rsp"

/-- The words of an argument file. -/
def read (path : Path) : Step (List String) := do
  let text ←
    match ← (Step.look fun disk => disk.readText path).attempt with
    | .ok text => pure text
    | .error fault =>
      match fault.readError? with
      | some cause => Step.fail (.link (.argumentsUnreadable path cause))
      | none => Step.fail fault
  Step.debug logger s!"Contents of {path}: {text}"
  match Words.split text with
  | .ok words => pure words
  | .error cause => Step.fail (.link (.argumentsUnsplittable path cause))

/-- The tokens that one token stands for: `@name` stands for the words of the file of that name,
which are taken as they are, also those that begin with `@` themselves. A name that leads to nothing
leaves the token as it is, so that the linker sees it. -/
def expandToken (token : String) : Step (List String) := do
  match Text.after? "@" token with
  | none => pure [token]
  | some name =>
    if ← Step.look fun disk => .ok (disk.exists? name) then read (Path.ofString name)
    else pure [token]

/-- The tokens that a command line stands for. -/
def expand : List String → Step (List String)
  | [] => pure []
  | token :: rest => do
    let first ← expandToken token
    let others ← expand rest
    pure (first ++ others)

end LinkRelay.ArgumentFile
