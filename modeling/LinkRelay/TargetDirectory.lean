import LinkRelay.Step

namespace LinkRelay.TargetDirectory

def logger : String := "ldproxy.discovery.target"

/-- The marks between which a dependency's path tells the target directory. -/
structure Marks where
  target : String
  dependencies : String
deriving DecidableEq, Repr

def Marks.usual : Marks := ⟨"/target/", "/deps/"⟩

/-- The first token that holds both marks, and its part before the last mark of dependencies. -/
def candidate? (marks : Marks) : List String → Option (String × String)
  | [] => none
  | token :: rest =>
    match Text.beforeLast? marks.dependencies token with
    | some kept =>
      if Text.contains token marks.target then some (token, kept) else candidate? marks rest
    | none => candidate? marks rest

/-- The target directory that some tokens imply, read off the path of a dependency such as
`/work/target/<triple>/<profile>/deps/<file>`. -/
def infer (marks : Marks) (tokens : List String) : Step (Option Path) := do
  match candidate? marks tokens with
  | none => pure none
  | some (token, kept) =>
    let directory := Path.ofString kept
    Step.debug logger s!"Found potential target path: {token}"
    Step.debug logger s!"Inferred target directory: {directory}"
    pure (some directory)

end LinkRelay.TargetDirectory
