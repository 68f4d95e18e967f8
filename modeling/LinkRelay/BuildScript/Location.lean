import LinkRelay.Step

namespace LinkRelay.BuildScript

/-- The names on the way from a target directory to the output file. -/
structure Layout where
  build : String
  companionStart : String
  file : String
deriving DecidableEq, Repr

def Layout.usual : Layout := ⟨"build", "esp-idf-sys-", "output"⟩

/-- The first path that leads to a directory. Asking goes on until one does, and a name that is too
long ends it in a fault. -/
def firstDirectory (disk : Disk) : List Path → Except Fault (Option Path)
  | [] => .ok none
  | path :: rest => do
    if ← disk.isDirectory path then return some path else firstDirectory disk rest

/-- The companion directory among the named entries of a directory. -/
def companionAmong (disk : Disk) (directory : Path) (start : String) (names : List String) :
    Except Fault (Option Path) :=
  let sorted := names.mergeSort fun a b => decide (a ≤ b)
  firstDirectory disk ((sorted.filter fun n => Text.startsWith n start).map directory.child)

/-- The companion directory in a directory. One that cannot be listed has none. -/
def findCompanion (directory : Path) (start : String) : Step (Option Path) := do
  let name := directory.toString
  match ← (Step.look fun disk => (disk.names name).mapError (Refusal.fault name)).attempt with
  | .ok names => Step.look fun disk => companionAmong disk directory start names
  | .error (.system cause) =>
    Step.debug "ldproxy.discovery.target" s!"Cannot list {directory}: {cause.message}"
    pure none
  | .error fault => Step.fail fault

/-- The output file below a target directory: it stands in a companion directory, the first by name
among those of the build. That there is none is worth a warning. -/
def Layout.locate (layout : Layout) (logger : String) (target : Path) : Step (Option Path) := do
  let build := target.join layout.build
  if ← Step.look fun disk => disk.isDirectory build then
    match ← findCompanion build layout.companionStart with
    | some companion =>
      let output := companion.join layout.file
      if ← Step.look fun disk => disk.isFile output then pure (some output)
      else
        Step.warning logger s!"Build output file does not exist: {output}"
        pure none
    | none =>
      Step.warning logger s!"No {layout.companionStart}* directory found in {build}"
      pure none
  else
    Step.warning logger s!"Build directory does not exist: {build}"
    pure none

end LinkRelay.BuildScript
