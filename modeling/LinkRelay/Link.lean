import LinkRelay.ArgumentFile
import LinkRelay.BuildScript.Merge
import LinkRelay.Invocation
import LinkRelay.Library
import LinkRelay.Linker
import LinkRelay.TargetDirectory

namespace LinkRelay.Link

def logger : String := "ldproxy.runner"

/-- What the linker is to be asked for. -/
structure Plan where
  linker : String
  arguments : List String
  directory : Option String
deriving DecidableEq, Repr

/-- Everything before the linker starts: argument files are expanded, control flags taken out, the
linker is found, and what the build script asks for is added. -/
def plan (host : Host) (env : Environment) (argv : List String) : Step Plan := do
  Step.info logger "Running ldproxy"
  Step.debug logger s!"Raw link arguments: {Text.quoteList argv}"
  let tokens ← ArgumentFile.expand argv
  Step.debug logger s!"Link arguments: {Text.quoteList tokens}"
  let request ← ControlFlag.extract .own tokens
  let linker ← Linker.resolve host env .usual request.linker
  Step.debug logger s!"Actual linker executable: {linker}"
  Step.debug logger s!"Searching for target directory in {request.remaining.length} arguments"
  let target ← TargetDirectory.infer .usual request.remaining
  let merged ← BuildScript.merge request.remaining request.directory target
  if request.collapses then
    Step.debug logger "Duplicate libs removal requested"
    pure ⟨linker, Library.collapse Library.flagStart merged.tokens, merged.directory⟩
  else pure ⟨linker, merged.tokens, merged.directory⟩

/-- How a link runs its linker. -/
def settings (host : Host) (env : Environment) : Invocation.Settings where
  host := host
  environment := env
  threshold := Invocation.usualThreshold
  directory := none

/-- Runs a link. -/
def run (host : Host) (env : Environment) (argv : List String) : Step LinkResult := do
  let p ← plan host env argv
  Invocation.run (settings host env) p.linker p.arguments p.directory

end LinkRelay.Link
