import LinkRelay.ControlFlag
import LinkRelay.Host

namespace LinkRelay.Linker

def logger : String := "ldproxy.discovery.linker"

/-- Where a linker is looked for when none is asked for: the variables that may name it, and the
names to look for on the search path, both in order. -/
structure Sources where
  variableNames : List String
  candidates : List String
deriving DecidableEq, Repr

/-- The compilers of the supported targets, from the environment or by their usual names. -/
def Sources.usual : Sources where
  variableNames :=
    ["CC_riscv32imafc_esp_espidf", "CC_riscv32imac_esp_espidf", "CC_riscv32imc_esp_espidf", "CC"]
  candidates := ["riscv32-esp-elf-gcc", "riscv32-unknown-elf-gcc", "riscv64-unknown-elf-gcc"]

/-- The search path of a process without one. -/
def standardSearchPath : String := "/bin:/usr/bin"

/-- The name of an entry of a directory; the empty directory is the current one. -/
def inDirectory (directory name : String) : String :=
  if directory = "" then name
  else if directory.toList.getLast? = some '/' then directory ++ name
  else directory ++ "/" ++ name

/-- The names to try for a program: the name itself if it has a slash, and else its names in the
directories of the search path. An empty search path has no directories. -/
def searchNames (searchPath name : String) : List String :=
  if Text.contains name "/" then [name]
  else if searchPath = "" then []
  else (Text.split ':' searchPath).map (inDirectory · name)

/-- Whether a program is found. -/
def isFound (disk : Disk) (searchPath name : String) : Bool :=
  (searchNames searchPath name).any disk.isExecutable

/-- The search path: the given environment's, else the running process's, else the standard one. -/
def searchPath (host : Host) (env : Environment) : String :=
  (env.get? "PATH").getD ((host.environment.get? "PATH").getD standardSearchPath)

/-- The first variable with a value, and the value. -/
def named? (env : Environment) (variableNames : List String) : Option (String × String) :=
  variableNames.findSome? fun name =>
    match env.get? name with
    | some value => if value = "" then none else some (name, value)
    | none => none

/-- The linker that the environment names. -/
def fromEnvironment (env : Environment) (sources : Sources) : Step (Option String) := do
  match named? env sources.variableNames with
  | some (name, value) =>
    Step.debug logger s!"Linker from {name}: {value}"
    pure (some value)
  | none => pure none

/-- The first candidate on the search path. -/
def fromSearchPath (host : Host) (env : Environment) (sources : Sources) :
    Step (Option String) := do
  let path := searchPath host env
  match ← Step.look fun disk => .ok (sources.candidates.find? (isFound disk path)) with
  | some name =>
    Step.debug logger s!"Linker found on PATH: {name}"
    pure (some name)
  | none => pure none

/-- The linker to start. An empty request is none. -/
def resolve (host : Host) (env : Environment) (sources : Sources) (asked : Option String) :
    Step String := do
  match asked.filter (· ≠ "") with
  | some linker => pure linker
  | none =>
    match ← fromEnvironment env sources with
    | some linker => pure linker
    | none =>
      match ← fromSearchPath host env sources with
      | some linker => pure linker
      | none => Step.fail (.link .linkerNotFound)

end LinkRelay.Linker
