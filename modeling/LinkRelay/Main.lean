import LinkRelay.Program
import LinkRelay.Shell.Run

namespace LinkRelay

/-- How far below the current directory files are read in. -/
def readingDepth : Nat := 8

/-- The most bytes of a file that are read in; a longer file stands as an empty one. -/
def readingLimit : Nat := 1048576

/-- The name of a location. -/
def nameOf (loc : Location) : String :=
  "/" ++ "/".intercalate loc

/-- The location of an absolute name. -/
def locationOf (name : String) : Location :=
  (Path.ofString name).parts

/-- The variables of the running process. -/
def readEnvironment : IO Environment := do
  match ← (IO.FS.readFile "/proc/self/environ").toBaseIO with
  | .ok text => return .ofText text
  | .error _ => return []

/-- The number of the running process, or zero if it cannot be found. -/
def readProcessId : IO Int := do
  match ← (IO.FS.readFile "/proc/self/stat").toBaseIO with
  | .ok text => return ((Text.split ' ' text).head?.bind String.toInt?).getD 0
  | .error _ => return 0

/-- The bytes of a file as far as they are read in. -/
def readContent (name : String) (size : Nat) : IO (List UInt8) := do
  if readingLimit < size then return []
  match ← (IO.FS.readBinFile name).toBaseIO with
  | .ok bytes => return bytes.toList
  | .error _ => return []

/-- A disk with what stands at an entry of a directory and below it. -/
def addEntry : Nat → Disk → IO.FS.DirEntry → IO Disk
  | 0, disk, _ => return disk
  | depth + 1, disk, entry => do
    let name := entry.path.toString
    let loc := locationOf name
    match ← entry.path.metadata.toBaseIO with
    | .error _ => return disk
    | .ok metadata =>
      match metadata.type with
      | .dir =>
        let entries := (← entry.path.readDir.toBaseIO).toOption.getD #[]
        entries.foldlM (addEntry depth) (disk.grow loc .directory)
      | .file =>
        return disk.grow loc (.file (← readContent name metadata.byteSize.toNat) false)
      | _ => return disk

/-- A disk with the programs of some names that are there. -/
def addPrograms (disk : Disk) (names : List String) : IO Disk :=
  names.foldlM (fun disk (name : String) => do
    match ← (IO.FS.readBinFile name).toBaseIO with
    | .ok _ => return disk.grow (locationOf name) (.file [] true)
    | .error _ => return disk) disk

/-- Writes back what stands on a disk and not on the one before it, and removes what is gone. -/
def writeBack (before after : Disk) : IO Unit := do
  for (loc, node) in after.nodes.reverse do
    if before.node? loc ≠ some node then
      match node with
      | .directory => IO.FS.createDirAll (nameOf loc)
      | .file bytes _ => IO.FS.writeBinFile (nameOf loc) ⟨bytes.toArray⟩
      | .sink => pure ()
  for (loc, node) in before.nodes do
    if (after.node? loc).isNone then
      match node with
      | .directory => IO.FS.removeDirAll (nameOf loc)
      | .file _ _ => IO.FS.removeFile (nameOf loc)
      | .sink => pure ()

/-- Runs the program on the files below the current directory and writes what it says; what the run
has changed is written back. The only program that can be started as a linker is the shell of this
library. -/
def runHere (arguments : List String) : IO UInt32 := do
  let env ← readEnvironment
  let here ← IO.currentDir
  let temporary := (env.get? "TMPDIR").getD "/tmp"
  let empty : Disk := ⟨[], locationOf here.toString⟩
  let empty := (empty.grow (locationOf temporary) .directory).put ["dev", "null"] .sink
  let disk ← addEntry readingDepth empty ⟨here, "."⟩
  let host : Host :=
    ⟨env, ← readProcessId, Path.ofString temporary, Shell.runner env, .empty⟩
  let searchPath := Linker.searchPath host env
  let programs := Linker.Sources.usual.candidates ++ Shell.programs
  let disk ← addPrograms disk (programs.flatMap (Linker.searchNames searchPath))
  let errors ← IO.getStderr
  let run := Program.run host (← errors.isTty) Log.Hierarchy.fresh arguments disk
  for (sink, text) in run.written do
    if sink = .standardError then errors.putStr text
  writeBack disk run.disk
  match run.ending with
  | .exited code => return UInt32.ofNat code
  | .escaped fault =>
    errors.putStr s!"{fault.message}\n"
    return 1

end LinkRelay

/-- Stands in for the linker: the exit code tells whether the link was good. -/
def main (arguments : List String) : IO UInt32 :=
  LinkRelay.runHere arguments
