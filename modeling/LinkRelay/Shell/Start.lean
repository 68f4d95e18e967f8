import LinkRelay.Shell.Builtin

namespace LinkRelay.Shell

/-- The interpreter that a file asks for at its front, and the argument for it. -/
def interpreter? (text : Chars) : Option (Chars × List Chars) :=
  match text with
  | '#' :: '!' :: rest =>
    let line := ((rest.takeWhile (· ≠ '\n')).dropWhile isBlank).reverse.dropWhile isBlank
    let line := line.reverse
    let argument := (line.dropWhile fun c => !isBlank c).dropWhile isBlank
    some (line.takeWhile fun c => !isBlank c, if argument.isEmpty then [] else [argument])
  | _ => none

/-- The last component of a name. -/
def baseName (file : String) : String :=
  (Text.split '/' file).getLast?.getD ""

/-- The variables of a shell that starts with some in its environment. -/
def startVariables (environment : List (Chars × Chars)) (disk : Disk) : Variables :=
  let usual : Variables :=
    [("IFS", " \t\n"), ("PATH", usualPath), ("PS1", "# "), ("PS2", "> "), ("PS4", "+ "),
      ("OPTIND", "1"), ("PPID", "4242")].map fun (name, value) =>
      (name.toList, ⟨some value.toList, false, false⟩)
  let found := environment.foldl (fun vars (name, value) =>
    if isName name then vars.put name ⟨some value, true, false⟩ else vars) usual
  let reset (vars : Variables) (name : String) : Variables :=
    match usual.find? name.toList, vars.find? name.toList with
    | some u, some v => vars.put name.toList { v with value := u.value }
    | _, _ => vars
  let place :=
    match found.find? "PWD".toList with
    | some ⟨some value, _, _⟩ =>
      if value.head? = some '/' && (disk.walk (toText value)).toOption = some disk.here then value
      else nameOf disk.here
    | _ => nameOf disk.here
  (["IFS", "OPTIND", "PPID"].foldl reset found).put "PWD".toList ⟨some place, true, false⟩

/-- A shell before its script, on what another one or a host has for it. -/
def State.start (environment : List (Chars × Chars)) (disk : Disk)
    (descriptors : List (Nat × Channel)) (pipes : List (Nat × Pipe)) (asked : Nat) : State where
  disk := disk
  name := []
  speaker := none
  line := 0
  positional := []
  bindings := startVariables environment disk
  functions := []
  settings := []
  status := 0
  inner := 0
  descriptors := descriptors
  pipes := pipes
  files := []
  documents := []
  asked := asked
  loops := 0
  locals := none
  traps := []
  jobs := []
  optionIndex := 1
  optionPlace := 0
  mask := 18
  broken := false

/-- The shell that a shell starts as a program. -/
def State.another (s : State) : State :=
  { State.start s.bindings.environment s.disk s.descriptors s.pipes s.asked with
    files := s.files
    documents := s.documents
    traps := s.traps.filter fun t => t.2.isEmpty
    mask := s.mask }

/-- Complains that a program cannot be started. -/
def State.lackProgram (s : State) (name : Chars) : State :=
  if name.contains '/' && s.disk.exists? (toText name) then
    s.complain (name ++ ": Permission denied".toList) 126
  else if name.isEmpty then s.complain ": Permission denied".toList 127
  else s.complain (name ++ ": not found".toList) 127

/-- An environment as the options and assignments of `env` change it, and the arguments after
them. -/
def amend : List (Chars × Chars) → List Chars → List (Chars × Chars) × List Chars
  | env, ['-', 'u'] :: name :: rest => amend (env.filter fun v => v.1 ≠ name) rest
  | env, argument :: rest =>
    if argument = ['-', 'i'] || argument = ['-'] then amend [] rest
    else
      match cutAssignment argument with
      | (name, some value) =>
        let isThere := env.any fun v => v.1 = name
        let others := env.map fun v => if v.1 = name then (name, value) else v
        amend (if isThere then others else env ++ [(name, value)]) rest
      | (_, none) => (env, argument :: rest)
  | env, [] => (env, [])

/-- The shell with the variables of an environment, and with somewhere to look for programs. -/
def State.within (s : State) (environment : List (Chars × Chars)) : State :=
  let path := "PATH".toList
  let searched := environment.any fun v => v.1 = path
  let given : Variables := environment.map fun (name, value) => (name, ⟨some value, true, false⟩)
  let usual : Variable := ⟨some "/bin:/usr/bin".toList, false, false⟩
  { s with bindings := if searched then given else (path, usual) :: given }

end LinkRelay.Shell
