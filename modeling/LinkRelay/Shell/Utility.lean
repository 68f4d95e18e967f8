import LinkRelay.Shell.Builtin

namespace LinkRelay.Shell

/-- The programs that are carried out if the disk has them. -/
def programs : List String :=
  ["cat", "cp", "echo", "env", "false", "ls", "mkdir", "mv", "printenv", "pwd", "rm", "sh", "sleep",
    "sort", "touch", "true"]

/-- Why a name is refused, in a program's words. -/
def whyRefused : Refusal → String
  | .isDirectory => "Is a directory"
  | .notDirectory => "Not a directory"
  | .nameTooLong => "File name too long"
  | .missing | .holdsZero => "No such file or directory"

/-- A character as programs spell it where it cannot be shown. -/
def spelled (c : Char) : Chars :=
  let letters : List (Char × Char) :=
    [('\x07', 'a'), ('\x08', 'b'), ('\t', 't'), ('\n', 'n'), ('\x0b', 'v'), ('\x0c', 'f'),
      ('\r', 'r')]
  match List.lookup c letters with
  | some letter => ['\\', letter]
  | none =>
    let digits := Nat.toDigits 8 c.toNat
    '\\' :: List.replicate (3 - digits.length) '0' ++ digits

def isShown (c : Char) : Bool := ' ' ≤ c && c ≤ '~'

/-- The rest of a name in single quotes, with characters that cannot be shown spelled in quotes of
their own; `spelling` tells whether such quotes are open. -/
def singleQuoted (spelling : Bool) : Chars → Chars
  | [] => ['\'']
  | c :: rest =>
    if !isShown c then
      (if spelling then [] else "'$'".toList) ++ spelled c ++ singleQuoted true rest
    else
      (if spelling then "''".toList else []) ++
        (if c = '\'' then "'\\''".toList else [c]) ++ singleQuoted false rest

/-- A name in the complaint of a program: in quotes, or, unless `always`, only in quotes if a shell
would not read it as it stands. -/
def nameShown (always : Bool) (name : Chars) : Chars :=
  let isPlain (c : Char) : Bool := c.isAlphanum || "%+,-./]_@\x7b\x7d#~".toList.contains c
  let isCalm (c : Char) : Bool := c.isAlphanum || " %+,-./:]_'\x7b\x7d".toList.contains c
  let stands := name.all isPlain && !name.isEmpty && name.head? ≠ some '#' &&
    name.head? ≠ some '~' && name ≠ ['\x7b'] && name ≠ ['\x7d']
  if stands && !always then name
  else if name.contains '\'' && name.all isCalm then '"' :: name ++ ['"']
  else '\'' :: singleQuoted false name

/-- Names that are flags, each after a hyphen, and the other arguments. -/
def splitFlags (arguments : List Chars) : Chars × List Chars :=
  let isFlag (a : Chars) : Bool := a.head? = some '-' && 1 < a.length
  ((arguments.filter isFlag).flatMap (·.drop 1), arguments.filter fun a => !isFlag a)

/-- A name that a program was refused, and why. -/
def refusedName (name : Chars) (why : Refusal) : Chars :=
  nameShown false name ++ ": ".toList ++ (whyRefused why).toList

namespace State

/-- Has a program complain, and fail. -/
def lament (s : State) (program : String) (text : Chars) : State :=
  { s.write 2 ((program ++ ": ").toList ++ text ++ ['\n']) with status := 1 }

/-- Has a program complain of a name that it cannot do something with. -/
def lamentName (s : State) (program deed : String) (name : Chars) (why : Refusal) : State :=
  s.lament program
    (deed.toList ++ ' ' :: nameShown true name ++ ": ".toList ++ (whyRefused why).toList)

/-- Has a program complain that it was not given the names it needs. -/
def lamentOperand (s : State) (program what : String) : State :=
  s.lament program ("missing " ++ what ++ "\nTry '" ++ program ++
    " --help' for more information.").toList

/-- Writes what stands in named files one after the other. A hyphen means the input. -/
def concatenate (s : State) (names : List Chars) : State :=
  names.foldl (fun s name =>
    if name = ['-'] then (s.write 1 (s.input 0)).setInput 0 []
    else
      match s.disk.read (toText name) with
      | .ok bytes => s.write 1 (ofBytes bytes)
      | .error why => s.lament "cat" (refusedName name why)) s

/-- Removes files; `force` forgives those that are not there, and `deep` allows directories. -/
def removeFiles (s : State) (force deep : Bool) (names : List Chars) : State :=
  names.foldl (fun s name =>
    match s.disk.stat (toText name), s.disk.walk (toText name) with
    | .ok .directory, .ok loc =>
      if deep then { s with disk := s.disk.prune loc }
      else s.lamentName "rm" "cannot remove" name .isDirectory
    | .ok _, .ok loc => { s with disk := s.disk.erase loc }
    | .error why, _ | _, .error why =>
      if force then s else s.lamentName "rm" "cannot remove" name why) s

/-- Makes directories; with `deep`, also those above them, and without minding those there are. -/
def makeDirectories (s : State) (deep : Bool) (names : List Chars) : State :=
  names.foldl (fun s name =>
    let deed := "cannot create directory"
    if deep then
      let loc := lexically s.disk.here (toText name)
      let isBlocked := (List.range (loc.length + 1)).any fun n =>
        match s.disk.node? (loc.take n) with
        | some (.file _ _) | some .sink => true
        | _ => false
      let reason := if (s.disk.node? loc).isSome then ": File exists" else ": Not a directory"
      if isBlocked then
        s.lament "mkdir" (deed.toList ++ ' ' :: nameShown true name ++ reason.toList)
      else if (s.disk.node? loc).isSome then s
      else { s with disk := s.disk.grow loc .directory }
    else
      match s.disk.walk (toText name) with
      | .ok loc =>
        match s.disk.node? loc with
        | none => { s with disk := s.disk.put loc .directory }
        | some _ =>
          s.lament "mkdir" (deed.toList ++ ' ' :: nameShown true name ++ ": File exists".toList)
      | .error why => s.lamentName "mkdir" deed name why) s

/-- Makes empty files of those that are not there. -/
def touchFiles (s : State) (names : List Chars) : State :=
  names.foldl (fun s name =>
    if s.disk.exists? (toText name) then s
    else
      match s.disk.write (toText name) [] with
      | .ok disk => { s with disk := disk }
      | .error why => s.lamentName "touch" "cannot touch" name why) s

/-- Lists the names in directories, and the names of files as they are. Names that begin with a dot
are left out unless `hidden`; `whole` adds the directory itself and the one above. -/
def listNames (s : State) (hidden whole : Bool) (names : List Chars) : State :=
  let line (name : Chars) : Chars := name ++ ['\n']
  let sorted (names : List Chars) : List Chars := names.mergeSort precedes
  let isDirectory (name : Chars) : Bool :=
    (s.disk.stat (toText name)).toOption = some .directory
  let content (name : Chars) : Chars :=
    match s.disk.names (toText name) with
    | .ok inside =>
      let inside := if whole then "." :: ".." :: inside else inside
      let shown := (inside.map ofString).filter fun n => hidden || whole || n.head? ≠ some '.'
      (sorted shown).flatMap line
    | .error _ => []
  let missing := names.filter fun n => !s.disk.exists? (toText n)
  let present := sorted (names.filter fun n => s.disk.exists? (toText n))
  let files := present.filter fun n => !isDirectory n
  let directories := present.filter isDirectory
  let s := missing.foldl (fun s n =>
    { s.lamentName "ls" "cannot access" n .missing with status := 2 }) s
  let blocks := directories.map fun n =>
    if names.length = 1 then content n else n ++ ":\n".toList ++ content n
  let first := if files.isEmpty then [] else [files.flatMap line]
  s.write 1 (['\n'].intercalate (first ++ blocks))

/-- Copies a file to a name, or into a directory, and removes it if it is moved. -/
def copyFile (s : State) (program : String) (moves : Bool) (source target : Chars) : State :=
  let place :=
    if (s.disk.stat (toText target)).toOption = some .directory then
      target ++ '/' :: ofString ((Text.split '/' (toText source)).getLast?.getD "")
    else target
  match s.disk.read (toText source) with
  | .error .isDirectory =>
    s.lament program ("-r not specified; omitting directory ".toList ++ nameShown true source)
  | .error why =>
    s.lamentName program "cannot stat" source why
  | .ok bytes =>
    match s.disk.write (toText place) bytes with
    | .error why => s.lamentName program "cannot create regular file" place why
    | .ok disk =>
      if moves then { s with disk := (disk.remove (toText source)).toOption.getD disk }
      else { s with disk := disk }

def listEnvironment (s : State) (environment : List (Chars × Chars)) : State :=
  s.write 1 (environment.flatMap fun (name, value) => name ++ '=' :: value ++ ['\n'])

/-- Writes the values of variables that programs find, and fails if one is missing. -/
def writeValues (s : State) (names : List Chars) : State :=
  names.foldl (fun s name =>
    match List.lookup name s.bindings.environment with
    | some value => s.write 1 (value ++ ['\n'])
    | none => { s with status := 1 }) s

/-- Writes the lines of named files in order, or in the opposite one; with `once`, equal lines only
once. A hyphen means the input. -/
def sortLines (s : State) (opposite once : Bool) (names : List Chars) : State :=
  let missing? := names.findSome? fun name =>
    match s.disk.read (toText name) with
    | .ok _ => none
    | .error why => if name = ['-'] then none else some (name, why)
  match missing? with
  | some (name, why) =>
    let verb := if why = .isDirectory then "read failed: " else "cannot read: "
    { s.lament "sort" (verb.toList ++ refusedName name why) with status := 2 }
  | none =>
    let linesOf (text : Chars) : List Chars :=
      let pieces := Text.pieces '\n' text
      if pieces.getLast? = some [] then pieces.dropLast else pieces
    let lines := names.flatMap fun name =>
      if name = ['-'] then linesOf (s.input 0)
      else linesOf (ofBytes ((s.disk.read (toText name)).toOption.getD []))
    let sorted := lines.mergeSort precedes
    let sorted := if once then sorted.eraseDups else sorted
    let sorted := if opposite then sorted.reverse else sorted
    let s := if names.contains ['-'] then s.setInput 0 [] else s
    s.write 1 (sorted.flatMap (· ++ ['\n']))

end State

/-- A program that starts no other, if it is one of those known here, as far as scripts use it. -/
def runUtility? (s : State) (name : String) (arguments : List Chars) : Option State :=
  let s := { s with status := 0 }
  let (flags, names) := splitFlags arguments
  match name with
  | "cat" => some (s.concatenate (if names.isEmpty then [['-']] else names))
  | "sort" =>
    let names := if names.isEmpty then [['-']] else names
    some (s.sortLines (flags.contains 'r') (flags.contains 'u') names)
  | "printenv" =>
    some (if names.isEmpty then s.listEnvironment s.bindings.environment else s.writeValues names)
  | "rm" =>
    if names.isEmpty && !flags.contains 'f' then some (s.lamentOperand name "operand")
    else some (s.removeFiles (flags.contains 'f') (flags.contains 'r' || flags.contains 'R') names)
  | "mkdir" =>
    if names.isEmpty then some (s.lamentOperand name "operand")
    else some (s.makeDirectories (flags.contains 'p') names)
  | "touch" =>
    if names.isEmpty then some (s.lamentOperand name "file operand") else some (s.touchFiles names)
  | "ls" =>
    let names := if names.isEmpty then [['.']] else names
    some (s.listNames (flags.contains 'A') (flags.contains 'a') names)
  | "cp" | "mv" =>
    match names with
    | [] => some (s.lamentOperand name "file operand")
    | [source] =>
      some (s.lament name ("missing destination file operand after ".toList ++
        nameShown true source ++ ("\nTry '" ++ name ++ " --help' for more information.").toList))
    | source :: target :: _ => some (s.copyFile name (name = "mv") source target)
  | "echo" =>
    let (ends, words) : Bool × List Chars :=
      match arguments with
      | ['-', 'n'] :: rest => (false, rest)
      | words => (true, words)
    some (s.write 1 ([' '].intercalate words ++ if ends then ['\n'] else []))
  | "pwd" => some (s.write 1 (nameOf s.disk.here ++ ['\n']))
  | "true" | "sleep" => some s
  | "false" => some (s.answer false)
  | _ => none

end LinkRelay.Shell
