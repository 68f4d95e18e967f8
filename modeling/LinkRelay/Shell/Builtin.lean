import LinkRelay.Linker
import LinkRelay.Shell.Condition
import LinkRelay.Shell.Fields
import LinkRelay.Shell.Output
import LinkRelay.Shell.Reader
import LinkRelay.Shell.State
import LinkRelay.ExitStatus

namespace LinkRelay.Shell

/-- The commands of the shell that a function can stand in for. -/
def regularCommands : List String :=
  ["[", "alias", "bg", "cd", "chdir", "command", "echo", "false", "fg", "getopts", "hash", "jobs",
    "printf", "pwd", "read", "test", "true", "type", "ulimit", "umask", "unalias", "wait"]

/-- The letters of the options in front of some arguments, and the arguments after them; or a letter
that is none of those allowed. -/
def takeFlags (allowed : Chars) : List Chars → Except Char (Chars × List Chars)
  | ['-', '-'] :: rest => .ok ([], rest)
  | ('-' :: c :: letters) :: rest =>
    match (c :: letters).find? fun d => !allowed.contains d with
    | some d => .error d
    | none => (takeFlags allowed rest).map fun (flags, others) => (c :: letters ++ flags, others)
  | arguments => .ok ([], arguments)

/-- Goes on with the options and the other arguments of a command. -/
def withFlags (s : State) (allowed : String) (arguments : List Chars)
    (next : Chars → List Chars → State) : State :=
  match takeFlags allowed.toList arguments with
  | .ok (flags, rest) => next flags rest
  | .error c => s.breakOff ("Illegal option -".toList ++ [c])

/-- Goes on with the number that an argument spells. -/
def withNumber (s : State) (argument : Chars) (next : Nat → State × Flow) : State × Flow :=
  match natural? argument with
  | some n =>
    if n < 2147483648 then next n else (s.breakOff ("Illegal number: ".toList ++ argument), .onward)
  | none => (s.breakOff ("Illegal number: ".toList ++ argument), .onward)

/-! ### Variables -/

/-- The name and the value of an argument such as `name=value`. -/
def cutAssignment (argument : Chars) : Chars × Option Chars :=
  match argument.dropWhile (· ≠ '=') with
  | '=' :: value => (argument.takeWhile (· ≠ '='), some value)
  | _ => (argument, none)

namespace State

/-- Goes on with the name of a variable in a word, which an equals sign ends. -/
def withName (s : State) (word : Chars) (next : Chars → State) : State :=
  let name := word.takeWhile (· ≠ '=')
  if isName name then next name else s.breakOff (name ++ ": bad variable name".toList)

/-- Gives the variable of a name that was reckoned a value. -/
def assign (s : State) (word value : Chars) : State :=
  s.withName word fun name => s.setVariable name value

/-- Marks variables, some of which get values, or lists those with the mark. -/
def declare (s : State) (word : String) (isMarked : Variable → Bool) (mark : Variable → Variable)
    (arguments : List Chars) : State :=
  withFlags s "p" arguments fun flags names =>
    if flags.isEmpty && !names.isEmpty then
      names.foldl (fun s argument =>
        if s.broken then s
        else s.withName argument fun name =>
          let s := match (cutAssignment argument).2 with
            | some v => s.setVariable name v
            | none => s
          let v := (s.bindings.find? name).getD ⟨none, false, false⟩
          if s.broken then s else { s with bindings := s.bindings.put name (mark v) }) s
    else
      let marked := s.bindings.sorted.filter fun v => isMarked v.2
      s.say (marked.flatMap fun (name, v) => Variables.describe (word ++ " ") name v)

def listVariables (s : State) : State :=
  let set := s.bindings.sorted.filter fun v => v.2.value.isSome
  s.say (set.flatMap fun (name, v) => Variables.describe "" name v)

/-- Keeps variables for the function that the shell is in. -/
def makeLocal (s : State) (argument : Chars) : State :=
  match s.locals with
  | none => s.breakOff "not in a function".toList
  | some saved =>
    s.withName argument fun name =>
      let s := { s with locals := some ((name, s.bindings.find? name) :: saved) }
      match (cutAssignment argument).2 with
      | some v => s.setVariable name v
      | none => s

/-- Takes variables or, with the letter `f`, functions away. -/
def unsetAll (s : State) (arguments : List Chars) : State :=
  withFlags s "vf" arguments fun flags names =>
    names.foldl (fun s name =>
      if s.broken then s
      else if flags.getLast? = some 'f' then
        { s with functions := s.functions.filter fun f => f.1 ≠ name }
      else s.withName name s.unset) s

/-- Chooses settings and positional parameters, or lists the variables. -/
def chooseSettings (s : State) (arguments : List Chars) : State :=
  if arguments.isEmpty then s.listVariables
  else
    let choices := Choices.ofArguments false s.settings arguments
    let s := s.say choices.listed
    match choices.mistake with
    | some mistake => s.breakOff mistake
    | none =>
      let s := { s with settings := choices.on }.withoutJobs
      let replaces := !choices.rest.isEmpty || arguments.getLast? = some ['-', '-']
      if replaces then { s with positional := choices.rest } else s

end State

/-! ### Input -/

/-- Whether `read` takes backslashes as they are, and its names. -/
def takeReadFlags (raw : Bool) : List Chars → Except Chars (Bool × List Chars)
  | ['-', '-'] :: rest => .ok (raw, rest)
  | ('-' :: c :: letters) :: rest =>
    let flags := (c :: letters).takeWhile (· ≠ 'p')
    let raw := raw || !flags.isEmpty
    match flags.find? (· ≠ 'r') with
    | some d => .error ("Illegal option -".toList ++ [d])
    | none =>
      match (c :: letters).dropWhile (· ≠ 'p'), rest with
      | ['p'], [] => .error "No arg for -p option".toList
      | ['p'], _ :: rest => takeReadFlags raw rest
      | _, rest => takeReadFlags raw rest
  | arguments => .ok (raw, arguments)

/-- A line, with a mark on each character that no backslash protects, and the text after it; a
backslash before a line end joins two lines. The flag tells whether the line has an end. -/
def takeLine (raw : Bool) : Chars → List PatternChar × Chars × Bool
  | [] => ([], [], false)
  | '\\' :: rest =>
    if raw then
      let (line, after, ends) := takeLine raw rest
      (('\\', true) :: line, after, ends)
    else
      match rest with
      | [] => ([], [], false)
      | c :: rest =>
        let (line, after, ends) := takeLine raw rest
        (if c = '\n' then line else (c, false) :: line, after, ends)
  | c :: rest =>
    if c = '\n' then ([], rest, true)
    else
      let (line, after, ends) := takeLine raw rest
      (if c = '\x00' then line else (c, true) :: line, after, ends)

/-- Reads a line into variables. -/
def State.readInto (s : State) (arguments : List Chars) : State :=
  match takeReadFlags false arguments with
  | .error mistake => s.breakOff mistake
  | .ok (_, []) => s.breakOff "arg count".toList
  | .ok (raw, names) =>
    let (line, rest, ends) := takeLine raw (s.input 0)
    let values := lineFields s.separators names.length line
    let s := (s.setInput 0 rest).answer ends
    (names.zip values).foldl (fun s (name, value) =>
      if s.broken then s else s.assign name value) s

/-! ### Options of scripts -/

/-- Whether an option takes an argument; none if it is not one of some options. A colon in them
follows an option that does. -/
def takesArgument? (option : Char) : Chars → Option Bool
  | [] => none
  | c :: ':' :: rest => if c = option then some true else takesArgument? option rest
  | c :: rest => if c = option then some false else takesArgument? option rest

namespace State

/-- Leaves what `getopts` has found: the option, and where it goes on. -/
def leaveOption (s : State) (name : Chars) (option : Char) (index place : Nat) : State :=
  let s := (s.setVariable "OPTIND".toList (toString index).toList).assign name [option]
  { s with optionIndex := index, optionPlace := place }

/-- Finds the next option among some arguments. -/
def nextOption (s : State) (options name : Chars) (arguments : List Chars) : State :=
  let index := s.optionIndex
  let argument := "OPTARG".toList
  let silent := options.head? = some ':'
  let current :=
    if s.optionPlace = 0 then [] else (arguments.getD (index - 2) []).drop s.optionPlace
  let found : Option Chars × Nat :=
    if !current.isEmpty then (some current, index)
    else
      match arguments[index - 1]? with
      | some ['-', '-'] => (none, index + 1)
      | some ('-' :: c :: rest) => (some (c :: rest), index + 1)
      | _ => (none, index)
  let s := s.answer true
  match found with
  | (some (option :: rest), index) =>
    let place := (arguments.getD (index - 2) []).length - rest.length
    match takesArgument? option options with
    | none =>
      if silent then (s.setVariable argument [option]).leaveOption name '?' index place
      else
        let s := s.write 2 ("Illegal option -".toList ++ [option, '\n'])
        (s.unset argument).leaveOption name '?' index place
    | some false => (s.setVariable argument []).leaveOption name option index place
    | some true =>
      match rest, arguments[index - 1]? with
      | [], none =>
        if silent then (s.setVariable argument [option]).leaveOption name ':' index 0
        else
          let s := s.write 2 ("No arg for -".toList ++ [option] ++ " option\n".toList)
          (s.unset argument).leaveOption name '?' index 0
      | [], some text => (s.setVariable argument text).leaveOption name option (index + 1) 0
      | text, _ => (s.setVariable argument text).leaveOption name option index 0
  | (_, index) => (s.leaveOption name '?' index 0).answer false

/-- Finds the next option among the arguments given or the positional parameters. -/
def getOption (s : State) : List Chars → State
  | options :: name :: rest =>
    let arguments := if rest.isEmpty then s.positional else rest
    let s := if arguments.length + 1 < s.optionIndex then
        { s with optionIndex := 1, optionPlace := 0 } else s
    s.nextOption options name arguments
  | _ => s.breakOff "Usage: getopts optstring var [arg...]".toList

end State

/-! ### Directories -/

/-- The name of a location. -/
def nameOf (loc : Location) : Chars :=
  ofString ("/" ++ "/".intercalate loc)

/-- Where a name leads if every double dot takes back the component before it. -/
def lexically (base : Location) (name : String) : Location :=
  (Text.split '/' name).foldl (fun loc part =>
    if part = "" || part = "." then loc
    else if part = ".." then loc.dropLast
    else loc ++ [part]) (if Text.startsWith name "/" then [] else base)

namespace State

/-- Changes the directory that the shell is in. A hyphen stands for the last one, whose name is
written, and no argument for the home. -/
def changeDirectory (s : State) (arguments : List Chars) : State :=
  withFlags s "LP" arguments fun _ names =>
    let here := nameOf s.disk.here
    let (target, speaks) : Chars × Bool :=
      match names with
      | [] => ((s.lookup? "HOME".toList).getD [], false)
      | ['-'] :: _ => ((s.lookup? "OLDPWD".toList).getD [], true)
      | name :: _ => (name, false)
    let loc := lexically s.disk.here (toText target)
    if s.disk.node? loc = some .directory then
      let s := { s with disk := { s.disk with here := loc } }
      let s := (s.setVariable "OLDPWD".toList here).exportVariable "OLDPWD".toList
      let s := (s.setVariable "PWD".toList (nameOf loc)).exportVariable "PWD".toList
      if speaks then s.say (nameOf loc ++ ['\n']) else s
    else s.breakOff ("can't cd to ".toList ++ target)

/-- Writes the mask for new files, or changes it. -/
def changeMask (s : State) (arguments : List Chars) : State :=
  withFlags s "S" arguments fun flags rest =>
    match rest with
    | [] =>
      if flags.isEmpty then
        let digits := Nat.toDigits 8 s.mask
        s.say (List.replicate (4 - digits.length) '0' ++ digits ++ ['\n'])
      else
        let allowed (who : String) (place : Nat) : String :=
          let bits := 7 - s.mask / place % 8
          who ++ "=" ++ (if bits / 4 = 1 then "r" else "") ++
            (if bits / 2 % 2 = 1 then "w" else "") ++ (if bits % 2 = 1 then "x" else "")
        s.say (allowed "u" 64 ++ "," ++ allowed "g" 8 ++ "," ++ allowed "o" 1 ++ "\n").toList
    | mode :: _ =>
      if mode.all isOctal then { s with mask := digitsValue 8 mode % 512 }
      else if mode.head?.any Char.isDigit then s.breakOff ("Illegal number: ".toList ++ mode)
      else if mode.all fun c => "ugoarwx=+-,".toList.contains c then
        if mode.any fun c => "=+-".toList.contains c then s
        else s.breakOff ("Illegal mode: ".toList ++ mode)
      else s.breakOff ("Illegal mode: ".toList ++ mode)

end State

/-! ### What commands are -/

/-- Where programs are looked for when nothing else is said. -/
def usualPath : String := "/usr/local/sbin:/usr/local/bin:/usr/sbin:/usr/bin:/sbin:/bin"

namespace State

/-- The names to try for a program or a script. Without a search path, that is the current
directory. -/
def candidates (s : State) (name : Chars) : List String :=
  if name.contains '/' then [toText name]
  else
    let path := toText ((s.lookup? "PATH".toList).getD [])
    (Text.split ':' path).map fun directory => Linker.inDirectory directory (toText name)

/-- The name under which a program is found. -/
def program? (s : State) (name : Chars) : Option String :=
  (s.candidates name).find? s.disk.isExecutable

end State

/-- Says what commands are, or only by which name they are found, and fails for one that is not. -/
def State.describeCommand (s : State) (speaks : Bool) (name : Chars) : State :=
  let text := String.ofList name
  let is (what short : String) : State :=
    s.say (if speaks then name ++ what.toList ++ ['\n'] else short.toList ++ ['\n'])
  if reservedWords.contains text then is " is a shell keyword" text
  else if specialCommands.contains text then is " is a special shell builtin" text
  else if (List.lookup name s.functions).isSome then is " is a shell function" text
  else if regularCommands.contains text then is " is a shell builtin" text
  else
    let found :=
      if name.contains '/' then
        if s.disk.exists? (toText name) then some (toText name) else none
      else s.program? name
    match found with
    | some file => is (" is " ++ String.ofList (ofString file)) (String.ofList (ofString file))
    | none =>
      let s := if speaks then s.say (name ++ ": not found\n".toList) else s
      { s with status := 127 }

/-! ### Signals and jobs -/

/-- The names of signals with their numbers, where the end of the shell has the number zero. -/
def signals : List (Nat × String) :=
  (0, "EXIT") :: (List.range 65).filterMap fun n =>
    (ExitStatus.signalName? n).map fun name => (n, String.ofList (name.toList.drop 3))

/-- The name of a signal that is given by its name or its number. -/
def signal? (text : Chars) : Option String :=
  if !text.isEmpty && text.all Char.isDigit then List.lookup (digitsValue 10 text) signals
  else
    let name := String.ofList (text.map Char.toUpper)
    (signals.find? fun signal => signal.2 = name).map Prod.snd

namespace State

def trap (s : State) (arguments : List Chars) : State :=
  withFlags s "" arguments fun _ arguments =>
    let set (action : Option Chars) (s : State) (name : Chars) : State :=
      match signal? name with
      | some signal =>
        let others := s.traps.filter fun t => t.1 ≠ signal
        { s with traps := match action with
          | some text => (signal, text) :: others
          | none => others }
      | none =>
        { s.write 2 ("trap: ".toList ++ name ++ ": bad trap\n".toList) with status := 1 }
    match arguments with
    | [] =>
      s.say (signals.flatMap fun (_, name) =>
        match List.lookup name s.traps with
        | some action => "trap -- ".toList ++ quote action ++ ' ' :: name.toList ++ ['\n']
        | none => [])
    | [name] => set none s name
    | action :: names =>
      let action := if action = ['-'] then none else some action
      names.foldl (fun s name => if s.status = 0 then set action s name else s) s

/-- Waits for commands in the background, which all have ended: the status is that of the last. -/
def wait (s : State) (arguments : List Chars) : State :=
  withFlags s "" arguments fun _ names =>
    names.foldl (fun s name =>
      let job? : Option (Nat × Nat) :=
        match name with
        | '%' :: _ => if name.drop 1 = ['1'] then s.jobs.getLast? else none
        | _ => (natural? name).bind fun n => s.jobs.find? fun job => job.1 = n
      if s.broken then s
      else
        match job?, name with
        | some job, _ => { s with status := job.2 }
        | none, '%' :: _ => s.breakOff ("No such job: ".toList ++ name)
        | none, _ =>
          if (natural? name).isSome then { s with status := 127 }
          else s.breakOff ("Illegal number: ".toList ++ name)) s

end State

/-! ### All together -/

namespace State

def print (s : State) (arguments : List Chars) : State :=
  withFlags s "" arguments fun _ arguments =>
    match arguments with
    | [] => s.breakOff "usage: printf format [arg ...]".toList
    | format :: rest =>
      let (printed, ending) := printAll format (rest.length + 1) ⟨[], rest, []⟩
      let s := printed.malformed.reverse.foldl
        (fun s (argument, why) => s.complain (argument ++ ": ".toList ++ why.toList) 1) s
      let status := s.status
      let s := s.say printed.text.reverse
      match ending with
      | .mistake text => s.breakOff text
      | _ => if s.status = 0 then { s with status := status } else s

/-- Answers the questions of `test`, or of `[`, which ends in a bracket. -/
def test (s : State) (name : String) (arguments : List Chars) : State :=
  if name = "[" && arguments.getLast? ≠ some [']'] then s.breakOff "missing ]".toList
  else
    let words := if name = "[" then arguments.dropLast else arguments
    match Condition.evaluate s.disk toText (words.length + 1) words with
    | .ok b => s.answer b
    | .error why => s.breakOff why

/-- Leaves loops, or their rounds: no more than there are. -/
def leaveLoops (s : State) (leave : Nat → Flow) (arguments : List Chars) : State × Flow :=
  withNumber s (arguments.headD ['1']) fun n =>
    if n = 0 then (s.breakOff "Illegal number: 0".toList, .onward)
    else if s.loops = 0 then (s, .onward)
    else (s, leave (min n s.loops))

end State

/-- Runs a command of the shell that runs no others, if it is one. A command that fails in earnest
leaves the state broken. -/
def runBuiltin? (s : State) (name : String) (arguments : List Chars) : Option (State × Flow) :=
  let before := s.status
  let s := { s with status := 0 }
  let done (s : State) : Option (State × Flow) := some (s, .onward)
  let leave (flow : Flow) : Option (State × Flow) :=
    match arguments with
    | [] => some ({ s with status := before }, flow)
    | argument :: _ => some (withNumber s argument fun n => ({ s with status := n }, flow))
  match name with
  | ":" | "true" | "alias" | "unalias" => done s
  | "false" => done (s.answer false)
  | "echo" => done (s.say (echoText arguments))
  | "printf" => done (s.print arguments)
  | "test" | "[" => done (s.test name arguments)
  | "export" =>
    done (s.declare name Variable.exported (fun v => { v with exported := true }) arguments)
  | "readonly" =>
    done (s.declare name Variable.fixed (fun v => { v with fixed := true }) arguments)
  | "local" => done (arguments.foldl (fun s a => if s.broken then s else s.makeLocal a) s)
  | "unset" => done (s.unsetAll arguments)
  | "set" => done (s.chooseSettings arguments)
  | "shift" =>
    some (withNumber s (arguments.headD ['1']) fun n =>
      if n ≤ s.positional.length then
        ({ s with positional := s.positional.drop n, optionPlace := 0 }, .onward)
      else (s.breakOff "can't shift that many".toList, .onward))
  | "exit" => leave .leaveShell
  | "return" => leave .leaveFunction
  | "break" => some (s.leaveLoops .leaveLoops arguments)
  | "continue" => some (s.leaveLoops .nextRound arguments)
  | "read" => done (s.readInto arguments)
  | "getopts" => done (s.getOption arguments)
  | "cd" | "chdir" => done (s.changeDirectory arguments)
  | "pwd" => done (withFlags s "LP" arguments fun _ _ => s.say (nameOf s.disk.here ++ ['\n']))
  | "umask" => done (s.changeMask arguments)
  | "type" => done (arguments.foldl (fun s a => s.describeCommand true a) s)
  | "hash" =>
    done (withFlags s "rv" arguments fun _ names =>
      names.foldl (fun s name =>
        if name.contains '/' || (s.program? name).isSome ||
          (specialCommands ++ regularCommands).contains (String.ofList name) then s
        else s.complain (name ++ ": not found".toList) 1) s)
  | "trap" => done (s.trap arguments)
  | "wait" => done (s.wait arguments)
  | "jobs" => done (withFlags s "lp" arguments fun _ _ => s)
  | "times" => done (s.say "0m0.000000s 0m0.000000s\n0m0.000000s 0m0.000000s\n".toList)
  | "bg" | "fg" => done (s.breakOff "No current job".toList)
  | "ulimit" => done (s.say "unlimited\n".toList)
  | _ => none

end LinkRelay.Shell
