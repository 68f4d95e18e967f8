import LinkRelay.Host
import LinkRelay.Shell.Arithmetic
import LinkRelay.Shell.Redirect
import LinkRelay.Shell.Start

namespace LinkRelay.Shell

/-! ### Words -/

/-- The home that the name after a tilde stands for. -/
def State.home? (s : State) (name : Chars) : Option Chars :=
  if name.isEmpty then s.lookup? "HOME".toList
  else if name = "root".toList then some "/root".toList
  else none

/-- What stands between positional parameters that are put together. -/
def State.between (s : State) : Chars := s.separators.take 1

/-- The value of a parameter as pieces. -/
def State.parameterPieces (s : State) (name : Chars) (quoted : Bool) : List Piece :=
  if name = ['@'] || (name = ['*'] && !quoted) then
    [Piece.boundary].intercalate (s.positional.map (valuePieces quoted))
  else valuePieces quoted ((s.parameter? name).getD [])

/-- Breaks off if a parameter has no value and all have to. -/
def State.requireSet (s : State) (name : Chars) : State :=
  if s.has .nounset && (s.parameter? name).isNone && name ≠ ['@'] && name ≠ ['*'] then
    s.breakOff (name ++ ": parameter not set".toList)
  else s

/-- Whether the word of a modifier is used: if the parameter is not set or, with `empty`, empty. -/
def lacks (empty : Bool) (value : Option Chars) : Bool :=
  match value with
  | none => true
  | some v => empty && v.isEmpty

/-- What is wrong with an arithmetic expression. -/
def Arithmetic.Trouble.describe (expression : Chars) : Arithmetic.Trouble → Chars
  | .expecting what =>
    s!"arithmetic expression: expecting {what}: \"".toList ++ expression ++ ['"']
  | .zeroDivisor => "arithmetic expression: division by zero: \"".toList ++ expression ++ ['"']
  | .illegalNumber text => "Illegal number: ".toList ++ text

/-- Whether the first of some words, last one first, is a command that sets variables, so that
assignments among its arguments are expanded as such. -/
def State.declares (s : State) (words : List Chars) : Bool :=
  match words.reverse.dropWhile fun w => w = "command".toList with
  | name :: _ =>
    ["export", "readonly", "local"].contains (String.ofList name) &&
      (List.lookup name s.functions).isNone
  | [] => false

/-- The words of a field, unless names of files are not to be looked for. -/
def State.wordsOf (s : State) (field : List PatternChar) : List Chars :=
  if s.has .noglob then [field.map Prod.fst] else fieldWords s.disk field

/-! ### Control -/

/-- Leaves one loop. -/
def Flow.outOfLoop : Flow → Flow
  | .leaveLoops (n + 2) => .leaveLoops (n + 1)
  | .nextRound (n + 2) => .nextRound (n + 1)
  | .leaveLoops _ | .nextRound _ => .onward
  | flow => flow

/-- Whether a loop goes on after its body. -/
def Flow.staysInLoop : Flow → Bool
  | .onward => true
  | .nextRound n => n ≤ 1
  | _ => false

/-- Ends a shell that is broken, or whose command failed where nothing tests that and the shell is
to end at failures. -/
def settle (tested : Bool) (s : State) (flow : Flow) : State × Flow :=
  if s.broken || (flow = .onward && s.has .errexit && !tested && s.status ≠ 0) then
    (s, .leaveShell)
  else (s, flow)

/-- What becomes of a command of the shell: one that fails in earnest ends the shell only if it is
special. -/
def closeCommand (before : State) (special : Bool) (after : State) (flow : Flow) : State × Flow :=
  let s := { after with speaker := before.speaker }
  if s.broken then if special then (s, .leaveShell) else ({ s with broken := false }, .onward)
  else (s, flow)

/-- Where the lines of a script come from. -/
inductive Origin where
  /-- A text at hand, as for `eval`. -/
  | text
  /-- A file that is read in by another script. -/
  | file
  /-- The file or the input that the shell was started on. -/
  | main
deriving DecidableEq, Repr

/-- Repeats on the errors what was read of a script up to a given rest, or shows prompts for it, if
so asked. -/
def State.showReading (s : State) (origin : Origin) (text rest : Chars) (ended : Bool) : State :=
  if origin = .text || !(s.has .verbose || s.has .interactive) then s
  else
    let consumed := text.take (text.length - rest.length)
    let prompt (name : String) : Chars := (s.lookup? name.toList).getD []
    let s :=
      if origin = .main && s.has .interactive then
        let more := (List.replicate (consumed.count '\n' - 1) (prompt "PS2")).flatten
        s.write 2 (prompt "PS1" ++ more ++ if ended then ['\n'] else [])
      else s
    if s.has .verbose then s.write 2 consumed else s

/-- What follows some lines of a text. -/
def dropLines : Nat → Chars → Chars
  | n + 1, c :: rest => dropLines (if c = '\n' then n else n + 1) rest
  | _, text => text

mutual

def expand : Nat → Word → State → State × List Piece
  | 0, _, s => (s, [])
  | _ + 1, [], s => (s, [])
  | fuel + 1, f :: rest, s =>
    if s.broken then (s, []) else
    let (s, first) := expandFragment fuel f s
    let (s, others) := expand fuel rest s
    (s, first ++ others)
termination_by structural fuel => fuel

def expandFragment : Nat → Fragment → State → State × List Piece
  | 0, _, s => (s, [])
  | _ + 1, .plain text, s => (s, text.map .plain)
  | _ + 1, .quoted text, s => (s, .present :: text.map .literal)
  | _ + 1, .parameter name quoted, s => (s.requireSet name, s.parameterPieces name quoted)
  | fuel + 1, .modified name modifier word quoted, s =>
    expandModified fuel name modifier (expandTildes s.home? false word) quoted s
  | fuel + 1, .output script quoted, s =>
    let (opened, number) := s.parting.addPipe []
    let part := runApart fuel false script (opened.connect 1 (some (.pipe number)))
    let text := (part.unread number).filter (· ≠ '\x00')
    let joined := (s.joining part).dropUnused s
    ({ joined with status := s.status, inner := joined.status },
      valuePieces quoted (text.reverse.dropWhile (· = '\n')).reverse)
  | fuel + 1, .arithmetic expression quoted, s =>
    let (s, pieces) := expand fuel expression s
    let text := joined [' '] pieces
    if s.broken then (s, []) else
    match Arithmetic.evaluate s.lookup? text with
    | .ok (n, changes) =>
      (changes.foldr (fun (name, value) s => s.setVariable name value) s,
        valuePieces quoted (toString n).toList)
    | .error trouble => (s.breakOff (trouble.describe text), [])
  | _ + 1, .malformed, s => (s.breakOff "Bad substitution".toList, [])
termination_by structural fuel => fuel

/-- The pieces of a parameter with a modifier. -/
def expandModified : Nat → Chars → Modifier → Word → Bool → State → State × List Piece
  | 0, _, _, _, _, s => (s, [])
  | fuel + 1, name, modifier, word, quoted, s =>
    let value := s.parameter? name
    let itself : State × List Piece := (s, s.parameterPieces name quoted)
    match modifier with
    | .length => (s.requireSet name, valuePieces quoted (toString (value.getD []).length).toList)
    | .default empty =>
      if lacks empty value then
        let (s, pieces) := expand fuel word s
        (s, pieces.map Piece.asResult)
      else itself
    | .instead empty =>
      if lacks empty value then (s, [])
      else
        let (s, pieces) := expand fuel word s
        (s, pieces.map Piece.asResult)
    | .assign empty =>
      if lacks empty value then
        let (s, pieces) := expand fuel word s
        let text := joined s.between pieces
        if s.broken then (s, []) else (s.assign name text, valuePieces quoted text)
      else itself
    | .require empty =>
      if lacks empty value then
        let (s, pieces) := expand fuel word s
        let why :=
          if !word.isEmpty then joined s.between pieces
          else if empty then "parameter not set or null".toList
          else "parameter not set".toList
        if s.broken then (s, []) else (s.breakOff (name ++ ": ".toList ++ why), [])
      else itself
    | .dropStart longest =>
      let (s, pieces) := expand fuel word (s.requireSet name)
      (s, valuePieces quoted (dropFittingStart longest (pattern pieces) (value.getD [])))
    | .dropEnd longest =>
      let (s, pieces) := expand fuel word (s.requireSet name)
      (s, valuePieces quoted (dropFittingEnd longest (pattern pieces) (value.getD [])))
termination_by structural fuel => fuel

/-- The text of a word that is not split. -/
def expandText : Nat → Bool → Word → State → State × Chars
  | 0, _, _, s => (s, [])
  | fuel + 1, isValue, word, s =>
    let (s, pieces) := expand fuel (expandTildes s.home? isValue word) s
    (s, joined s.between pieces)
termination_by structural fuel => fuel

/-- The words that words stand for, after those found so far, last one first. -/
def expandWords : Nat → List Word → List Chars → State → State × List Chars
  | 0, _, found, s => (s, found.reverse)
  | _ + 1, [], found, s => (s, found.reverse)
  | fuel + 1, word :: rest, found, s =>
    if s.broken then (s, []) else
    match (assignment? word).filter fun _ => s.declares found with
    | some (name, value) =>
      let (s, text) := expandText fuel true value s
      expandWords fuel rest ((name ++ '=' :: text) :: found) s
    | none =>
      let (s, pieces) := expand fuel (expandTildes s.home? false word) s
      let words := (fields s.separators pieces).flatMap s.wordsOf
      expandWords fuel rest (words.reverse ++ found) s
termination_by structural fuel => fuel

def assign : Nat → List (Chars × Word) → State → State × List (Chars × Chars)
  | 0, _, s => (s, [])
  | _ + 1, [], s => (s, [])
  | fuel + 1, (name, word) :: rest, s =>
    if s.broken then (s, []) else
    let (s, value) := expandText fuel true word s
    let (s, others) := assign fuel rest (if s.broken then s else s.setVariable name value)
    (s, (name, value) :: others)
termination_by structural fuel => fuel

/-- What redirections connect to. -/
def expandTargets : Nat → List (Redirection Word) → State → State × List (Redirection Chars)
  | 0, _, s => (s, [])
  | _ + 1, [], s => (s, [])
  | fuel + 1, r :: rest, s =>
    if s.broken then (s, []) else
    let (s, target) :=
      match r.direction with
      | .document number => expandText fuel false ((List.lookup number s.documents).getD []) s
      | _ => expandText fuel false r.target s
    let isNumber := target = ['-'] || (target.length = 1 && target.all Char.isDigit)
    if s.broken then (s, [])
    else if r.direction = .duplicate && !isNumber then
      (s.breakOff "Syntax error: Bad fd number".toList, [])
    else
      let (s, others) := expandTargets fuel rest s
      (s, ⟨r.descriptor, r.direction, target⟩ :: others)
termination_by structural fuel => fuel

/-- Writes a command that is about to run to what the errors went to before it, if so asked. -/
def trace : Nat → Option Channel → List (Chars × Chars) → List Chars → State → State
  | 0, _, _, _, s => s
  | fuel + 1, channel, assignments, words, s =>
    if !s.has .xtrace || (assignments.isEmpty && words.isEmpty) then s
    else
      let mark := (s.lookup? "PS4".toList).getD []
      let source := Source.ofText mark s.asked
      let word : Word :=
        match (readFragments .ending true source.depth 0).run source with
        | .ok (word, _) => word
        | .error _ => [.quoted mark]
      let (s, pieces) := expand fuel word s
      let shown := assignments.map fun (name, value) => name ++ '=' :: value
      s.send channel (joined [' '] pieces ++ [' '].intercalate (shown ++ words) ++ ['\n'])
termination_by structural fuel => fuel

/-- Runs a command by its name: a function, a command of the shell, or a program. What is not
`direct` is neither a function nor special. -/
def call : Nat → Bool → Bool → List Chars → State → State × Flow
  | 0, _, _, _, s => (s, .leaveShell)
  | _ + 1, _, _, [], s => (s, .onward)
  | fuel + 1, tested, direct, name :: arguments, s =>
    let text := String.ofList name
    let special := direct && specialCommands.contains text
    match if direct && !special then List.lookup name s.functions else none with
    | some body => callFunction fuel tested body arguments s
    | none =>
      let speaking := { s with speaker := some name }
      match text with
      | "command" =>
        match takeFlags "pvV".toList arguments with
        | .error _ =>
          let failed := withFlags speaking "pvV" arguments fun _ _ => s
          closeCommand s special failed .onward
        | .ok (flags, rest) =>
          if flags.contains 'v' || flags.contains 'V' then
            let described := (rest.take 1).foldl (State.describeCommand · (flags.contains 'V'))
              { speaking with status := 0 }
            closeCommand s special described .onward
          else if rest.isEmpty then ({ s with status := 0 }, .onward)
          else call fuel tested false rest s
      | "eval" =>
        let script := [' '].intercalate arguments
        let (after, flow) := runScript fuel tested .text script speaking
        closeCommand s special after flow
      | "." =>
        let (after, flow) := runFile fuel arguments speaking
        closeCommand s special after flow
      | "exec" =>
        match takeFlags [] arguments with
        | .error c =>
          closeCommand s special (speaking.breakOff ("Illegal option -".toList ++ [c])) .onward
        | .ok (_, []) => ({ s with status := 0 }, .onward)
        | .ok (_, name :: rest) =>
          match s.program? name with
          | none => (speaking.lackProgram name, .leaveShell)
          | some file => ({ execute fuel file name rest s with traps := [] }, .leaveShell)
      | _ =>
        match runBuiltin? speaking text arguments with
        | some (after, flow) => closeCommand s special after flow
        | none =>
          match s.program? name with
          | none => (s.lackProgram name, .onward)
          | some file => (execute fuel file name arguments s, .onward)
termination_by structural fuel => fuel

def callFunction : Nat → Bool → Command → List Chars → State → State × Flow
  | 0, _, _, _, s => (s, .leaveShell)
  | fuel + 1, tested, body, arguments, s =>
    let (after, flow) := run fuel tested body { s with
      positional := arguments, locals := some [], loops := 0, optionIndex := 1, optionPlace := 0 }
    let bindings := (after.locals.getD []).foldl
      (fun vars (name, outer) => vars.restore name outer) after.bindings
    ({ after with
        bindings := bindings, positional := s.positional, locals := s.locals, loops := s.loops,
        optionIndex := s.optionIndex, optionPlace := s.optionPlace },
      if flow = .leaveShell then .leaveShell else .onward)
termination_by structural fuel => fuel

/-- Runs the lines of a file that another script reads in. -/
def runFile : Nat → List Chars → State → State × Flow
  | 0, _, s => (s, .leaveShell)
  | fuel + 1, arguments, s =>
    match takeFlags [] arguments with
    | .error c => (s.breakOff ("Illegal option -".toList ++ [c]), .onward)
    | .ok (_, []) => ({ s with status := 0 }, .onward)
    | .ok (_, name :: _) =>
      let isFile (file : String) : Bool := (s.disk.stat file).toOption matches some (.file _ _)
      let file? :=
        if name.contains '/' then some (toText name) else (s.candidates name).find? isFile
      match file? with
      | none => (s.breakOff (name ++ ": not found".toList), .onward)
      | some file =>
        match s.disk.read file with
        | .ok bytes =>
          let s := { s with speaker := some (ofString file) }
          match runScript fuel false .file (ofBytes bytes) s with
          | (s, .leaveFunction) => (s, .onward)
          | other => other
        | .error .isDirectory => ({ s with status := 0 }, .onward)
        | .error _ =>
          (s.breakOff ("cannot open ".toList ++ name ++ ": No such file".toList), .onward)
termination_by structural fuel => fuel

/-- Runs a program to its end. -/
def execute : Nat → String → Chars → List Chars → State → State
  | 0, _, _, _, s => s
  | fuel + 1, file, name, arguments, s =>
    let runAnother (program : Chars) (arguments : List Chars) : State :=
      let other := runShell fuel program arguments s.another
      (s.joining other).dropUnused s
    match s.disk.read file with
    | .error _ => s.lackProgram name
    | .ok bytes =>
      let base := baseName file
      if bytes.isEmpty && base = "sh" then runAnother name arguments
      else if bytes.isEmpty && base = "env" then
        match amend s.bindings.environment arguments with
        | (environment, []) => { s with status := 0 }.listEnvironment environment
        | (environment, program :: rest) =>
          let amended := s.within environment
          match amended.program? program with
          | none =>
            let why := ": No such file or directory".toList
            { s.lament "env" (nameShown true program ++ why) with status := 127 }
          | some file =>
            { execute fuel file program rest amended with bindings := s.bindings }
      else
        match if bytes.isEmpty then runUtility? s base arguments else none with
        | some s => s
        | none =>
          let arguments := ofString file :: arguments
          match interpreter? (ofBytes bytes) with
          | none => runAnother "/bin/sh".toList arguments
          | some (program, argument) =>
            if s.disk.isExecutable (toText program) then
              execute fuel (toText program) program (argument ++ arguments) s
            else s.complain (name ++ ": not found".toList) 127
termination_by structural fuel => fuel

/-- Runs a shell by the arguments after its name, to its end. -/
def runShell : Nat → Chars → List Chars → State → State
  | 0, _, _, s => s
  | fuel + 1, program, arguments, s =>
    let choices := Choices.ofArguments true [] arguments
    let s := { s with name := program }.write 1 choices.listed
    let begin (name : Chars) (positional : List Chars) (settings : List Setting) : State :=
      let controls := settings.contains .interactive && !choices.off.contains .monitor
      let settings := if controls then .monitor :: settings else settings
      { { s with name := name, positional := positional, settings := settings }.withoutJobs with
        line := 1 }
    match choices.mistake, choices.rest with
    | some mistake, _ => s.complain mistake 2
    | none, rest =>
      if choices.commanded then
        match rest with
        | [] => s.complain "-c requires an argument".toList 2
        | script :: rest =>
          let s := begin (rest.headD program) (rest.drop 1) choices.on
          finish fuel (runScript fuel false .text script s).1
      else
        match rest, choices.on.contains .stdin with
        | name :: positional, false =>
          let s := begin name positional choices.on
          match s.disk.read (toText name) with
          | .ok bytes => finish fuel (runScript fuel false .main (ofBytes bytes) s).1
          | .error .isDirectory => finish fuel (runScript fuel false .main [] s).1
          | .error why =>
            let reason := if why = .nameTooLong then whyRefused why else "No such file"
            { s with line := 0, name := program }.complain
              ("cannot open ".toList ++ name ++ s!": {reason}".toList) 2
        | positional, _ =>
          let s := begin program positional (.stdin :: choices.on.filter (· ≠ .stdin))
          finish fuel (runScript fuel false .main (s.input 0) (s.setInput 0 [])).1
termination_by structural fuel => fuel

/-- Runs what is to be run at the end of a shell, which keeps its status unless told otherwise. -/
def finish : Nat → State → State
  | 0, s => s
  | fuel + 1, s =>
    match List.lookup "EXIT" s.traps with
    | none => s
    | some action =>
      let others := s.traps.filter fun t => t.1 ≠ "EXIT"
      let (after, flow) := runScript fuel false .text action
        { s with traps := others, broken := false, speaker := none }
      if flow = .leaveShell then after else { after with status := s.status }
termination_by structural fuel => fuel

/-- Runs a command in a part of the shell, to the end of that part. -/
def runApart : Nat → Bool → Command → State → State
  | 0, _, _, s => s
  | fuel + 1, tested, command, s => finish fuel (run fuel tested command s).1
termination_by structural fuel => fuel

/-- Runs a command. With `tested` its failure decides something and does not end a shell. -/
def run : Nat → Bool → Command → State → State × Flow
  | 0, _, _, s => ({ s with status := 2 }, .leaveShell)
  | _ + 1, _, .skip, s => (s, .onward)
  | fuel + 1, tested, .simple line assignments words redirections, s =>
    runSimple fuel tested assignments words redirections { s with line := line, inner := 0 }
  | fuel + 1, tested, .sequence first second, s =>
    match run fuel tested first s with
    | (s, .onward) => if s.has .noexec then (s, .onward) else run fuel tested second s
    | other => other
  | fuel + 1, tested, .both first second, s =>
    match run fuel true first s with
    | (s, .onward) => if s.status = 0 then run fuel tested second s else (s, .onward)
    | other => other
  | fuel + 1, tested, .either first second, s =>
    match run fuel true first s with
    | (s, .onward) => if s.status = 0 then (s, .onward) else run fuel tested second s
    | other => other
  | fuel + 1, _, .negate command, s =>
    match run fuel true command s with
    | (s, .onward) => (s.answer (s.status ≠ 0), .onward)
    | other => other
  | fuel + 1, tested, .pipe first second, s =>
    let (opened, number) := s.addPipe []
    let writer := runApart fuel tested first (opened.parting.connect 1 (some (.pipe number)))
    let written := opened.joining writer
    let reader := runApart fuel tested second (written.parting.connect 0 (some (.pipe number)))
    settle tested ((written.joining reader).dropUnused s) .onward
  | fuel + 1, tested, .background command, s =>
    let part := runApart fuel tested command (s.parting.connect 0 (some .sink))
    let joined := (s.joining part).dropUnused s
    let job := (processNumber + 1 + s.jobs.length, joined.status)
    ({ joined with status := 0, jobs := job :: s.jobs }, .onward)
  | fuel + 1, tested, .branch condition yes no, s =>
    match run fuel true condition s with
    | (s, .onward) =>
      if s.status = 0 then run fuel tested yes s
      else run fuel tested no (if no matches .skip then { s with status := 0 } else s)
    | other => other
  | fuel + 1, tested, .loop negated condition body, s =>
    let inside := { s with loops := s.loops + 1 }
    let (after, flow) := runLoop fuel negated tested condition body 0 inside
    ({ after with loops := s.loops }, flow)
  | fuel + 1, tested, .each line name words body, s =>
    let (s, values) : State × List Chars :=
      match words with
      | some words => expandWords fuel words [] { s with line := line }
      | none => ({ s with line := line }, s.positional)
    if s.broken then (s, .leaveShell)
    else
      let (after, flow) := runEach fuel tested name body values
        { s with status := if values.isEmpty then 0 else s.status, loops := s.loops + 1 }
      ({ after with loops := s.loops }, flow)
  | fuel + 1, tested, .choose line subject arms, s =>
    let (s, text) := expandText fuel false subject { s with line := line }
    if s.broken then (s, .leaveShell) else runArms fuel tested text arms s
  | fuel + 1, tested, .group line body redirections, s =>
    let (s, targets) := expandTargets fuel redirections { s with line := line }
    if s.broken then (s, .leaveShell) else
    match s.redirectAll targets with
    | .error failed => settle tested (failed.disconnect s targets) .onward
    | .ok inner =>
      let (after, flow) := run fuel tested body inner
      (after.disconnect s targets, flow)
  | fuel + 1, tested, .subshell line body redirections, s =>
    let (s, targets) := expandTargets fuel redirections { s with line := line }
    if s.broken then (s, .leaveShell) else
    let part :=
      match s.parting.redirectAll targets with
      | .error failed => failed
      | .ok inner => runApart fuel tested body inner
    settle tested ((s.joining part).dropUnused s) .onward
  | _ + 1, _, .define name body, s =>
    let others := s.functions.filter fun f => f.1 ≠ name
    ({ s with functions := (name, body) :: others, status := 0 }, .onward)
termination_by structural fuel => fuel

/-- Runs a simple command: its words are expanded first, then its redirections, then its
assignments, which last only if no command or a special one is run. -/
def runSimple : Nat → Bool → List (Chars × Word) → List Word → List (Redirection Word) → State →
    State × Flow
  | 0, _, _, _, _, s => ({ s with status := 2 }, .leaveShell)
  | fuel + 1, tested, assignments, words, redirections, s =>
    let (s, words) := expandWords fuel words [] s
    if s.broken then (s, .leaveShell) else
    let (s, targets) := expandTargets fuel redirections s
    if s.broken then (s, .leaveShell) else
    let text := String.ofList (words.headD [])
    let special := specialCommands.contains text
    match s.redirectAll targets with
    | .error failed =>
      settle tested { failed.disconnect s targets with broken := special } .onward
    | .ok inner =>
      let (set, values) := assign fuel assignments inner
      let set := trace fuel (s.channel? 2) values words set
      if set.broken then (set.disconnect s targets, .leaveShell)
      else if words.isEmpty then
        settle tested ({ set with status := set.inner }.disconnect s targets) .onward
      else
        let names := values.map Prod.fst
        let lasts := special && text ≠ "exec"
        let set := if lasts then set else names.foldl State.exportVariable set
        let (after, flow) := call fuel tested true words set
        let restored := names.foldl
          (fun vars name => vars.restore name (inner.bindings.find? name)) after.bindings
        let after := if special then after else { after with bindings := restored }
        let plain := words.dropWhile fun w => w = "command".toList
        let keeps := plain.head? = some "exec".toList
        settle tested (if keeps then after else after.disconnect s targets) flow
termination_by structural fuel => fuel

/-- Runs a loop whose last body ended with the given status. -/
def runLoop : Nat → Bool → Bool → Command → Command → Nat → State → State × Flow
  | 0, _, _, _, _, _, s => ({ s with status := 2 }, .leaveShell)
  | fuel + 1, negated, tested, condition, body, last, s =>
    match run fuel true condition s with
    | (s, .onward) =>
      if (s.status = 0) = !negated then
        let (s, flow) := run fuel tested body s
        if flow.staysInLoop then runLoop fuel negated tested condition body s.status s
        else (s, flow.outOfLoop)
      else ({ s with status := last }, .onward)
    | (s, flow) =>
      if flow.staysInLoop then runLoop fuel negated tested condition body last s
      else (s, flow.outOfLoop)
termination_by structural fuel => fuel

def runEach : Nat → Bool → Chars → Command → List Chars → State → State × Flow
  | 0, _, _, _, _, s => ({ s with status := 2 }, .leaveShell)
  | _ + 1, _, _, _, [], s => (s, .onward)
  | fuel + 1, tested, name, body, value :: rest, s =>
    let set := s.setVariable name value
    if set.broken then (set, .leaveShell) else
    let (s, flow) := run fuel tested body set
    if flow.staysInLoop then runEach fuel tested name body rest s else (s, flow.outOfLoop)
termination_by structural fuel => fuel

/-- Runs the first arm with a pattern that a text fits. -/
def runArms : Nat → Bool → Chars → List (List Word × Command) → State → State × Flow
  | 0, _, _, _, s => ({ s with status := 2 }, .leaveShell)
  | _ + 1, _, _, [], s => ({ s with status := 0 }, .onward)
  | fuel + 1, tested, text, (patterns, body) :: rest, s =>
    let (s, found) := fitsAny fuel text patterns s
    if s.broken then (s, .leaveShell)
    else if found then
      run fuel tested body (if body matches .skip then { s with status := 0 } else s)
    else runArms fuel tested text rest s
termination_by structural fuel => fuel

/-- Whether a text fits one of some patterns. -/
def fitsAny : Nat → Chars → List Word → State → State × Bool
  | 0, _, _, s => (s, false)
  | _ + 1, _, [], s => (s, false)
  | fuel + 1, text, word :: rest, s =>
    let (s, pieces) := expand fuel (expandTildes s.home? false word) s
    if s.broken then (s, false)
    else if fitsPattern (pattern pieces) text then (s, true)
    else fitsAny fuel text rest s
termination_by structural fuel => fuel

def runScript : Nat → Bool → Origin → Chars → State → State × Flow
  | 0, _, _, _, s => ({ s with status := 2 }, .leaveShell)
  | fuel + 1, tested, origin, text, s =>
    runLines fuel tested origin (Source.ofText text s.asked) false s
termination_by structural fuel => fuel

/-- Runs what is left of a script line by line. A mistake in a line ends the shell. A script that
runs no command, as `ran` tells so far, succeeds. -/
def runLines : Nat → Bool → Origin → Source → Bool → State → State × Flow
  | 0, _, _, _, _, s => ({ s with status := 2 }, .leaveShell)
  | fuel + 1, tested, origin, source, ran, s =>
    match readLine.run { source with asked := s.asked, documents := [] } with
    | .error mistake =>
      let left := dropLines (mistake.line + 1 - source.line) source.text
      let s := s.showReading origin source.text left false
      ({ s with line := mistake.line }.breakOff mistake.text.toList, .leaveShell)
    | .ok (command?, rest) =>
      let s := s.showReading origin source.text rest.text command?.isNone
      let s := { s with asked := rest.asked, documents := rest.documents ++ s.documents }
      match command? with
      | none => (if ran then s else { s with status := 0 }, .onward)
      | some command =>
        if s.has .noexec then runLines fuel tested origin rest ran s
        else
          match run fuel tested command s with
          | (s, .onward) => runLines fuel tested origin rest (ran || !(command matches .skip)) s
          | other => other
termination_by structural fuel => fuel

end

/-- As many steps as a script may take in depth. -/
def depthLimit : Nat := 1000000

/-- Runs commands whose program is the shell. Other programs are not there. What a link does is said
of any runner; this one lets the program run where no system can be asked to start a process, on
scripts that stand in for a linker. -/
def runner (environment : Environment) : Runner := fun command directory disk =>
  let missing (name : String) : Disk × Except Fault Finished :=
    (disk, .error (Refusal.missing.fault name))
  let holdsZero (text : String) : Bool := text.toList.contains (Char.ofNat 0)
  match command with
  | [] => (disk, .error (.internal "no command"))
  | program :: arguments =>
    if command.any holdsZero then (disk, .error (Refusal.holdsZero.fault program)) else
    let place := directory.getD "."
    match disk.walk place, disk.stat place with
    | .ok loc, .ok .directory =>
      if program = "/bin/sh" then
        let bindings := environment.map fun (name, value) => (ofString name, ofString value)
        let pipes := [(outputPipe, ⟨[], []⟩), (errorPipe, ⟨[], []⟩)]
        let descriptors := [(0, .sink), (1, .pipe outputPipe), (2, .pipe errorPipe)]
        let s := runShell depthLimit (ofString program) (arguments.map ofString)
          (State.start bindings { disk with here := loc } descriptors pipes 0)
        let status : Int := (s.status % 256 : Nat)
        ({ s.disk with here := disk.here },
          .ok ⟨status, toBytes (s.unread outputPipe), toBytes (s.unread errorPipe)⟩)
      else missing program
    | .error why, _ | _, .error why => (disk, .error (why.fault place))
    | _, _ => (disk, .error (Refusal.notDirectory.fault place))

end LinkRelay.Shell
