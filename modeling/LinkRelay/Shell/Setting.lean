import LinkRelay.Shell.Command

namespace LinkRelay.Shell

inductive Setting where
  | errexit
  | noglob
  | ignoreeof
  | interactive
  | monitor
  | noexec
  | stdin
  | xtrace
  | verbose
  | vi
  | emacs
  | noclobber
  | allexport
  | notify
  | nounset
  | privileged
  | nolog
  | debug
deriving DecidableEq, Repr

namespace Setting

/-- All settings in the order in which they are listed. -/
def all : List Setting :=
  [errexit, noglob, ignoreeof, interactive, monitor, noexec, stdin, xtrace, verbose, vi, emacs,
    noclobber, allexport, notify, nounset, privileged, nolog, debug]

def name : Setting → String
  | errexit => "errexit"
  | noglob => "noglob"
  | ignoreeof => "ignoreeof"
  | interactive => "interactive"
  | monitor => "monitor"
  | noexec => "noexec"
  | stdin => "stdin"
  | xtrace => "xtrace"
  | verbose => "verbose"
  | vi => "vi"
  | emacs => "emacs"
  | noclobber => "noclobber"
  | allexport => "allexport"
  | notify => "notify"
  | nounset => "nounset"
  | privileged => "privileged"
  | nolog => "nolog"
  | debug => "debug"

/-- The letter of a setting; two have none. -/
def letter? : Setting → Option Char
  | errexit => some 'e'
  | noglob => some 'f'
  | ignoreeof => some 'I'
  | interactive => some 'i'
  | monitor => some 'm'
  | noexec => some 'n'
  | stdin => some 's'
  | xtrace => some 'x'
  | verbose => some 'v'
  | vi => some 'V'
  | emacs => some 'E'
  | noclobber => some 'C'
  | allexport => some 'a'
  | notify => some 'b'
  | nounset => some 'u'
  | privileged => some 'p'
  | nolog | debug => none

def ofLetter? (c : Char) : Option Setting :=
  all.find? fun s => s.letter? = some c

def ofName? (text : Chars) : Option Setting :=
  all.find? fun s => s.name.toList = text

/-- The letters of the settings that are on, last one listed first. -/
def letters (on : List Setting) : Chars :=
  (all.reverse.filter on.contains).filterMap letter?

/-- The list of all settings, in words or as commands that bring it about. -/
def listing (asCommands : Bool) (isOn : Setting → Bool) : Chars :=
  let sign (s : Setting) : String := if isOn s then "-o " else "+o "
  let state (s : Setting) : String := if isOn s then "on" else "off"
  let line (s : Setting) : String :=
    if asCommands then "set " ++ sign s ++ s.name ++ "\n"
    else s.name.pushn ' ' (16 - s.name.length) ++ state s ++ "\n"
  ((if asCommands then "" else "Current option settings\n") ++ String.join (all.map line)).toList

end Setting

/-- What the arguments of a shell, or of `set`, have said so far: `-` turns a setting on and `+`
off, by letters or, after the letter `o`, by a name. -/
structure Choices where
  on : List Setting
  /-- The settings that were turned off in so many words. -/
  off : List Setting
  /-- Whether the script itself is an argument. -/
  commanded : Bool
  /-- The arguments not looked at yet. -/
  rest : List Chars
  /-- Lists of settings that were asked for. -/
  listed : Chars
  mistake : Option Chars

namespace Choices

def start (on : List Setting) (arguments : List Chars) : Choices :=
  ⟨on, [], false, arguments, [], none⟩

/-- Turns a setting on or off. There is one style of editing at most. -/
def choose (c : Choices) (turnOn : Bool) (s : Setting) : Choices :=
  if turnOn then
    let other : Option Setting :=
      if s = .vi then some .emacs else if s = .emacs then some .vi else none
    { c with
      on := s :: c.on.filter fun t => t ≠ s && some t ≠ other
      off := c.off.filter (· ≠ s) }
  else { c with on := c.on.filter (· ≠ s), off := s :: c.off }

/-- Turns the setting on or off that the next argument names, or lists all settings if there is no
further argument. A shell that starts lists as on whatever was not turned off. -/
def chooseByName (c : Choices) (starting turnOn : Bool) : Choices :=
  match c.rest with
  | [] =>
    let isOn (s : Setting) : Bool := if starting then !c.off.contains s else c.on.contains s
    { c with listed := c.listed ++ Setting.listing (!turnOn) isOn }
  | name :: rest =>
    match Setting.ofName? name with
    | some s => { c with rest := rest }.choose turnOn s
    | none => { c with mistake := some ("Illegal option -o ".toList ++ name) }

/-- Reads letters after a sign. -/
def readLetters (starting turnOn : Bool) : Chars → Choices → Choices
  | [], c => c
  | letter :: letters, c =>
    if c.mistake.isSome then c
    else if letter = 'c' && starting then
      readLetters starting turnOn letters { c with commanded := true }
    else if letter = 'l' && starting then readLetters starting turnOn letters c
    else if letter = 'o' then readLetters starting turnOn letters (c.chooseByName starting turnOn)
    else
      match Setting.ofLetter? letter with
      | some s => readLetters starting turnOn letters (c.choose turnOn s)
      | none => { c with mistake := some ("Illegal option -".toList ++ [letter]) }

/-- Reads arguments up to the first one without a sign, or one that ends them. To `set`, a lone
hyphen also ends traces of what is read and run. -/
def read (starting : Bool) : Nat → Choices → Choices
  | 0, c => c
  | n + 1, c =>
    if c.mistake.isSome then c
    else
      match c.rest with
      | ['-', '-'] :: rest => { c with rest := rest }
      | ['-'] :: rest =>
        if starting then { c with rest := rest }
        else (({ c with rest := rest }).choose false .xtrace).choose false .verbose
      | ('-' :: letters) :: rest =>
        read starting n (readLetters starting true letters { c with rest := rest })
      | ('+' :: letters) :: rest =>
        read starting n (readLetters starting false letters { c with rest := rest })
      | _ => c

/-- What some arguments say, where some settings are on already. -/
def ofArguments (starting : Bool) (on : List Setting) (arguments : List Chars) : Choices :=
  read starting (arguments.length + 1) (start on arguments)

end Choices

end LinkRelay.Shell
