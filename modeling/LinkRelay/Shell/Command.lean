namespace LinkRelay.Shell

/-- Bytes, each as the character with its number. -/
abbrev Chars := List Char

/-- What `${name…word}` does with a parameter. With `empty`, an empty value counts as none. -/
inductive Modifier where
  /-- The word in place of a missing value. -/
  | default (empty : Bool)
  /-- As `default`, and the parameter is set to the word. -/
  | assign (empty : Bool)
  /-- The word in place of a value that is there. -/
  | instead (empty : Bool)
  /-- The shell ends if the value is missing, with the word as its complaint. -/
  | require (empty : Bool)
  /-- The value without the shortest or longest matching start. -/
  | dropStart (longest : Bool)
  /-- The value without the shortest or longest matching end. -/
  | dropEnd (longest : Bool)
  | length
deriving DecidableEq, Repr

/-- What a redirection connects a descriptor to: mostly what the word after it names. -/
inductive Direction where
  | input
  | both
  | truncate
  /-- As `truncate`, also where files are protected from that. -/
  | clobber
  | append
  | duplicate
  /-- The text of a document that follows in the script, by its number. -/
  | document (number : Nat)
deriving DecidableEq, Repr

structure Redirection (ω : Type) where
  descriptor : Nat
  direction : Direction
  target : ω

mutual

/-- A part of a word. What is quoted is never split and holds no wildcards. -/
inductive Fragment where
  | plain (text : Chars)
  | quoted (text : Chars)
  | parameter (name : Chars) (quoted : Bool)
  | modified (name : Chars) (modifier : Modifier) (word : List Fragment) (quoted : Bool)
  | output (script : Command) (quoted : Bool)
  | arithmetic (expression : List Fragment) (quoted : Bool)
  /-- Braces that hold nothing known. -/
  | malformed

/-- A command. Numbers of lines are those that complaints name. -/
inductive Command where
  | skip
  | simple (line : Nat) (assignments : List (Chars × List Fragment)) (words : List (List Fragment))
      (redirections : List (Redirection (List Fragment)))
  | sequence (first second : Command)
  | both (first second : Command)
  | either (first second : Command)
  | negate (command : Command)
  | pipe (first second : Command)
  | background (command : Command)
  | branch (condition yes no : Command)
  /-- Repeats the body while the condition succeeds, or, if `negated`, while it fails. -/
  | loop (negated : Bool) (condition body : Command)
  /-- Runs the body for each word, or for each positional parameter. -/
  | each (line : Nat) (name : Chars) (words : Option (List (List Fragment))) (body : Command)
  | choose (line : Nat) (subject : List Fragment) (arms : List (List (List Fragment) × Command))
  | group (line : Nat) (body : Command) (redirections : List (Redirection (List Fragment)))
  | subshell (line : Nat) (body : Command) (redirections : List (Redirection (List Fragment)))
  | define (name : Chars) (body : Command)

end

abbrev Word := List Fragment

end LinkRelay.Shell
