import LinkRelay.Shell.Number
import LinkRelay.Shell.Source

namespace LinkRelay.Shell.Arithmetic

inductive Lexeme where
  | number (n : Int)
  | name (text : Chars)
  | operator (text : String)
  | unknown
deriving DecidableEq, Repr

/-- The operators, longer ones before their own beginnings. -/
def operators : List String :=
  ["<<=", ">>=", "<<", ">>", "<=", ">=", "==", "!=", "&&", "||", "+=", "-=", "*=", "/=", "%=", "&=",
    "|=", "^=", "+", "-", "*", "/", "%", "<", ">", "!", "~", "&", "|", "^", "?", ":", "=", "(", ")"]

/-- The lexemes of a text. What comes after an unknown character is not looked at. -/
def lexemes : Nat → Chars → List Lexeme
  | 0, _ => []
  | _ + 1, [] => []
  | fuel + 1, c :: rest =>
    if c = ' ' || c = '\t' || c = '\n' then lexemes fuel rest
    else if isNameStart c then
      .name (c :: rest.takeWhile isNameChar) :: lexemes fuel (rest.dropWhile isNameChar)
    else
      match takeLiteral (c :: rest) with
      | some (n, rest) => .number (clamp n) :: lexemes fuel rest
      | none =>
        match operators.find? fun o => o.toList.isPrefixOf (c :: rest) with
        | some o => .operator o :: lexemes fuel ((c :: rest).drop o.length)
        | none => [.unknown]

inductive Trouble where
  /-- Something else should come next. -/
  | expecting (what : String)
  | zeroDivisor
  /-- A variable has a value that spells no number. -/
  | illegalNumber (text : Chars)
deriving DecidableEq, Repr

/-- The values of variables, those set by the expression first. -/
structure Variables where
  changed : List (Chars × Chars)
  outside : Chars → Option Chars

/-- The value of a variable; one that is not set is zero. -/
def Variables.value (vars : Variables) (name : Chars) : Except Trouble Int :=
  match (List.lookup name vars.changed).or (vars.outside name) with
  | none => .ok 0
  | some text =>
    match wholeNumber? takeLiteral text with
    | some n => .ok n
    | none => .error (.illegalNumber text)

def Variables.set (vars : Variables) (name : Chars) (value : Int) : Variables :=
  { vars with changed := (name, (toString value).toList) :: vars.changed }

/-- The value of an expression, the lexemes after it, and the variables it leaves. -/
abbrev Result := Except Trouble (Int × List Lexeme × Variables)

/-- How strongly an operator between two operands binds. -/
def strength : String → Option Nat
  | "|" => some 3
  | "^" => some 4
  | "&" => some 5
  | "==" | "!=" => some 6
  | "<" | "<=" | ">" | ">=" => some 7
  | "<<" | ">>" => some 8
  | "+" | "-" => some 9
  | "*" | "/" | "%" => some 10
  | _ => none

/-- The operator that an assignment applies before it assigns, if it is one such as `+=`. -/
def assigning? (operator : String) : Option String :=
  let plain := String.ofList operator.toList.dropLast
  if operator.toList.getLast? = some '=' && (strength operator).isNone && (strength plain).isSome
  then some plain
  else none

private def truth (b : Bool) : Int := if b then 1 else 0

/-- Bits of numbers in 64 bits. -/
def bitwise (op : Nat → Nat → Nat) (a b : Int) : Int :=
  wrap (op (a % wordCount).toNat (b % wordCount).toNat)

/-- What an operator makes of two values. -/
def apply (operator : String) (a b : Int) : Except Trouble Int :=
  match operator with
  | "|" => .ok (bitwise Nat.lor a b)
  | "^" => .ok (bitwise Nat.xor a b)
  | "&" => .ok (bitwise Nat.land a b)
  | "==" => .ok (truth (a = b))
  | "!=" => .ok (truth (a ≠ b))
  | "<" => .ok (truth (a < b))
  | "<=" => .ok (truth (a ≤ b))
  | ">" => .ok (truth (a > b))
  | ">=" => .ok (truth (a ≥ b))
  | "<<" => .ok (wrap (a * Nat.pow 2 (b % 64).toNat))
  | ">>" => .ok (a.fdiv (Nat.pow 2 (b % 64).toNat))
  | "+" => .ok (wrap (a + b))
  | "-" => .ok (wrap (a - b))
  | "*" => .ok (wrap (a * b))
  | "/" => if b = 0 then .error .zeroDivisor else .ok (wrap (a.tdiv b))
  | "%" => if b = 0 then .error .zeroDivisor else .ok (a.tmod b)
  | _ => .error (.expecting "primary")

mutual

/-- An assignment, or something simpler. -/
def expression : Nat → Bool → Variables → List Lexeme → Result
  | 0, _, _, _ => .error (.expecting "primary")
  | fuel + 1, live, vars, .name x :: .operator op :: rest => do
    if op = "=" then
      let (v, rest, vars) ← expression fuel live vars rest
      return (v, rest, if live then vars.set x v else vars)
    else
      match assigning? op with
      | some plain =>
        let (v, rest, vars) ← expression fuel live vars rest
        if live then
          let v ← apply plain (← vars.value x) v
          return (v, rest, vars.set x v)
        else return (v, rest, vars)
      | none => conditional fuel live vars (.name x :: .operator op :: rest)
  | fuel + 1, live, vars, rest => conditional fuel live vars rest

/-- A choice between two values, or something simpler. -/
def conditional : Nat → Bool → Variables → List Lexeme → Result
  | 0, _, _, _ => .error (.expecting "primary")
  | fuel + 1, live, vars, rest => do
    let (c, rest, vars) ← disjunction fuel live vars rest
    match rest with
    | .operator "?" :: rest =>
      let (a, rest, vars) ← expression fuel (live && c ≠ 0) vars rest
      match rest with
      | .operator ":" :: rest =>
        let (b, rest, vars) ← conditional fuel (live && c = 0) vars rest
        return (if c ≠ 0 then a else b, rest, vars)
      | _ => throw (.expecting "':'")
    | rest => return (c, rest, vars)

def disjunction : Nat → Bool → Variables → List Lexeme → Result
  | 0, _, _, _ => .error (.expecting "primary")
  | fuel + 1, live, vars, rest => do
    let (a, rest, vars) ← conjunction fuel live vars rest
    match rest with
    | .operator "||" :: rest =>
      let (b, rest, vars) ← disjunction fuel (live && a = 0) vars rest
      return (truth (a ≠ 0 || b ≠ 0), rest, vars)
    | rest => return (a, rest, vars)

def conjunction : Nat → Bool → Variables → List Lexeme → Result
  | 0, _, _, _ => .error (.expecting "primary")
  | fuel + 1, live, vars, rest => do
    let (a, rest, vars) ← binary fuel live 0 vars rest
    match rest with
    | .operator "&&" :: rest =>
      let (b, rest, vars) ← conjunction fuel (live && a ≠ 0) vars rest
      return (truth (a ≠ 0 && b ≠ 0), rest, vars)
    | rest => return (a, rest, vars)

/-- Operators that bind at least as strongly as given. -/
def binary : Nat → Bool → Nat → Variables → List Lexeme → Result
  | 0, _, _, _, _ => .error (.expecting "primary")
  | fuel + 1, live, least, vars, rest => do
    let (a, rest, vars) ← unary fuel live vars rest
    binaryRest fuel live least a vars rest
termination_by structural fuel => fuel

/-- What operators that bind at least as strongly as given make of a value. -/
def binaryRest : Nat → Bool → Nat → Int → Variables → List Lexeme → Result
  | 0, _, _, _, _, _ => .error (.expecting "primary")
  | fuel + 1, live, least, a, vars, .operator op :: rest => do
    match strength op with
    | some n =>
      if least ≤ n then
        let (b, rest, vars) ← binary fuel live (n + 1) vars rest
        binaryRest fuel live least (← if live then apply op a b else pure b) vars rest
      else return (a, .operator op :: rest, vars)
    | none => return (a, .operator op :: rest, vars)
  | _ + 1, _, _, a, vars, rest => .ok (a, rest, vars)
termination_by structural fuel => fuel

def unary : Nat → Bool → Variables → List Lexeme → Result
  | 0, _, _, _ => .error (.expecting "primary")
  | fuel + 1, live, vars, .operator "-" :: rest => do
    let (v, rest, vars) ← unary fuel live vars rest
    return (wrap (-v), rest, vars)
  | fuel + 1, live, vars, .operator "+" :: rest => unary fuel live vars rest
  | fuel + 1, live, vars, .operator "!" :: rest => do
    let (v, rest, vars) ← unary fuel live vars rest
    return (truth (v = 0), rest, vars)
  | fuel + 1, live, vars, .operator "~" :: rest => do
    let (v, rest, vars) ← unary fuel live vars rest
    return (-v - 1, rest, vars)
  | fuel + 1, live, vars, .operator "(" :: rest => do
    let (v, rest, vars) ← expression fuel live vars rest
    match rest with
    | .operator ")" :: rest => return (v, rest, vars)
    | _ => throw (.expecting "')'")
  | _ + 1, _, vars, .number n :: rest => .ok (n, rest, vars)
  | _ + 1, live, vars, .name x :: rest => do
    return (← if live then vars.value x else pure 0, rest, vars)
  | _ + 1, _, _, _ => .error (.expecting "primary")

end

/-- The value of a text, and the variables that it sets, last one first. An operand that does not
count, as after `0 &&`, is read but neither looked up nor reckoned with. -/
def evaluate (outside : Chars → Option Chars) (text : Chars) :
    Except Trouble (Int × List (Chars × Chars)) := do
  let ls := lexemes (text.length + 1) text
  let (v, rest, vars) ← expression (16 * ls.length + 16) true ⟨[], outside⟩ ls
  if rest.isEmpty then return (v, vars.changed) else throw (.expecting "EOF")

end LinkRelay.Shell.Arithmetic
