import LinkRelay.Text.Search

namespace LinkRelay.Library

/-- What a library flag starts with. -/
def flagStart : String := "-l"

/-- How often each text is still to come. -/
abbrev Tally := List (String × Nat)

namespace Tally

/-- How often a text is still to come, if it was ever counted. -/
def count? (tally : Tally) (token : String) : Option Nat :=
  List.lookup token tally

/-- Gives a text a new number. -/
def set (tally : Tally) (token : String) (n : Nat) : Tally :=
  match tally with
  | [] => [(token, n)]
  | (t, m) :: rest => if t = token then (t, n) :: rest else (t, m) :: set rest token n

/-- Counts the texts of a list. -/
def ofList (tokens : List String) : Tally :=
  tokens.foldl (fun tally token => tally.set token ((tally.count? token).getD 0 + 1)) []

end Tally

/-- Keeps the tokens that were not counted, and each counted one where its number comes to zero. -/
def countDown (tally : Tally) : List String → List String
  | [] => []
  | token :: rest =>
    match tally.count? token with
    | none => token :: countDown tally rest
    | some n =>
      let left := n - 1
      if left = 0 then token :: countDown (tally.set token left) rest
      else countDown (tally.set token left) rest

/-- Drops each token with the given start that comes again later, and keeps all other tokens. A
linker searches libraries in order, so that of equal flags the last one has to stay; counting first
how often each is still to come, one pass finds it. -/
def collapse (start : String) (tokens : List String) : List String :=
  countDown (Tally.ofList (tokens.filter fun t => Text.startsWith t start)) tokens

end LinkRelay.Library
