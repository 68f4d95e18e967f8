import Mathlib.Algebra.Ring.Parity
import Mathlib.Data.List.DropRight

namespace LinkRelay

/-- The next token after some tokens is taken: the takers at their end are odd in number, as a taker
that is taken itself takes nothing. -/
def TakesNext (takes : String → Bool) (tokens : List String) : Prop :=
  Odd (tokens.rtakeWhile takes).length

instance (takes : String → Bool) : DecidablePred (TakesNext takes) :=
  fun tokens => inferInstanceAs (Decidable (Odd (tokens.rtakeWhile takes).length))

variable {takes : String → Bool}

theorem not_takesNext_nil : ¬ TakesNext takes [] := by
  simp [TakesNext]

/-- A token takes the next one if it is a taker and is not taken. -/
theorem takesNext_concat {tokens : List String} {token : String} :
    TakesNext takes (tokens ++ [token]) ↔ takes token = true ∧ ¬ TakesNext takes tokens := by
  by_cases htakes : takes token = true
  · rw [TakesNext, List.rtakeWhile_concat_pos _ _ _ htakes, List.length_append,
      List.length_singleton, Nat.odd_add_one, TakesNext]
    simp [htakes]
  · rw [TakesNext, List.rtakeWhile_concat_neg _ _ _ htakes]
    simp [htakes]

end LinkRelay
