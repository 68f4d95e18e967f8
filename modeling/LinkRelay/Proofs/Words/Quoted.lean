import LinkRelay.Proofs.Text.Newline
import LinkRelay.Proofs.Words

namespace LinkRelay.Words

/-- Separators of any kind. -/
def IsSeparation (chars : List Char) : Prop :=
  ∀ c ∈ chars, isSeparator c = true

instance (chars : List Char) : Decidable (IsSeparation chars) :=
  List.decidableBAll _ chars

/-- Words in quotes, each with the separators that follow it, which are at least one where another
word follows. -/
inductive Rowed : List String → List Char → Prop
  | nil : Rowed [] []
  | cons {word : String} {words : List String} {gap rest : List Char} : IsSeparation gap →
      (words ≠ [] → gap ≠ []) → Rowed words rest →
      Rowed (word :: words) (quoteChars word.toList ++ gap ++ rest)

/-- The same with separators before the first word. -/
def Quoted (words : List String) (chars : List Char) : Prop :=
  ∃ gap rest, IsSeparation gap ∧ Rowed words rest ∧ chars = gap ++ rest

/-- Separators are blanks once their line ends are read as line feeds. -/
theorem IsSeparation.isGap {gap : List Char} (hgap : IsSeparation gap) :
    IsGap (Text.unifyNewlines gap) := by
  intro c hc
  by_cases hline : c = '\n'
  · exact Or.inr (Or.inr hline)
  · obtain ⟨hreturn, hmem⟩ := (Text.mem_unifyNewlines_iff hline).mp hc
    have hseparator := hgap c hmem
    simp only [isSeparator, Bool.or_eq_true, decide_eq_true_eq] at hseparator
    tauto

/-- How a character is written between single quotes. -/
def spelled (c : Char) : List Char :=
  if c = '\'' then ['\'', '"', '\'', '"', '\''] else [c]

theorem quoteChars_append (word rest : List Char) :
    quoteChars word ++ rest = '\'' :: (word.flatMap spelled ++ '\'' :: rest) := by
  rw [quoteChars, List.append_assoc]
  rfl

theorem head?_spelled (c : Char) : (spelled c).head? = some c := by
  rw [spelled]
  split_ifs with hquote
  · rw [hquote]
    rfl
  · rfl

/-- A word that is spelled out in quotes begins with its own first character. -/
theorem head?_flatMap_spelled (word : List Char) : (word.flatMap spelled).head? = word.head? := by
  cases word with
  | nil => rfl
  | cons c word => rw [List.flatMap_cons, List.head?_append, head?_spelled]; rfl

/-- Line ends in a word are line ends in its written form: nothing is put between the two characters
of one. -/
theorem unifyNewlines_flatMap_spelled (word : List Char) :
    Text.unifyNewlines (word.flatMap spelled) = (Text.unifyNewlines word).flatMap spelled := by
  fun_induction Text.unifyNewlines word with
  | case1 => rfl
  | case2 word ih =>
    change Text.unifyNewlines ('\r' :: '\n' :: word.flatMap spelled) = _
    rw [Text.unifyNewlines, ih]
    rfl
  | case3 c word halone ih =>
    have hapart : c = '\r' → (word.flatMap spelled).head? ≠ some '\n' := by
      intro hreturn hhead
      rw [head?_flatMap_spelled] at hhead
      obtain ⟨word, rfl⟩ := List.head?_eq_some_iff.mp hhead
      exact halone word hreturn rfl
    rw [List.flatMap_cons, List.flatMap_cons, ← ih]
    by_cases hquote : c = '\''
    · subst hquote
      simp [spelled, Text.unifyNewlines_cons_of_ne]
    · have hkept : (if c = '\r' then '\n' else c) ≠ '\'' := by
        split_ifs
        · decide
        · exact hquote
      rw [spelled, if_neg hquote, spelled, if_neg hkept]
      exact Text.unifyNewlines_cons hapart

/-- Quotes keep no line end from being read as a line feed. -/
theorem unifyNewlines_quoteChars_append (word rest : List Char) :
    Text.unifyNewlines (quoteChars word ++ rest) =
      quoteChars (Text.unifyNewlines word) ++ Text.unifyNewlines rest := by
  rw [quoteChars_append, quoteChars_append, ← List.cons_append,
    Text.unifyNewlines_append_cons (by decide) (by decide),
    Text.unifyNewlines_cons_of_ne (by decide), unifyNewlines_flatMap_spelled]
  rfl

/-- What is left of a row of words begins with a quote if anything is left. -/
theorem Rowed.eq_nil_or_quote {words : List String} {chars : List Char}
    (hrowed : Rowed words chars) : chars = [] ∨ ∃ rest, chars = '\'' :: rest := by
  cases hrowed with
  | nil => exact Or.inl rfl
  | cons _ _ _ =>
    rw [List.append_assoc, quoteChars_append]
    exact Or.inr ⟨_, rfl⟩

/-- Separators stay apart from the word that follows them. -/
theorem unifyNewlines_gap_append {words : List String} {rest : List Char}
    (hrowed : Rowed words rest) (gap : List Char) :
    Text.unifyNewlines (gap ++ rest) = Text.unifyNewlines gap ++ Text.unifyNewlines rest := by
  obtain rfl | ⟨rest, rfl⟩ := hrowed.eq_nil_or_quote
  · rw [List.append_nil, Text.unifyNewlines, List.append_nil]
  · rw [Text.unifyNewlines_append_cons (by decide) (by decide),
      Text.unifyNewlines_cons_of_ne (by decide)]

/-- What a file holds as words in quotes, it holds so when it is read. -/
theorem Rowed.unified {words : List String} {chars : List Char} (hrowed : Rowed words chars) :
    Listed (words.map Text.unified) (Text.unifyNewlines chars) := by
  induction hrowed with
  | nil => exact .nil
  | @cons word words gap rest hgap hapart hrest ih =>
    have hword : Text.unifyNewlines word.toList = (Text.unified word).toList :=
      String.toList_ofList.symm
    rw [List.append_assoc, unifyNewlines_quoteChars_append, unifyNewlines_gap_append hrest, hword,
      ← List.append_assoc]
    refine .cons hgap.isGap (fun hwords => ?_) ih
    rw [ne_eq, Text.unifyNewlines_eq_nil_iff]
    exact hapart (by simpa using hwords)

/-- Words in quotes are read back, but for their line ends. -/
theorem split_unified_of_quoted {words : List String} {chars : List Char}
    (hquoted : Quoted words chars) :
    split (Text.unified (String.ofList chars)) = .ok (words.map Text.unified) := by
  obtain ⟨gap, rest, hgap, hrowed, rfl⟩ := hquoted
  rw [Text.unified, String.toList_ofList, unifyNewlines_gap_append hrowed]
  exact split_of_written ⟨_, _, hgap.isGap, hrowed.unified, rfl⟩

end LinkRelay.Words
