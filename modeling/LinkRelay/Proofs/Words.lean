import LinkRelay.Proofs.Answer
import LinkRelay.Words

namespace LinkRelay.Words

/-- Blanks, as they may stand between words: spaces, tabs and line feeds. -/
def IsGap (chars : List Char) : Prop :=
  ∀ c ∈ chars, c = ' ' ∨ c = '\t' ∨ c = '\n'

/-- Words in quotes, each with the blanks that follow it, which are at least one where another word
follows. -/
inductive Listed : List String → List Char → Prop
  | nil : Listed [] []
  | cons {word : String} {words : List String} {gap rest : List Char} : IsGap gap →
      (words ≠ [] → gap ≠ []) → Listed words rest →
      Listed (word :: words) (quoteChars word.toList ++ gap ++ rest)

/-- The same with blanks before the first word. -/
def Written (words : List String) (chars : List Char) : Prop :=
  ∃ gap rest, IsGap gap ∧ Listed words rest ∧ chars = gap ++ rest

theorem isSeparator_of_gap {c : Char} {gap : List Char} (hgap : IsGap (c :: gap)) :
    isSeparator c = true := by
  obtain rfl | rfl | rfl := hgap c List.mem_cons_self <;> rfl

theorem IsGap.tail {c : Char} {gap : List Char} (hgap : IsGap (c :: gap)) : IsGap gap :=
  fun d hd => hgap d (List.mem_cons_of_mem c hd)

/-- Blanks between words say nothing. -/
theorem splitFrom_between_gap {gap : List Char} (hgap : IsGap gap) (rest : List Char) :
    splitFrom .between [] (gap ++ rest) = splitFrom .between [] rest := by
  induction gap with
  | nil => rfl
  | cons c gap ih =>
    rw [List.cons_append, splitFrom, if_pos (isSeparator_of_gap hgap)]
    exact ih hgap.tail

/-- Up to the closing quote every character belongs to the word; a single quote leaves the quotes
for a double-quoted one and comes back. -/
theorem splitFrom_singleQuoted (word acc rest : List Char) :
    splitFrom .singleQuoted acc
        (word.flatMap (fun c => if c = '\'' then ['\'', '"', '\'', '"', '\''] else [c]) ++
          '\'' :: rest) =
      splitFrom .bare (word.reverse ++ acc) rest := by
  induction word generalizing acc with
  | nil => simp [splitFrom]
  | cons c word ih =>
    by_cases hquote : c = '\''
    · subst hquote
      simpa [splitFrom, isSeparator] using ih ('\'' :: acc)
    · simpa [splitFrom, hquote] using ih (c :: acc)

/-- A word in quotes is taken up character by character, whatever it holds. -/
theorem splitFrom_quoteChars (word rest : List Char) :
    splitFrom .between [] (quoteChars word ++ rest) = splitFrom .bare word.reverse rest := by
  have hquoted := splitFrom_singleQuoted word [] rest
  rw [List.append_nil] at hquoted
  simpa [quoteChars, splitFrom, isSeparator] using hquoted

/-- A blank ends a word, and so does the end of the text. -/
theorem splitFrom_bare_gap {gap rest : List Char} (hgap : IsGap gap)
    (hapart : rest ≠ [] → gap ≠ []) (acc : List Char) :
    splitFrom .bare acc (gap ++ rest) =
      (String.ofList acc.reverse :: ·) <$> splitFrom .between [] rest := by
  cases gap with
  | nil =>
    cases rest with
    | nil => rfl
    | cons c rest => exact absurd rfl (hapart (List.cons_ne_nil c rest))
  | cons c gap =>
    rw [List.cons_append, splitFrom, if_pos (isSeparator_of_gap hgap),
      splitFrom_between_gap hgap.tail]

theorem Listed.eq_nil {rest : List Char} (hlisted : Listed [] rest) : rest = [] := by
  cases hlisted
  rfl

/-- Words that are listed in quotes are read one by one. -/
theorem splitFrom_of_listed {words : List String} {chars : List Char}
    (hlisted : Listed words chars) : splitFrom .between [] chars = .ok words := by
  induction hlisted with
  | nil => rfl
  | @cons word words gap rest hgap hapart hrest ih =>
    -- Characters that follow belong to another word, from which a blank sets this one apart.
    have hapart' : rest ≠ [] → gap ≠ [] := by
      intro hne
      apply hapart
      rintro rfl
      exact hne hrest.eq_nil
    rw [List.append_assoc, splitFrom_quoteChars, splitFrom_bare_gap hgap hapart', ih,
      List.reverse_reverse, String.ofList_toList]
    rfl

/-- Written words are read back. -/
theorem split_of_written {words : List String} {chars : List Char}
    (hwritten : Written words chars) : split (String.ofList chars) = .ok words := by
  obtain ⟨gap, rest, hgap, hlisted, rfl⟩ := hwritten
  rw [split, String.toList_ofList, splitFrom_between_gap hgap]
  exact splitFrom_of_listed hlisted

/-- Quoting adds no characters but quotes. -/
theorem not_mem_quoteChars {c : Char} {word : List Char} (hsingle : c ≠ '\'') (hdouble : c ≠ '"')
    (hword : c ∉ word) : c ∉ quoteChars word := by
  intro hc
  simp only [quoteChars, List.mem_append, List.mem_cons, List.mem_flatMap, hsingle, false_or,
    List.not_mem_nil, or_false] at hc
  obtain ⟨d, hd, hcd⟩ := hc
  split at hcd
  · simp [hsingle, hdouble] at hcd
  · rw [List.mem_singleton] at hcd
    exact hword (hcd ▸ hd)

/-- A list without carriage returns in its words or its gaps holds none at all. -/
theorem not_mem_of_listed {words : List String} {chars : List Char}
    (hlisted : Listed words chars) (hwords : ∀ word ∈ words, '\r' ∉ word.toList) :
    '\r' ∉ chars := by
  induction hlisted with
  | nil => exact List.not_mem_nil
  | @cons word words gap rest hgap _ _ ih =>
    obtain ⟨hword, hwords⟩ := List.forall_mem_cons.mp hwords
    rw [List.append_assoc, List.mem_append, List.mem_append]
    rintro (hquoted | hblank | hrest)
    · exact not_mem_quoteChars (by decide) (by decide) hword hquoted
    · have hreturn := hgap _ hblank
      revert hreturn
      decide
    · exact ih hwords hrest

/-- Writing words adds no carriage return. -/
theorem not_mem_of_written {words : List String} {chars : List Char}
    (hwritten : Written words chars) (hwords : ∀ word ∈ words, '\r' ∉ word.toList) :
    '\r' ∉ chars := by
  obtain ⟨gap, rest, hgap, hlisted, rfl⟩ := hwritten
  rw [List.mem_append]
  rintro (hblank | hrest)
  · have hreturn := hgap _ hblank
    revert hreturn
    decide
  · exact not_mem_of_listed hlisted hwords hrest

end LinkRelay.Words
