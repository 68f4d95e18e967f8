import LinkRelay.Proofs.Text.Newline
import LinkRelay.Proofs.Text.Pieces
import LinkRelay.Proofs.Words

namespace LinkRelay.Words

/-- A word that needs no quotes: there is something of it, and it holds no separator, no quote and
no backslash. -/
def IsPlain (word : String) : Prop :=
  word ≠ "" ∧ ∀ c ∈ [' ', '\t', '\r', '\n', '\'', '"', '\\'], c ∉ word.toList

instance (word : String) : Decidable (IsPlain word) :=
  @instDecidableAnd _ _ inferInstance (List.decidableBAll _ _)

/-- The characters that take the meaning from others. -/
def isMark (c : Char) : Bool :=
  c = '\\' || c = '\'' || c = '"'

/-- A character that stands for itself wherever it stands. -/
def IsOrdinary (c : Char) : Prop :=
  ¬ isSeparator c = true ∧ ¬ isMark c = true

/-- A plain word is not empty and has ordinary characters only. -/
theorem isPlain_iff {word : String} :
    IsPlain word ↔ word.toList ≠ [] ∧ ∀ c ∈ word.toList, IsOrdinary c := by
  have hordinary (c : Char) :
      IsOrdinary c ↔ c ∉ [' ', '\t', '\r', '\n', '\'', '"', '\\'] := by
    simp only [IsOrdinary, isSeparator, isMark, Bool.or_eq_true, decide_eq_true_eq, List.mem_cons,
      List.not_mem_nil]
    tauto
  simp only [IsPlain, ne_eq, String.toList_eq_nil_iff, hordinary]
  exact and_congr_right fun _ =>
    ⟨fun hfree c hc hheld => hfree c hheld hc, fun hword c hheld hc => hword c hc hheld⟩

/-- The characters of some words, and one to end each of them. -/
def weight : List String → Nat
  | [] => 0
  | word :: words => word.length + 1 + weight words

@[simp]
theorem weight_nil : weight [] = 0 :=
  rfl

@[simp]
theorem weight_cons (word : String) (words : List String) :
    weight (word :: words) = word.length + 1 + weight words :=
  rfl

theorem weight_append (words others : List String) :
    weight (words ++ others) = weight words + weight others := by
  induction words with
  | nil => simp
  | cons word words ih =>
    rw [List.cons_append, weight_cons, weight_cons, ih]
    omega

/-- The last word of a text needs no character to end it. An open quote needs one of its own, which
makes up for that. -/
def Mode.surplus : Mode → Nat
  | .singleQuoted | .doubleQuoted => 0
  | _ => 1

/-- One word at most goes without a character that ends it. -/
theorem Mode.surplus_le (mode : Mode) : mode.surplus ≤ 1 := by
  cases mode <;> decide

/-- One character ends a word, or adds at most one character to it; behind a backslash it may add
two, where the backslash has added none. -/
theorem splitFrom_cons_cases (mode : Mode) (acc : List Char) (c : Char) (rest : List Char) :
    (mode = .bare ∧ splitFrom mode acc (c :: rest) =
      (String.ofList acc.reverse :: ·) <$> splitFrom .between [] rest) ∨
    ∃ next word, splitFrom mode acc (c :: rest) = splitFrom next word rest ∧
      word.length + next.surplus ≤ acc.length + 1 + mode.surplus := by
  cases mode with
  | bareEscape => exact Or.inr ⟨.bare, c :: acc, rfl, Nat.le_refl _⟩
  | bare =>
    rw [splitFrom]
    split_ifs
    · exact Or.inl ⟨rfl, rfl⟩
    all_goals
      refine Or.inr ⟨_, _, rfl, ?_⟩
      simp only [Mode.surplus, List.length_cons]
      omega
  | between | singleQuoted | doubleQuoted | doubleEscape =>
    rw [splitFrom]
    split_ifs
    all_goals
      refine Or.inr ⟨_, _, rfl, ?_⟩
      simp only [Mode.surplus, List.length_cons, List.length_nil]
      omega

/-- Words weigh no more than the characters that they are read from. -/
theorem weight_le_of_splitFrom {mode : Mode} {acc chars : List Char} {words : List String}
    (hsplit : splitFrom mode acc chars = .ok words) :
    weight words ≤ acc.length + chars.length + mode.surplus := by
  induction chars generalizing mode acc words with
  | nil => cases mode <;> cases hsplit <;> simp [Mode.surplus]
  | cons c rest ih =>
    rw [List.length_cons]
    obtain ⟨rfl, hended⟩ | ⟨next, word, hgoes, hbound⟩ := splitFrom_cons_cases mode acc c rest
    · rw [hended] at hsplit
      obtain ⟨others, hothers, rfl⟩ := Answer.map_eq_ok_iff.mp hsplit
      have hrest := ih hothers
      simp only [weight_cons, String.length_ofList, List.length_reverse, List.length_nil,
        Mode.surplus] at hrest ⊢
      omega
    · rw [hgoes] at hsplit
      have hrest := ih hsplit
      omega

/-- A place outside quotes, between two words or in one that has been plain so far. -/
inductive Outside : Mode → List Char → Prop
  | between : Outside .between []
  | bare {acc : List Char} : acc ≠ [] → (∀ c ∈ acc, IsOrdinary c) → Outside .bare acc

section Outside

variable {mode : Mode} {acc : List Char} {c : Char}

/-- Outside of quotes, an ordinary character goes to the word that is being read. -/
theorem splitFrom_of_ordinary (houtside : Outside mode acc) (hc : IsOrdinary c)
    (rest : List Char) : splitFrom mode acc (c :: rest) = splitFrom .bare (c :: acc) rest := by
  obtain ⟨hseparator, hmark⟩ := hc
  simp only [isMark, Bool.or_eq_true, decide_eq_true_eq, not_or] at hmark
  obtain ⟨⟨hescape, hsingle⟩, hdouble⟩ := hmark
  cases houtside <;>
    rw [splitFrom, if_neg hseparator, if_neg hescape, if_neg hsingle, if_neg hdouble]

theorem Outside.cons (houtside : Outside mode acc) (hc : IsOrdinary c) :
    Outside .bare (c :: acc) := by
  refine .bare (List.cons_ne_nil c acc) (List.forall_mem_cons.mpr ⟨hc, ?_⟩)
  cases houtside with
  | between => simp
  | bare _ hacc => exact hacc

/-- Outside quotes a mark adds nothing to the word. -/
theorem splitFrom_of_mark (houtside : Outside mode acc) (hc : isMark c = true)
    (rest : List Char) : ∃ next, splitFrom mode acc (c :: rest) = splitFrom next acc rest := by
  simp only [isMark, Bool.or_eq_true, decide_eq_true_eq] at hc
  obtain (rfl | rfl) | rfl := hc
  · exact ⟨.bareEscape, by cases houtside <;> rfl⟩
  · exact ⟨.singleQuoted, by cases houtside <;> rfl⟩
  · exact ⟨.doubleQuoted, by cases houtside <;> rfl⟩

/-- Outside quotes a separator ends the word that there is, as the end of the text does. -/
theorem splitFrom_of_separator (houtside : Outside mode acc) (hc : isSeparator c = true) :
    ∃ ended, (∀ word ∈ ended, IsPlain word) ∧ weight ended ≤ acc.length + 1 ∧
      splitFrom mode acc [] = .ok ended ∧ ∀ rest,
        splitFrom mode acc (c :: rest) = (ended ++ ·) <$> splitFrom .between [] rest := by
  cases houtside with
  | between =>
    refine ⟨[], List.forall_mem_nil _, Nat.zero_le 1, rfl, fun rest => ?_⟩
    rw [splitFrom, if_pos hc]
    exact (id_map' _).symm
  | bare hne hacc =>
    refine ⟨[String.ofList acc.reverse], List.forall_mem_singleton.mpr ?_, by simp, rfl,
      fun rest => ?_⟩
    · rw [isPlain_iff, String.toList_ofList]
      exact ⟨by simpa using hne, fun c hc => hacc c (List.mem_reverse.mp hc)⟩
    · rw [splitFrom, if_pos hc]
      rfl

/-- Words that are read from a text outside quotes need none, or have cost it a character. -/
theorem isPlain_or_lt_of_splitFrom {chars : List Char} {words : List String}
    (houtside : Outside mode acc) (hsplit : splitFrom mode acc chars = .ok words) :
    (∀ word ∈ words, IsPlain word) ∨ weight words < acc.length + chars.length + 1 := by
  induction chars generalizing mode acc words with
  | nil =>
    have hblank : isSeparator ' ' = true := rfl
    obtain ⟨ended, hplain, -, hended, -⟩ := splitFrom_of_separator houtside hblank
    rw [hended] at hsplit
    cases hsplit
    exact Or.inl hplain
  | cons c rest ih =>
    rw [List.length_cons]
    by_cases hseparator : isSeparator c = true
    · obtain ⟨ended, hplain, hweight, -, hgoes⟩ := splitFrom_of_separator houtside hseparator
      rw [hgoes] at hsplit
      obtain ⟨others, hothers, rfl⟩ := Answer.map_eq_ok_iff.mp hsplit
      rw [weight_append]
      refine (ih .between hothers).imp (fun hrest => ?_) (fun hrest => ?_)
      · exact List.forall_mem_append.mpr ⟨hplain, hrest⟩
      · rw [List.length_nil] at hrest
        omega
    by_cases hmark : isMark c = true
    · obtain ⟨next, hgoes⟩ := splitFrom_of_mark houtside hmark rest
      rw [hgoes] at hsplit
      have hrest := weight_le_of_splitFrom hsplit
      have hsurplus := next.surplus_le
      right
      omega
    · rw [splitFrom_of_ordinary houtside ⟨hseparator, hmark⟩] at hsplit
      refine (ih (houtside.cons ⟨hseparator, hmark⟩) hsplit).imp id fun hrest => ?_
      rw [List.length_cons] at hrest
      omega

theorem splitFrom_append_of_ordinary {word : List Char} (houtside : Outside mode acc)
    (hword : ∀ c ∈ word, IsOrdinary c) (hne : word ≠ []) (rest : List Char) :
    splitFrom mode acc (word ++ rest) = splitFrom .bare (word.reverse ++ acc) rest := by
  induction word generalizing mode acc with
  | nil => exact absurd rfl hne
  | cons c word ih =>
    obtain ⟨hc, hword⟩ := List.forall_mem_cons.mp hword
    rw [List.cons_append, splitFrom_of_ordinary houtside hc, List.reverse_cons, List.append_assoc]
    by_cases hlast : word = []
    · rw [hlast]
      rfl
    · exact ih (houtside.cons hc) hword hlast

end Outside

/-- Words that are joined by line feeds, with one more at the end, weigh as much as they are
long. -/
theorem weight_eq_length_intercalate {words : List String} (hwords : words ≠ []) :
    weight words = ("\n".intercalate words).length + 1 := by
  induction words with
  | nil => exact absurd rfl hwords
  | cons word words ih =>
    by_cases hlast : words = []
    · simp [hlast]
    · rw [weight_cons, ih hlast, String.intercalate_cons_of_ne_nil hlast, String.length_append,
        String.length_append]
      rfl

/-- Plain words are read back from the lines that they stand on. -/
theorem splitFrom_lines {words : List String} (hplain : ∀ word ∈ words, IsPlain word) :
    splitFrom .between [] ("\n".intercalate words).toList = .ok words := by
  induction words with
  | nil => rfl
  | cons word words ih =>
    obtain ⟨hword, hwords⟩ := List.forall_mem_cons.mp hplain
    obtain ⟨hne, hordinary⟩ := isPlain_iff.mp hword
    by_cases hlast : words = []
    · rw [hlast, String.intercalate_singleton, ← List.append_nil word.toList,
        splitFrom_append_of_ordinary .between hordinary hne, List.append_nil, splitFrom,
        List.reverse_reverse, String.ofList_toList]
    · have hgap : IsGap "\n".toList := by simp [IsGap]
      rw [String.intercalate_cons_of_ne_nil hlast, String.toList_append, String.toList_append,
        List.append_assoc, splitFrom_append_of_ordinary .between hordinary hne, List.append_nil,
        splitFrom_bare_gap hgap (fun _ => by simp), ih hwords, List.reverse_reverse,
        String.ofList_toList]
      rfl

/-- Words on lines of their own are read back exactly if they are plain. -/
theorem split_unified_lines_iff {words : List String} :
    split (Text.unified ("\n".intercalate words)) = .ok words ↔ ∀ word ∈ words, IsPlain word := by
  rw [split, Text.unified, String.toList_ofList]
  constructor
  · intro hsplit
    by_cases hnone : words = []
    · simp [hnone]
    have hshort := Text.length_unifyNewlines_le ("\n".intercalate words).toList
    have hweight := weight_eq_length_intercalate hnone
    rw [String.length_toList] at hshort
    refine (isPlain_or_lt_of_splitFrom .between hsplit).resolve_right fun hlt => ?_
    rw [List.length_nil] at hlt
    omega
  · intro hplain
    have hreturn : '\r' ∉ ("\n".intercalate words).toList := by
      rw [Text.mem_intercalate_iff rfl (by decide)]
      rintro ⟨word, hword, hmem⟩
      exact (hplain word hword).2 '\r' (by decide) hmem
    rw [Text.unifyNewlines_of_not_mem hreturn]
    exact splitFrom_lines hplain

end LinkRelay.Words
