import LinkRelay.Proofs.Text.Blank
import LinkRelay.Text.Newline

namespace LinkRelay.Text

/-- Without carriage returns there is no line end that reading would change. -/
theorem unifyNewlines_of_not_mem {chars : List Char} (hreturn : '\r' ∉ chars) :
    unifyNewlines chars = chars := by
  fun_induction unifyNewlines chars with
  | case1 => rfl
  | case2 rest => exact absurd List.mem_cons_self hreturn
  | case3 c rest _ ih =>
    obtain ⟨hc, hrest⟩ := not_or.mp (mt List.mem_cons.mpr hreturn)
    rw [if_neg (Ne.symm hc), ih hrest]

/-- Apart from line feeds, reading keeps every character but the carriage returns. -/
theorem mem_unifyNewlines_iff {c : Char} (hline : c ≠ '\n') {chars : List Char} :
    c ∈ unifyNewlines chars ↔ c ≠ '\r' ∧ c ∈ chars := by
  fun_induction unifyNewlines chars with
  | case1 => simp
  | case2 rest ih => grind
  | case3 d rest _ ih => grind

theorem unifyNewlines_eq_nil_iff {chars : List Char} : unifyNewlines chars = [] ↔ chars = [] := by
  fun_cases unifyNewlines chars <;> simp

/-- Reading makes no text longer. -/
theorem length_unifyNewlines_le (chars : List Char) :
    (unifyNewlines chars).length ≤ chars.length := by
  fun_induction unifyNewlines chars with
  | case1 => exact Nat.le_refl 0
  | case2 rest ih => simp only [List.length_cons]; omega
  | case3 c rest _ ih => simp only [List.length_cons]; omega

/-- A character is read on its own, but for a carriage return before a line feed. -/
theorem unifyNewlines_cons {c : Char} {rest : List Char}
    (halone : c = '\r' → rest.head? ≠ some '\n') :
    unifyNewlines (c :: rest) = (if c = '\r' then '\n' else c) :: unifyNewlines rest := by
  rw [unifyNewlines]
  rintro rest' hreturn rfl
  exact halone hreturn rfl

theorem unifyNewlines_cons_of_ne {c : Char} (hreturn : c ≠ '\r') (rest : List Char) :
    unifyNewlines (c :: rest) = c :: unifyNewlines rest := by
  rw [unifyNewlines_cons fun h => absurd h hreturn, if_neg hreturn]

/-- A character that is part of no line end keeps what stands before it and what stands behind it
apart. -/
theorem unifyNewlines_append_cons {c : Char} (hreturn : c ≠ '\r') (hline : c ≠ '\n')
    (front rest : List Char) :
    unifyNewlines (front ++ c :: rest) = unifyNewlines front ++ c :: unifyNewlines rest := by
  fun_induction unifyNewlines front with
  | case1 => exact unifyNewlines_cons_of_ne hreturn rest
  | case2 front ih => rw [List.cons_append, List.cons_append, unifyNewlines, ih]; rfl
  | case3 d front halone ih =>
    have hnext : d = '\r' → (front ++ c :: rest).head? ≠ some '\n' := by
      rintro rfl
      cases front with
      | nil => simpa using hline
      | cons e front =>
        intro hhead
        rw [List.cons_append, List.head?_cons, Option.some_inj] at hhead
        exact halone front rfl (by rw [hhead])
    rw [List.cons_append, unifyNewlines_cons hnext, ih]
    rfl

/-- A text as it is read. -/
def unified (text : String) : String :=
  String.ofList (unifyNewlines text.toList)

/-- A text is read as it is exactly if it holds no carriage return. -/
theorem unified_eq_self_iff {text : String} : unified text = text ↔ '\r' ∉ text.toList := by
  rw [← String.toList_inj, unified, String.toList_ofList]
  constructor
  · intro hunified hmem
    rw [← hunified] at hmem
    exact ((mem_unifyNewlines_iff (by decide)).mp hmem).1 rfl
  · exact unifyNewlines_of_not_mem

/-- A text of which no character ends a line. -/
def OneLine (text : String) : Prop :=
  ∀ c ∈ text.toList, ¬ isLineEnd c = true

theorem oneLine_iff_all {text : String} :
    OneLine text ↔ (text.toList.all fun c => !isLineEnd c) = true := by
  simp [OneLine]

theorem OneLine.append {first second : String} (hfirst : OneLine first) (hsecond : OneLine second) :
    OneLine (first ++ second) := by
  intro c hc
  rw [String.toList_append, List.mem_append] at hc
  obtain hc | hc := hc
  · exact hfirst c hc
  · exact hsecond c hc

theorem lineChars_lineFeed (rest : List Char) :
    lineChars ('\n' :: rest) = [] :: lineChars rest := by
  rw [lineChars]
  · simp [isLineEnd]
  · intro rest' heq
    simp at heq

/-- A character that ends no line belongs to the first one. -/
theorem lineChars_cons {c : Char} (hc : ¬ isLineEnd c = true) {rest first : List Char}
    {others : List (List Char)} (hrest : lineChars rest = first :: others) :
    lineChars (c :: rest) = (c :: first) :: others := by
  rw [lineChars, if_neg hc, hrest]
  rintro rest' rfl
  exact absurd rfl hc

/-- What is written as one line, with a line feed behind it, is the first line. -/
theorem lineChars_append {line : List Char} (hline : ∀ c ∈ line, ¬ isLineEnd c = true)
    (rest : List Char) : lineChars (line ++ '\n' :: rest) = line :: lineChars rest := by
  induction line with
  | nil => exact lineChars_lineFeed rest
  | cons c line ih =>
    obtain ⟨hc, hline⟩ := List.forall_mem_cons.mp hline
    exact lineChars_cons hc (ih hline)

/-- Up to the first line feed stands the first line, if no other character ends it before. -/
theorem lines_append {line : String} (hline : OneLine line) (rest : String) :
    lines (line ++ "\n" ++ rest) = line :: lines rest := by
  have hchars : (line ++ "\n" ++ rest).toList = line.toList ++ '\n' :: rest.toList := by simp
  rw [lines, hchars, lineChars_append hline, List.map_cons, String.ofList_toList, lines]

/-- No line holds a character that ends one. -/
theorem not_isLineEnd_of_mem_lineChars {chars line : List Char} (hline : line ∈ lineChars chars) :
    ∀ c ∈ line, ¬ isLineEnd c = true := by
  fun_induction lineChars chars generalizing line with
  | case1 => cases hline
  | case2 rest ih =>
    obtain rfl | hline := List.mem_cons.mp hline
    · simp
    · exact ih hline
  | case3 c rest _ hend ih =>
    obtain rfl | hline := List.mem_cons.mp hline
    · simp
    · exact ih hline
  | case4 c rest _ hplain hnone ih =>
    rw [List.mem_singleton.mp hline]
    simpa using hplain
  | case5 c rest _ hplain first others hrest ih =>
    rw [hrest] at ih
    obtain rfl | hline := List.mem_cons.mp hline
    · exact List.forall_mem_cons.mpr ⟨hplain, ih List.mem_cons_self⟩
    · exact ih (List.mem_cons_of_mem _ hline)

theorem oneLine_of_mem_lines {text line : String} (hline : line ∈ lines text) : OneLine line := by
  obtain ⟨chars, hchars, rfl⟩ := List.mem_map.mp hline
  intro c hc
  rw [String.toList_ofList] at hc
  exact not_isLineEnd_of_mem_lineChars hchars c hc

/-- Nothing is taken from a line that ends in neither a line feed nor a carriage return. -/
theorem chomp_eq_self_iff {line : String} :
    chomp line = line ↔ line.toList.getLast? ≠ some '\r' ∧ line.toList.getLast? ≠ some '\n' := by
  rw [chomp, ← String.toList_inj, String.toList_ofList, dropEndWhile_eq_rdropWhile,
    List.rdropWhile_eq_self_iff]
  obtain hempty | ⟨front, last, hchars⟩ := List.eq_nil_or_concat' line.toList
  · simp [hempty]
  · rw [hchars, List.getLast?_concat]
    simp

/-- Carriage returns and line feeds at the end of a line do not matter. -/
theorem chomp_append {ends : String} (hends : ∀ c ∈ ends.toList, c = '\r' ∨ c = '\n')
    (line : String) : chomp (line ++ ends) = chomp line := by
  have hdropped : ∀ c ∈ ends.toList.reverse, (c = '\r' || c = '\n') = true := by simpa using hends
  rw [chomp, chomp, dropEndWhile, dropEndWhile, String.toList_append, List.reverse_append,
    List.dropWhile_append_of_pos hdropped]

theorem OneLine.chomp {line : String} (hline : OneLine line) : chomp line = line := by
  rw [chomp_eq_self_iff]
  constructor <;> intro hlast
  · exact hline _ (List.mem_of_getLast? hlast) (by decide)
  · exact hline _ (List.mem_of_getLast? hlast) (by decide)

theorem mem_of_mem_chomp {line : String} {c : Char} (hc : c ∈ (chomp line).toList) :
    c ∈ line.toList := by
  rw [chomp, String.toList_ofList, dropEndWhile_eq_rdropWhile] at hc
  exact (List.rdropWhile_prefix _ _).subset hc

end LinkRelay.Text
