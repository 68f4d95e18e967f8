import LinkRelay.Proofs.Text.Search

namespace LinkRelay.Text

theorem pieces_eq_splitOn (sep : Char) (chars : List Char) :
    pieces sep chars = chars.splitOn sep := by
  induction chars with
  | nil => rfl
  | cons c rest ih =>
    rw [pieces, ih, List.splitOn_cons_eq_if_modifyHead]
    by_cases hsep : c = sep
    · simp [hsep]
    · cases hpieces : rest.splitOn sep with
      | nil => exact absurd hpieces (List.splitOn_ne_nil sep rest)
      | cons piece others => simp [hsep]

/-- Pieces that are joined by their separator give the text back. -/
theorem intercalate_pieces (sep : Char) (chars : List Char) :
    [sep].intercalate (pieces sep chars) = chars := by
  rw [pieces_eq_splitOn, List.intercalate_splitOn]

/-- No piece holds the separator. -/
theorem not_mem_of_mem_pieces {sep : Char} {chars piece : List Char}
    (hpiece : piece ∈ pieces sep chars) : sep ∉ piece := by
  induction chars generalizing piece with
  | nil =>
    rw [pieces, List.mem_singleton] at hpiece
    simp [hpiece]
  | cons c rest ih =>
    rw [pieces] at hpiece
    split at hpiece
    · obtain rfl | hpiece := List.mem_cons.mp hpiece
      · simp
      · exact ih hpiece
    · rename_i hc
      split at hpiece
      · rw [List.mem_singleton.mp hpiece]
        simpa using Ne.symm hc
      · rename_i first others hrest
        rw [hrest] at ih
        obtain rfl | hpiece := List.mem_cons.mp hpiece
        · exact List.not_mem_cons_of_ne_of_not_mem (Ne.symm hc) (ih List.mem_cons_self)
        · exact ih (List.mem_cons_of_mem _ hpiece)

/-- Leaving parts out before joining leaves characters out. -/
theorem intercalate_filter_sublist (sep : Char) (keeps : List Char → Bool)
    (parts : List (List Char)) :
    List.Sublist ([sep].intercalate (parts.filter keeps)) ([sep].intercalate parts) := by
  induction parts with
  | nil => exact List.Sublist.refl _
  | cons part parts ih =>
    by_cases hlast : parts = []
    · subst hlast
      cases hkeeps : keeps part <;> simp [hkeeps]
    · rw [List.intercalate_cons_of_ne_nil hlast]
      cases hkeeps : keeps part with
      | false =>
        rw [List.filter_cons_of_neg (by simp [hkeeps])]
        exact ih.trans (List.sublist_append_right _ _)
      | true =>
        rw [List.filter_cons_of_pos hkeeps]
        by_cases hnone : parts.filter keeps = []
        · rw [hnone, List.intercalate_singleton, List.append_assoc]
          exact List.sublist_append_left _ _
        · rw [List.intercalate_cons_of_ne_nil hnone]
          exact ih.append_left _

/-- There is one piece more than there are separators. -/
theorem length_pieces (sep : Char) (chars : List Char) :
    (pieces sep chars).length = chars.count sep + 1 := by
  induction chars with
  | nil => rfl
  | cons c rest ih =>
    rw [pieces]
    by_cases hsep : c = sep
    · simp [hsep, ih]
    · cases hpieces : pieces sep rest with
      | nil => simp [hpieces] at ih
      | cons piece others => simpa [hsep, hpieces] using ih

theorem split_ne_nil (sep : Char) (text : String) : split sep text ≠ [] := by
  intro hnone
  have hlength := length_pieces sep text.toList
  rw [List.map_eq_nil_iff.mp hnone] at hlength
  cases hlength

theorem split_eq_empty_iff {sep : Char} {text : String} : split sep text = [""] ↔ text = "" := by
  constructor
  · intro hsplit
    have hpieces : pieces sep text.toList = [[]] := by
      simpa [split, List.map_eq_singleton_iff] using hsplit
    have hback := intercalate_pieces sep text.toList
    rw [hpieces] at hback
    exact String.toList_eq_nil_iff.mp hback.symm
  · rintro rfl
    rfl

theorem pieces_append_cons (sep : Char) (chars rest : List Char) :
    pieces sep (chars ++ sep :: rest) = pieces sep chars ++ pieces sep rest := by
  induction chars with
  | nil => simp [pieces]
  | cons c chars ih =>
    by_cases hc : c = sep
    · simp [pieces, hc, ih]
    · have hpieces : pieces sep chars ≠ [] := List.ne_nil_of_length_pos (by simp [length_pieces])
      obtain ⟨piece, others, hpieces⟩ := List.exists_cons_of_ne_nil hpieces
      simp [pieces, hc, ih, hpieces]

theorem split_of_not_mem {sep : Char} {text : String} (hsep : sep ∉ text.toList) :
    split sep text = [text] := by
  rw [split, pieces_eq_splitOn, List.splitOn_eq_singleton hsep]
  simp

/-- Two texts with a separator between them fall apart each for itself. -/
theorem split_append_mark {sep : Char} {mark : String} (hmark : mark.toList = [sep])
    (text rest : String) : split sep (text ++ mark ++ rest) = split sep text ++ split sep rest := by
  have hchars : (text ++ mark ++ rest).toList = text.toList ++ sep :: rest.toList := by simp [hmark]
  rw [split, hchars, pieces_append_cons, List.map_append, ← split, ← split]

/-- A text that ends in a slash and a name without one falls apart with the name as the last
piece. -/
theorem split_append_name (text : String) {name : String} (hslash : '/' ∉ name.toList) :
    split '/' (text ++ "/" ++ name) = split '/' text ++ [name] := by
  rw [split_append_mark rfl, split_of_not_mem hslash]

theorem split_append_slash (text : String) : split '/' (text ++ "/") = split '/' text ++ [""] := by
  have hslash : '/' ∉ "".toList := by simp
  simpa using split_append_name text hslash

/-- A name that stands between slashes is one of the pieces. -/
theorem mem_split_of_contains {text name : String} (hslash : '/' ∉ name.toList) (hempty : name ≠ "")
    (hcontains : contains (text ++ "/") ("/" ++ name ++ "/") = true) : name ∈ split '/' text := by
  obtain ⟨before, behind, htext⟩ := contains_iff.mp hcontains
  have hbetween : text ++ "/" = before ++ "/" ++ (name ++ "/" ++ behind) := by
    rw [htext]
    simp only [String.append_assoc]
  have hpieces : split '/' text ++ [""] = split '/' before ++ name :: split '/' behind := by
    rw [← split_append_slash, hbetween, split_append_mark rfl, split_append hslash]
  have hname : name ∈ split '/' text ++ [""] := by simp [hpieces]
  simpa [hempty] using hname

/-- Joined parts hold the separators between them and those that they had. -/
theorem count_intercalate {sep : Char} {parts : List (List Char)} (hparts : parts ≠ []) :
    ([sep].intercalate parts).count sep + 1 =
      parts.length + parts.flatten.count sep := by
  induction parts with
  | nil => exact absurd rfl hparts
  | cons part parts ih =>
    by_cases hlast : parts = []
    · simp [hlast, Nat.add_comm]
    · have hrest := ih hlast
      rw [List.intercalate_cons_of_ne_nil hlast, List.count_append, List.count_append,
        List.count_singleton_self, List.length_cons, List.flatten_cons, List.count_append]
      omega

section Join

variable {mark : String} {sep : Char} {parts : List String}

/-- Joining adds no character but the separator. -/
theorem mem_intercalate_iff (hmark : mark.toList = [sep]) {c : Char} (hsep : c ≠ sep) :
    c ∈ (mark.intercalate parts).toList ↔ ∃ part ∈ parts, c ∈ part.toList := by
  induction parts with
  | nil => simp
  | cons part parts ih =>
    by_cases hlast : parts = []
    · simp [hlast]
    · rw [String.intercalate_cons_of_ne_nil hlast, String.toList_append, String.toList_append,
        List.mem_append, List.mem_append, ih, hmark]
      simp [hsep]

/-- Texts without the separator are the pieces of what they are joined to. -/
theorem split_intercalate (hmark : mark.toList = [sep]) (hparts : parts ≠ [])
    (hfree : ∀ part ∈ parts, sep ∉ part.toList) : split sep (mark.intercalate parts) = parts := by
  have hmapped : parts.map String.toList ≠ [] := by simpa using hparts
  have hpieces : pieces sep ([sep].intercalate (parts.map String.toList)) =
      parts.map String.toList := by
    rw [pieces_eq_splitOn, List.splitOn_intercalate sep (by simpa using hfree) hmapped]
  rw [split, String.toList_intercalate, hmark, hpieces]
  simp [Function.comp_def]

/-- Joined parts fall into one piece more for each separator that they held. -/
theorem length_split_intercalate (hmark : mark.toList = [sep]) (hparts : parts ≠ []) :
    (split sep (mark.intercalate parts)).length =
      parts.length + (parts.map String.toList).flatten.count sep := by
  have hmapped : parts.map String.toList ≠ [] := by simpa using hparts
  rw [split, List.length_map, length_pieces, String.toList_intercalate, hmark,
    count_intercalate hmapped, List.length_map]

/-- Where a text holds the separator, splitting gives more texts than were joined. -/
theorem length_lt_length_split_intercalate (hmark : mark.toList = [sep])
    (hheld : ∃ part ∈ parts, sep ∈ part.toList) :
    parts.length < (split sep (mark.intercalate parts)).length := by
  obtain ⟨part, hpart, hsep⟩ := hheld
  have hpositive : 0 < (parts.map String.toList).flatten.count sep :=
    List.count_pos_iff.mpr (List.mem_flatten.mpr ⟨_, List.mem_map_of_mem hpart, hsep⟩)
  rw [length_split_intercalate hmark (List.ne_nil_of_mem hpart)]
  omega

/-- Joined parts are split into themselves exactly if none of them holds the separator. -/
theorem split_intercalate_eq_iff (hmark : mark.toList = [sep]) (hparts : parts ≠ []) :
    split sep (mark.intercalate parts) = parts ↔ ∀ part ∈ parts, sep ∉ part.toList := by
  constructor
  · intro hsplit part hpart hsep
    have hlt := length_lt_length_split_intercalate hmark ⟨part, hpart, hsep⟩
    rw [hsplit] at hlt
    exact absurd hlt (Nat.lt_irrefl _)
  · exact split_intercalate hmark hparts

end Join

end LinkRelay.Text
