import LinkRelay.Text.Search

namespace LinkRelay.Text

/-- A text that starts with another one is the other one and a rest. -/
theorem startsWith_iff {text lead : String} :
    startsWith text lead = true ↔ ∃ rest, text = lead ++ rest := by
  rw [startsWith, List.isPrefixOf_iff_prefix]
  constructor
  · rintro ⟨rest, hrest⟩
    exact ⟨String.ofList rest, String.toList_inj.mp (by simp [← hrest])⟩
  · rintro ⟨rest, rfl⟩
    exact ⟨rest.toList, (String.toList_append ..).symm⟩

theorem toList_prefix_iff {text lead : String} :
    lead.toList <+: text.toList ↔ ∃ rest, text = lead ++ rest := by
  rw [← startsWith_iff, startsWith, List.isPrefixOf_iff_prefix]

theorem startsWith_append (lead rest : String) : startsWith (lead ++ rest) lead = true :=
  startsWith_iff.mpr ⟨rest, rfl⟩

theorem startsWith_slash_iff {text : String} :
    startsWith text "/" = true ↔ text.toList.head? = some '/' := by
  rw [startsWith]
  cases text.toList with
  | nil => simp
  | cons c chars => simpa using eq_comm

theorem not_startsWith_slash {text : String} (hslash : '/' ∉ text.toList) :
    ¬ startsWith text "/" = true := by
  rw [startsWith_slash_iff]
  exact fun hhead => hslash (List.mem_of_mem_head? hhead)

/-- What follows a text that is not empty does not change how it begins. -/
theorem startsWith_slash_append {text : String} (hempty : text ≠ "") (rest : String) :
    startsWith (text ++ rest) "/" = startsWith text "/" := by
  rw [Bool.eq_iff_iff, startsWith_slash_iff, startsWith_slash_iff]
  cases hchars : text.toList with
  | nil => exact absurd (String.toList_eq_nil_iff.mp hchars) hempty
  | cons c chars => simp [hchars]

/-- A slash at the end of a text is at the end of whatever ends it. -/
theorem exists_append_slash {text lead rest : String} (hempty : rest ≠ "")
    (htext : text ++ "/" = lead ++ rest) : ∃ more, rest = more ++ "/" := by
  obtain hnil | ⟨front, last, hrest⟩ := List.eq_nil_or_concat rest.toList
  · exact absurd (String.toList_eq_nil_iff.mp hnil) hempty
  · have hchars : text.toList ++ ['/'] = lead.toList ++ front ++ [last] := by
      simpa [hrest] using congrArg String.toList htext
    obtain ⟨-, hlast⟩ := List.append_inj' hchars rfl
    exact ⟨String.ofList front, String.toList_inj.mp (by simp [hrest, ← hlast])⟩

theorem after?_eq_none_iff {lead text : String} :
    after? lead text = none ↔ startsWith text lead = false := by
  rw [after?]
  cases startsWith text lead <;> simp

theorem after?_append (lead rest : String) : after? lead (lead ++ rest) = some rest := by
  rw [after?, if_pos (startsWith_append lead rest), String.toList_append, ← String.length_toList,
    List.drop_left, String.ofList_toList]

theorem after?_eq_some_iff {lead text rest : String} :
    after? lead text = some rest ↔ text = lead ++ rest := by
  constructor
  · intro hafter
    have hstart : startsWith text lead = true := by
      rw [← Bool.not_eq_false, ← after?_eq_none_iff, hafter]
      simp
    obtain ⟨rest', rfl⟩ := startsWith_iff.mp hstart
    rw [after?_append, Option.some_inj] at hafter
    rw [hafter]
  · rintro rfl
    exact after?_append lead rest

/-- A text is cut at the first place where the separator stands. -/
theorem cutAt?_eq_some_iff {sep : Char} {text before behind : List Char} :
    cutAt? sep text = some (before, behind) ↔ text = before ++ sep :: behind ∧ sep ∉ before := by
  induction text generalizing before with
  | nil => simp [cutAt?]
  | cons c rest ih =>
    by_cases hsep : c = sep
    · cases before with
      | nil => simp [cutAt?, hsep]
      | cons b before => simp [cutAt?, hsep]; rintro rfl; simp
    · cases before with
      | nil => simp [cutAt?, hsep]
      | cons b before =>
        simp only [cutAt?, hsep, if_false, Option.map_eq_some_iff, Prod.exists, Prod.mk.injEq,
          List.cons.injEq, List.cons_append, List.mem_cons, not_or]
        constructor
        · rintro ⟨before', behind', hcut, ⟨rfl, rfl⟩, rfl⟩
          obtain ⟨hrest, hfree⟩ := ih.mp hcut
          exact ⟨⟨rfl, hrest⟩, Ne.symm hsep, hfree⟩
        · rintro ⟨⟨rfl, hrest⟩, _, hfree⟩
          exact ⟨before, behind, ih.mpr ⟨hrest, hfree⟩, ⟨rfl, rfl⟩, rfl⟩

theorem cutAt?_eq_none_iff {sep : Char} {text : List Char} :
    cutAt? sep text = none ↔ sep ∉ text := by
  induction text with
  | nil => simp [cutAt?]
  | cons c rest ih =>
    by_cases hsep : c = sep
    · simp [cutAt?, hsep]
    · simp [cutAt?, hsep, ih, Ne.symm hsep]

/-- There is something before the last mark exactly if there is a mark. -/
theorem isSome_beforeLastChars?_iff {mark text : List Char} :
    (beforeLastChars? mark text).isSome = true ↔ mark <:+: text := by
  induction text with
  | nil => cases mark <;> simp [beforeLastChars?]
  | cons c rest ih =>
    rw [List.infix_cons_iff, ← ih, beforeLastChars?]
    cases hrest : beforeLastChars? mark rest with
    | some kept => simp
    | none =>
      simp only [← List.isPrefixOf_iff_prefix, Option.isSome_none, Bool.false_eq_true, or_false]
      cases mark.isPrefixOf (c :: rest) <;> simp

/-- Characters in front of a text do not change where its last mark stands. -/
theorem beforeLastChars?_append {mark text kept : List Char} (before : List Char)
    (hkept : beforeLastChars? mark text = some kept) :
    beforeLastChars? mark (before ++ text) = some (before ++ kept) := by
  induction before with
  | nil => exact hkept
  | cons c before ih => rw [List.cons_append, beforeLastChars?, ih, List.cons_append]

/-- What is kept is the longest start of the text that a mark follows. -/
theorem prefix_of_beforeLastChars? {mark text kept : List Char}
    (hkept : beforeLastChars? mark text = some kept) :
    kept ++ mark <+: text ∧ ∀ before, before ++ mark <+: text → before <+: kept := by
  induction text generalizing kept with
  | nil =>
    cases mark with
    | nil =>
      cases hkept
      exact ⟨List.nil_prefix, fun before hbefore => by simpa using hbefore⟩
    | cons m mark => cases hkept
  | cons c rest ih =>
    rw [beforeLastChars?] at hkept
    cases hrest : beforeLastChars? mark rest with
    | some further =>
      -- Wherever the mark stands in the rest, it stands behind its place at the front.
      obtain ⟨hstands, hlast⟩ := ih hrest
      rw [hrest] at hkept
      cases hkept
      refine ⟨List.cons_prefix_cons.mpr ⟨rfl, hstands⟩, fun before hbefore => ?_⟩
      cases before with
      | nil => exact List.nil_prefix
      | cons b before =>
        obtain ⟨rfl, hbehind⟩ := List.cons_prefix_cons.mp hbefore
        exact List.cons_prefix_cons.mpr ⟨rfl, hlast before hbehind⟩
    | none =>
      have hnowhere : ¬ mark <:+: rest := by
        rw [← isSome_beforeLastChars?_iff, hrest]
        simp
      rw [hrest] at hkept
      obtain ⟨hstands, hnil⟩ := Option.ite_none_right_eq_some.mp hkept
      cases hnil
      refine ⟨List.isPrefixOf_iff_prefix.mp hstands, fun before hbefore => ?_⟩
      cases before with
      | nil => exact List.nil_prefix
      | cons b before =>
        obtain ⟨-, behind, hbehind⟩ := List.cons_prefix_cons.mp hbefore
        exact absurd ⟨before, behind, hbehind⟩ hnowhere

/-- A mark stands last behind the one part of a text that goes on from all others it stands
behind. -/
theorem beforeLastChars?_eq_some_iff {mark text kept : List Char} :
    beforeLastChars? mark text = some kept ↔
      kept ++ mark <+: text ∧ ∀ before, before ++ mark <+: text → before <+: kept := by
  refine ⟨prefix_of_beforeLastChars?, fun ⟨hstands, hlast⟩ => ?_⟩
  obtain ⟨behind, hbehind⟩ := hstands
  obtain ⟨found, hfound⟩ : ∃ found, beforeLastChars? mark text = some found := by
    rw [← Option.isSome_iff_exists, isSome_beforeLastChars?_iff]
    exact ⟨kept, behind, hbehind⟩
  obtain ⟨hstands', hlast'⟩ := prefix_of_beforeLastChars? hfound
  have hle := (hlast' kept ⟨behind, hbehind⟩).length_le
  rw [hfound, (hlast found hstands').eq_of_length_le hle]

theorem contains_iff {text mark : String} :
    contains text mark = true ↔ ∃ before behind, text = before ++ mark ++ behind := by
  rw [contains, isSome_beforeLastChars?_iff]
  constructor
  · rintro ⟨before, behind, htext⟩
    exact ⟨String.ofList before, String.ofList behind, String.toList_inj.mp (by simp [← htext])⟩
  · rintro ⟨before, behind, rfl⟩
    exact ⟨before.toList, behind.toList, by simp⟩

theorem beforeLast?_eq_none_iff {text mark : String} :
    beforeLast? mark text = none ↔ contains text mark = false := by
  simp [beforeLast?, contains]

/-- The part of a text before the last occurrence of a mark goes on from the part before any
other. -/
theorem beforeLast?_eq_some_iff {text mark kept : String} :
    beforeLast? mark text = some kept ↔ (∃ behind, text = kept ++ mark ++ behind) ∧
      ∀ before behind, text = before ++ mark ++ behind → ∃ more, kept = before ++ more := by
  have hchars : beforeLast? mark text = some kept ↔
      beforeLastChars? mark.toList text.toList = some kept.toList := by
    rw [beforeLast?, Option.map_eq_some_iff]
    constructor
    · rintro ⟨chars, hkept, rfl⟩
      rw [hkept, String.toList_ofList]
    · exact fun hkept => ⟨kept.toList, hkept, String.ofList_toList⟩
  rw [hchars, beforeLastChars?_eq_some_iff, ← String.toList_append, toList_prefix_iff]
  refine and_congr_right fun _ => ?_
  constructor
  · intro hlast before behind htext
    refine toList_prefix_iff.mp (hlast before.toList ?_)
    rw [← String.toList_append]
    exact toList_prefix_iff.mpr ⟨behind, htext⟩
  · intro hlast chars hstands
    obtain ⟨before, rfl⟩ : ∃ before : String, before.toList = chars :=
      ⟨String.ofList chars, String.toList_ofList⟩
    rw [← String.toList_append] at hstands
    obtain ⟨behind, htext⟩ := toList_prefix_iff.mp hstands
    exact toList_prefix_iff.mpr (hlast before behind htext)

theorem pieces_append {sep : Char} {first : List Char} (hfirst : sep ∉ first) (rest : List Char) :
    pieces sep (first ++ sep :: rest) = first :: pieces sep rest := by
  induction first with
  | nil => simp [pieces]
  | cons c first ih =>
    obtain ⟨hc, hfirst⟩ := not_or.mp (mt List.mem_cons.mpr hfirst)
    rw [List.cons_append, pieces, if_neg (Ne.symm hc), ih hfirst]

/-- Up to the first separator stands the first piece. -/
theorem split_append {first : String} (hfirst : '/' ∉ first.toList) (rest : String) :
    split '/' (first ++ "/" ++ rest) = first :: split '/' rest := by
  have hchars : (first ++ "/" ++ rest).toList = first.toList ++ '/' :: rest.toList := by simp
  rw [split, hchars, pieces_append hfirst, List.map_cons, String.ofList_toList, split]

end LinkRelay.Text
