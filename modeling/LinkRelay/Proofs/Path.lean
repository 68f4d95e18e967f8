import LinkRelay.Proofs.Text.Pieces
import LinkRelay.Path
import Mathlib.Data.String.Basic

namespace LinkRelay.Path

/-- Apart from dots and slashes, a path in writing holds the characters of its parts. -/
theorem mem_toString_iff {path : Path} {c : Char} (hdot : c ≠ '.') (hslash : c ≠ '/') :
    c ∈ path.toString.toList ↔ ∃ part ∈ path.parts, c ∈ part.toList := by
  have hroot : c ∉ path.root.toString.toList := by
    cases path.root <;> simp [Root.toString, hslash]
  rw [toString]
  split
  · rename_i hempty
    have hparts : path.parts = [] := by simpa using (Bool.and_eq_true_iff.mp hempty).2
    simp [hdot, hparts]
  · rw [String.toList_append, List.mem_append, or_iff_right hroot]
    exact Text.mem_intercalate_iff rfl hslash

/-- A text that is neither empty nor a dot, and holds no slash, names itself as one component. -/
theorem ofString_of_component {text : String} (hslash : '/' ∉ text.toList) (hempty : text ≠ "")
    (hdot : text ≠ ".") : ofString text = ⟨.relative, [text]⟩ := by
  have hroot : Root.ofChars text.toList = .relative := by
    cases hchars : text.toList with
    | nil => rfl
    | cons c chars =>
      have hc : c ≠ '/' := by
        rintro rfl
        exact hslash (by simp [hchars])
      simp [Root.ofChars, hc]
  simp [ofString, Text.split_of_not_mem hslash, hroot, hempty, hdot]

/-- A component that says nothing. -/
def IsIdle (part : String) : Prop :=
  part = "" ∨ part = "."

/-- No part of a path that was read holds a slash or says nothing. -/
theorem mem_parts_ofString {text part : String} (hpart : part ∈ (ofString text).parts) :
    '/' ∉ part.toList ∧ ¬ IsIdle part := by
  obtain ⟨hsplit, hkept⟩ := List.mem_filter.mp hpart
  obtain ⟨piece, hpiece, rfl⟩ := List.mem_map.mp hsplit
  rw [String.toList_ofList]
  refine ⟨Text.not_mem_of_mem_pieces hpiece, ?_⟩
  rintro (hempty | hdot)
  · simp [hempty] at hkept
  · simp [hdot] at hkept

theorem split_slash_append (text : String) :
    Text.split '/' ("/" ++ text) = "" :: Text.split '/' text := by
  have hempty : '/' ∉ "".toList := by simp
  exact Text.split_append hempty text

/-- A root in front of a text adds nothing to its pieces but idle ones. -/
theorem exists_split_root (root : Root) (text : String) :
    ∃ idle, Text.split '/' (root.toString ++ text) = idle ++ Text.split '/' text ∧
      ∀ part ∈ idle, IsIdle part := by
  cases root with
  | relative => exact ⟨[], by simp [Root.toString], by simp⟩
  | slash => exact ⟨[""], split_slash_append text, by simp [IsIdle]⟩
  | doubleSlash =>
    refine ⟨["", ""], ?_, by simp [IsIdle]⟩
    have hslashes : Root.doubleSlash.toString ++ text = "/" ++ ("/" ++ text) := by
      rw [← String.append_assoc]
      rfl
    rw [hslashes, split_slash_append, split_slash_append, List.cons_append, List.cons_append,
      List.nil_append]

/-- Parts that are written with slashes between them fall apart into the same parts. -/
theorem exists_split_intercalate {parts : List String}
    (hparts : ∀ part ∈ parts, '/' ∉ part.toList) :
    ∃ idle, Text.split '/' ("/".intercalate parts) = idle ++ parts ∧
      ∀ part ∈ idle, IsIdle part := by
  by_cases hnone : parts = []
  · subst hnone
    exact ⟨[""], rfl, by simp [IsIdle]⟩
  · exact ⟨[], Text.split_intercalate rfl hnone hparts, by simp⟩

/-- A path in writing falls apart into its parts again, after components that say nothing. -/
theorem exists_split_toString {path : Path} (hparts : ∀ part ∈ path.parts, '/' ∉ part.toList) :
    ∃ idle, Text.split '/' path.toString = idle ++ path.parts ∧ ∀ part ∈ idle, IsIdle part := by
  rw [toString]
  split
  · rename_i hempty
    have hnone : path.parts = [] := by simpa using (Bool.and_eq_true_iff.mp hempty).2
    exact ⟨["."], by rw [hnone]; rfl, by simp [IsIdle]⟩
  · obtain ⟨idle, hsplit, hidle⟩ := exists_split_root path.root ("/".intercalate path.parts)
    obtain ⟨idle', hsplit', hidle'⟩ := exists_split_intercalate hparts
    exact ⟨idle ++ idle', by rw [hsplit, hsplit', List.append_assoc],
      List.forall_mem_append.mpr ⟨hidle, hidle'⟩⟩

theorem toString_child (path : Path) (name : String) :
    (path.child name).toString =
      path.root.toString ++ "/".intercalate (path.parts ++ [name]) := by
  simp [toString, child]

theorem toString_child_of_ne_nil {path : Path} (hparts : path.parts ≠ []) (name : String) :
    (path.child name).toString = path.toString ++ "/" ++ name := by
  rw [toString_child, String.intercalate_append_of_ne_nil hparts (by simp),
    String.intercalate_singleton, toString, if_neg (by simp [hparts])]
  simp only [String.append_assoc]

/-- Whatever a path is continued by, this is the last component of it in writing. -/
theorem exists_split_child (path : Path) {name : String} (hslash : '/' ∉ name.toList) :
    ∃ front, Text.split '/' (path.child name).toString = front ++ [name] := by
  have hparts : ∃ front,
      Text.split '/' ("/".intercalate (path.parts ++ [name])) = front ++ [name] := by
    by_cases hnone : path.parts = []
    · exact ⟨[], by simpa [hnone] using Text.split_of_not_mem hslash⟩
    · refine ⟨Text.split '/' ("/".intercalate path.parts), ?_⟩
      rw [String.intercalate_append_of_ne_nil hnone (by simp), String.intercalate_singleton,
        Text.split_append_name _ hslash]
  obtain ⟨front, hfront⟩ := hparts
  obtain ⟨idle, hsplit, -⟩ :=
    exists_split_root path.root ("/".intercalate (path.parts ++ [name]))
  exact ⟨idle ++ front, by rw [toString_child, hsplit, hfront, List.append_assoc]⟩

/-- A path that is written out begins with a slash exactly if it is not relative. -/
theorem startsWith_toString {path : Path}
    (hparts : ∀ part ∈ path.parts, '/' ∉ part.toList ∧ ¬ IsIdle part) :
    Text.startsWith path.toString "/" = true ↔ path.root ≠ .relative := by
  obtain ⟨root, parts⟩ := path
  cases root with
  | relative =>
    cases parts with
    | nil => simp [toString, Text.startsWith]
    | cons part parts =>
      obtain ⟨hslash, hidle⟩ := hparts part List.mem_cons_self
      cases hchars : part.toList with
      | nil => exact absurd (Or.inl (String.toList_eq_nil_iff.mp hchars)) hidle
      | cons c chars =>
        have hc : '/' ≠ c := by
          rintro rfl
          exact hslash (by simp [hchars])
        cases parts <;>
          simp [toString, Root.toString, Text.startsWith, hchars, hc]
  | slash => simp [toString, Root.toString, Text.startsWith]
  | doubleSlash => simp [toString, Root.toString, Text.startsWith]

/-- A path without idle parts is not written as nothing at all. -/
theorem toString_ne_empty {path : Path} (hparts : ∀ part ∈ path.parts, ¬ IsIdle part) :
    path.toString ≠ "" := by
  obtain ⟨root, parts⟩ := path
  rw [ne_eq, ← String.toList_inj]
  cases root with
  | relative =>
    cases parts with
    | nil => simp [toString]
    | cons part parts =>
      have hpart : part ≠ "" := fun hempty => hparts part List.mem_cons_self (Or.inl hempty)
      cases parts <;> simp [toString, Root.toString, hpart]
  | slash => simp [toString, Root.toString]
  | doubleSlash => simp [toString, Root.toString]

/-- Whether a text names a path from the root can be seen in its first character. -/
theorem startsWith_iff_root {text : String} :
    Text.startsWith text "/" = true ↔ (ofString text).root ≠ .relative := by
  rw [Text.startsWith, ofString]
  simp only
  generalize text.toList = chars
  fun_cases Root.ofChars chars with
  | case1 rest => simp
  | case2 rest => simp
  | case3 rest => simp
  | case4 chars _ _ hslash =>
    cases chars with
    | nil => simp
    | cons c rest =>
      have hc : '/' ≠ c := by
        rintro rfl
        exact hslash rest rfl
      simp [hc]

/-- The root that a text spells and the parts that are kept are what is left of the text when
characters are left out. -/
theorem root_append_kept_sublist {keeps : List Char → Bool} (hempty : keeps [] = false)
    (chars : List Char) :
    List.Sublist ((Root.ofChars chars).toString.toList ++
      ['/'].intercalate ((Text.pieces '/' chars).filter keeps)) chars := by
  have hkept (rest : List Char) :
      List.Sublist (['/'].intercalate ((Text.pieces '/' rest).filter keeps)) rest := by
    have hsublist := Text.intercalate_filter_sublist '/' keeps (Text.pieces '/' rest)
    rwa [Text.intercalate_pieces] at hsublist
  have hslash (rest : List Char) :
      (Text.pieces '/' ('/' :: rest)).filter keeps = (Text.pieces '/' rest).filter keeps := by
    rw [Text.pieces, if_pos rfl, List.filter_cons_of_neg (by simp [hempty])]
  -- The slashes of the root are characters of the text; the empty pieces they leave are not kept.
  fun_cases Root.ofChars chars with
  | case1 rest =>
    rw [hslash]
    exact (hkept _).cons_cons '/'
  | case2 rest =>
    rw [hslash, hslash]
    exact ((hkept _).cons_cons '/').cons_cons '/'
  | case3 rest =>
    rw [hslash]
    exact (hkept _).cons_cons '/'
  | case4 chars => exact hkept chars

/-- The path that a text names is in writing either the dot or what is left of the text when
characters are left out. -/
theorem toString_ofString_cases (text : String) :
    (ofString text).toString = "." ∨
      List.Sublist (ofString text).toString.toList text.toList := by
  let keeps (piece : List Char) : Bool := String.ofList piece ≠ "" && String.ofList piece ≠ "."
  have hparts : (ofString text).parts.map String.toList =
      (Text.pieces '/' text.toList).filter keeps := by
    simp only [ofString, Text.split, List.filter_map, List.map_map]
    simp [Function.comp_def, keeps]
  by_cases hdot : ((ofString text).root = .relative && (ofString text).parts.isEmpty) = true
  · exact Or.inl (by rw [toString, if_pos hdot])
  · refine Or.inr ?_
    rw [toString, if_neg hdot, String.toList_append, String.toList_intercalate, hparts]
    exact root_append_kept_sublist (by simp [keeps]) text.toList

end LinkRelay.Path
