import LinkRelay.Proofs.Disk.File
import LinkRelay.Proofs.Path
import LinkRelay.Proofs.Text.Newline
import LinkRelay.Proofs.Text.Utf8

namespace LinkRelay.Disk

theorem enter_idle {disk : Disk} {loc : Location} {part : String}
    (hloc : disk.node? loc = some .directory) (hidle : Path.IsIdle part) :
    disk.enter loc part = .ok loc := by
  obtain rfl | rfl := hidle <;> simp [enter, hloc]

/-- A component leads on from directories only. -/
theorem directory_of_enter {disk : Disk} {loc loc' : Location} {part : String}
    (henter : disk.enter loc part = .ok loc') : disk.node? loc = some .directory := by
  rw [enter] at henter
  split at henter
  · cases henter
  · assumption
  · cases henter

/-- Components that say nothing, in front of others, leave a walk where it is. -/
theorem foldlM_enter_idle {disk : Disk} {loc : Location} {idle : List String}
    (hloc : disk.node? loc = some .directory) (hidle : ∀ part ∈ idle, Path.IsIdle part)
    (parts : List String) :
    (idle ++ parts).foldlM disk.enter loc = parts.foldlM disk.enter loc := by
  induction idle with
  | nil => rfl
  | cons part idle ih =>
    obtain ⟨hpart, hidle⟩ := List.forall_mem_cons.mp hidle
    rw [List.cons_append, List.foldlM_cons, enter_idle hloc hpart, Answer.ok_bind]
    exact ih hidle

/-- Leaving out components that say nothing, a walk leads where it led. -/
theorem foldlM_enter_filter {disk : Disk} {keeps : String → Bool}
    (hkeeps : ∀ part, keeps part = false → Path.IsIdle part) {parts : List String}
    {start loc : Location} (hparts : parts.foldlM disk.enter start = .ok loc) :
    (parts.filter keeps).foldlM disk.enter start = .ok loc := by
  induction parts generalizing start with
  | nil => exact hparts
  | cons part parts ih =>
    rw [List.foldlM_cons] at hparts
    obtain ⟨next, henter, hparts⟩ := Answer.bind_eq_ok_iff.mp hparts
    cases hpart : keeps part with
    | true =>
      rw [List.filter_cons_of_pos hpart, List.foldlM_cons, henter]
      exact ih hparts
    | false =>
      rw [enter_idle (directory_of_enter henter) (hkeeps part hpart)] at henter
      cases henter
      rw [List.filter_cons_of_neg (by simp [hpart])]
      exact ih hparts

/-- The path that a text names is no longer than the text, and as good a name. -/
theorem nameable_toString_ofString {text : String} (hzero : Char.ofNat 0 ∉ text.toList)
    (hlong : text.utf8ByteSize < nameLimit) :
    Char.ofNat 0 ∉ (Path.ofString text).toString.toList ∧
      (Path.ofString text).toString.utf8ByteSize < nameLimit := by
  obtain hdot | hsublist := Path.toString_ofString_cases text
  · rw [hdot]
    exact ⟨by decide, by decide⟩
  · have hsize := String.utf8Len_le_of_sublist hsublist
    rw [String.utf8Len_toList, String.utf8Len_toList] at hsize
    exact ⟨fun hmem => hzero (hsublist.subset hmem), Nat.lt_of_le_of_lt hsize hlong⟩

/-- A path leads where the text leads that it was read from. -/
theorem walk_ofString {disk : Disk} {text : String} {loc : Location}
    (hwalk : disk.walk text = .ok loc) : disk.walk (Path.ofString text).toString = .ok loc := by
  obtain ⟨hzero, hlong, hempty, hparts⟩ := walk_eq_ok_iff.mp hwalk
  obtain ⟨hzero', hlong'⟩ := nameable_toString_ofString hzero hlong
  obtain ⟨idle, hsplit, hidle⟩ := Path.exists_split_toString
    fun part (hpart : part ∈ (Path.ofString text).parts) => (Path.mem_parts_ofString hpart).1
  have hstart : Text.startsWith (Path.ofString text).toString "/" = Text.startsWith text "/" := by
    rw [Bool.eq_iff_iff, Path.startsWith_toString fun part => Path.mem_parts_ofString,
      Path.startsWith_iff_root]
  -- A walk enters one component at least, be it an empty one, and only a directory is entered.
  have hdirectory : disk.node? (if Text.startsWith text "/" then [] else disk.here) =
      some .directory := by
    cases hpieces : Text.split '/' text with
    | nil => exact absurd hpieces (Text.split_ne_nil '/' text)
    | cons part others =>
      rw [hpieces, List.foldlM_cons] at hparts
      obtain ⟨next, henter, -⟩ := Answer.bind_eq_ok_iff.mp hparts
      exact directory_of_enter henter
  refine walk_eq_ok_iff.mpr ⟨hzero', hlong',
    Path.toString_ne_empty fun part hpart => (Path.mem_parts_ofString hpart).2, ?_⟩
  rw [hstart, hsplit, foldlM_enter_idle hdirectory hidle]
  exact foldlM_enter_filter (by
    intro part hpart
    simpa [Path.IsIdle, Decidable.or_iff_not_imp_left] using hpart) hparts

/-- A path leads to what its text leads to. -/
theorem stat_ofString {disk : Disk} {text : String} {node : Node}
    (hstat : disk.stat text = .ok node) : disk.stat (Path.ofString text).toString = .ok node := by
  obtain ⟨loc, hwalk, hnode⟩ := stat_eq_ok_iff.mp hstat
  exact stat_eq_ok_iff.mpr ⟨loc, walk_ofString hwalk, hnode⟩

theorem readText_of_directory {disk : Disk} {path : Path}
    (hstat : disk.stat path.toString = .ok .directory) :
    disk.readText path = .error (Refusal.isDirectory.fault path.toString) := by
  rw [readText, read, hstat]
  rfl

/-- A file whose bytes are no text is told by the first flaw in them. -/
theorem readText_of_notText {disk : Disk} {path : Path} {bytes : List UInt8} {executable : Bool}
    {flaw : Utf8.Fault} (hstat : disk.stat path.toString = .ok (.file bytes executable))
    (hflaw : Utf8.decode bytes = .error flaw) : disk.readText path = .error (.notText flaw) := by
  rw [readText, read, hstat, Answer.ok_bind, Answer.mapError_ok, Answer.ok_bind, hflaw]
  rfl

/-- What swallows everything has nothing to be read. -/
theorem readText_of_sink {disk : Disk} {path : Path} (hstat : disk.stat path.toString = .ok .sink) :
    disk.readText path = .ok "" := by
  rw [readText, read, hstat, Answer.ok_bind, Answer.mapError_ok, Answer.ok_bind,
    Utf8.decode_eq_ok_iff.mpr (show Utf8.encode "" = [] by rfl), Answer.mapError_ok,
    Answer.ok_bind]
  exact congrArg Except.ok (Text.unified_eq_self_iff.mpr (by decide))

/-- A file is read as the text that it was written with, but for its line ends. -/
theorem readText_of_encoded {disk : Disk} {path : Path} {text : String} {executable : Bool}
    (hstat : disk.stat path.toString = .ok (.file (Utf8.encode text) executable)) :
    disk.readText path = .ok (Text.unified text) := by
  rw [readText, read, hstat, Answer.ok_bind, Answer.mapError_ok, Answer.ok_bind,
    Utf8.decode_eq_ok_iff.mpr rfl, Answer.mapError_ok, Answer.ok_bind]
  rfl

/-- A file whose text has no carriage return is read as it was written. -/
theorem readText_of_file {disk : Disk} {path : Path} {text : String} {executable : Bool}
    (hstat : disk.stat path.toString = .ok (.file (Utf8.encode text) executable))
    (hreturn : '\r' ∉ text.toList) : disk.readText path = .ok text := by
  rw [readText_of_encoded hstat, Text.unified_eq_self_iff.mpr hreturn]

end LinkRelay.Disk
