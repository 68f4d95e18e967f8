import LinkRelay.BuildScript.Merge
import LinkRelay.Proofs.BuildScript.Directive
import LinkRelay.Proofs.Disk.Naming

namespace LinkRelay.BuildScript

/-- The output of a build script that asks for some values: a line for each of them. -/
def Format.written (f : Format) : List String → String
  | [] => ""
  | value :: rest => f.directive ++ value ++ "\n" ++ f.written rest

/-- A value that is no marker and is not dropped. -/
def Format.Plain (f : Format) (value : String) : Prop :=
  Marker.ofString? value = none ∧ ¬ Text.startsWith value f.dropped = true

section Format

variable {f : Format}

/-- What is written is made of directives, line feeds and the values. -/
theorem mem_written {values : List String} {c : Char} (hc : c ∈ (f.written values).toList) :
    c ∈ f.directive.toList ∨ c = '\n' ∨ ∃ value ∈ values, c ∈ value.toList := by
  induction values with
  | nil => simp [Format.written] at hc
  | cons value values ih =>
    simp only [Format.written, String.toList_append, List.mem_append] at hc
    obtain ((hc | hc) | hc) | hc := hc
    · exact Or.inl hc
    · exact Or.inr (Or.inr ⟨value, List.mem_cons_self, hc⟩)
    · exact Or.inr (Or.inl (by simpa using hc))
    · obtain hc | hc | ⟨other, hother, hc⟩ := ih hc
      · exact Or.inl hc
      · exact Or.inr (Or.inl hc)
      · exact Or.inr (Or.inr ⟨other, List.mem_cons_of_mem _ hother, hc⟩)

/-- Values of one line each are written as one line each. -/
theorem lines_written (hdirective : Text.OneLine f.directive) {values : List String}
    (hvalues : ∀ value ∈ values, Text.OneLine value) :
    Text.lines (f.written values) = values.map (f.directive ++ ·) := by
  induction values with
  | nil => rfl
  | cons value values ih =>
    obtain ⟨hvalue, hvalues⟩ := List.forall_mem_cons.mp hvalues
    rw [Format.written, Text.lines_append (hdirective.append hvalue), ih hvalues, List.map_cons]

/-- Values of one line each are read back. -/
theorem values_written (hdirective : Text.OneLine f.directive) {values : List String}
    (hvalues : ∀ value ∈ values, Text.OneLine value) :
    f.values (Text.lines (f.written values)) = values := by
  rw [lines_written hdirective hvalues]
  apply values_map_directive
  intro value hvalue
  exact (hdirective.append (hvalues value hvalue)).chomp

theorem items_of_plain {values : List String} (hplain : ∀ value ∈ values, f.Plain value) :
    f.items none values = values.map .argument := by
  induction values with
  | nil => rfl
  | cons value values ih =>
    obtain ⟨⟨hmarker, hkept⟩, hplain⟩ := List.forall_mem_cons.mp hplain
    rw [Format.items, hmarker]
    simp only [if_neg hkept, ih hplain, List.map_cons]

/-- Whatever a file holds, no argument and no directory that is read from it has a character that
ends a line. -/
theorem oneLine_of_parse {logger : String} {path : Path} {disk : Disk} {d : Directives}
    (hparse : (f.parse logger path disk).answer = .ok d) {value : String}
    (hvalue : value ∈ d.arguments ∨ d.directory = some value) : Text.OneLine value := by
  rw [answer_parse] at hparse
  obtain ⟨text, -, rfl⟩ := Answer.map_eq_ok_iff.mp hparse
  exact oneLine_of_mem_values (mem_values_of_directives hvalue)

end Format

theorem ofItems_arguments (values : List String) :
    Directives.ofItems (values.map .argument) = ⟨values, none, none⟩ := by
  induction values with
  | nil => rfl
  | cons value values ih => rw [List.map_cons, Directives.ofItems_argument, ih]

theorem oneLine_directive : Text.OneLine Format.usual.directive := by
  have hdirective : Format.usual.directive = "cargo:rustc-link-arg=" := rfl
  rw [hdirective, Text.oneLine_iff_all]
  decide

/-- A value that starts in no control flag is plain. -/
theorem plain_of_not_startsWith {value : String}
    (hflag : ¬ Text.startsWith value ControlFlag.flagStart = true) : Format.usual.Plain value := by
  refine ⟨Marker.ofString?_eq_none_iff.mpr ?_, hflag⟩
  rintro m rfl
  apply hflag
  cases m <;> decide

/-- A file of lines is read as the values that the lines were written for. -/
theorem parse_of_written {values : List String} {path : Path} {disk : Disk} {executable : Bool}
    (hvalues : ∀ value ∈ values, Text.OneLine value)
    (hfile : disk.stat path.toString =
      .ok (.file (Utf8.encode (Format.usual.written values)) executable)) (logger : String) :
    (Format.usual.parse logger path disk).answer =
      .ok (.ofItems (Format.usual.items none values)) := by
  have hreturn : '\r' ∉ (Format.usual.written values).toList := by
    intro hmem
    obtain hc | hc | ⟨value, hvalue, hc⟩ := mem_written hmem
    · exact oneLine_directive _ hc rfl
    · cases hc
    · exact hvalues value hvalue _ hc rfl
  rw [answer_parse, Disk.readText_of_file hfile hreturn]
  simp only [Functor.map, Except.map, Format.directives, values_written oneLine_directive hvalues]

/-- Arguments that do not start as a flag are read back as they were written, with a directory in
front of them or without, exactly if none of these texts holds a character that ends a line. Besides
the line feed and the carriage return there are eight more such characters. -/
theorem parse_written_iff {arguments : List String} {directory : String} {path : Path} {disk : Disk}
    {executable : Bool}
    (hflags : ∀ argument ∈ arguments, ¬ Text.startsWith argument "--ldproxy" = true)
    (logger : String) :
    (disk.stat path.toString =
        .ok (.file (Utf8.encode (Format.usual.written arguments)) executable) →
      ((Format.usual.parse logger path disk).answer = .ok ⟨arguments, none, none⟩ ↔
        ∀ argument ∈ arguments, Text.OneLine argument)) ∧
    (disk.stat path.toString = .ok (.file (Utf8.encode
        (Format.usual.written ("--ldproxy-cwd" :: directory :: arguments))) executable) →
      ((Format.usual.parse logger path disk).answer = .ok ⟨arguments, some directory, none⟩ ↔
        Text.OneLine directory ∧ ∀ argument ∈ arguments, Text.OneLine argument)) := by
  have hitems : Format.usual.items none arguments = arguments.map .argument :=
    items_of_plain fun argument hargument => plain_of_not_startsWith (hflags argument hargument)
  constructor
  · intro hfile
    constructor
    · intro hparse argument hargument
      exact oneLine_of_parse hparse (Or.inl hargument)
    · intro hlines
      rw [parse_of_written hlines hfile, hitems, ofItems_arguments]
  · intro hfile
    constructor
    · intro hparse
      refine ⟨oneLine_of_parse hparse (Or.inr rfl), fun argument hargument => ?_⟩
      exact oneLine_of_parse hparse (Or.inl hargument)
    · rintro ⟨hdirectory, hlines⟩
      have hmarker : Text.OneLine "--ldproxy-cwd" := by
        rw [Text.oneLine_iff_all]
        decide
      have hvalues : ∀ value ∈ "--ldproxy-cwd" :: directory :: arguments, Text.OneLine value :=
        List.forall_mem_cons.mpr ⟨hmarker, List.forall_mem_cons.mpr ⟨hdirectory, hlines⟩⟩
      have hprefixed : Format.usual.items none ("--ldproxy-cwd" :: directory :: arguments) =
          .marker .directory :: .payload .directory directory :: arguments.map .argument := by
        rw [← hitems]
        rfl
      rw [parse_of_written hvalues hfile, hprefixed, Directives.ofItems_payload,
        ofItems_arguments]
      rfl

/-- A disk on which a build script has asked for something. -/
def writtenDisk (values : List String) : Disk where
  nodes := [(["output"], .file (Utf8.encode (Format.usual.written values)) false)]
  here := []

private theorem stat_writtenDisk (values : List String) :
    (writtenDisk values).stat (Path.toString ⟨.relative, ["output"]⟩) =
      .ok (.file (Utf8.encode (Format.usual.written values)) false) :=
  rfl

/-- Blanks inside a value and an empty value come back, also behind a directory that is set. -/
theorem parse_written_iff_spaced :
    (Format.usual.parse mergeLogger ⟨.relative, ["output"]⟩
      (writtenDisk ["-T x.ld", ""])).answer = .ok ⟨["-T x.ld", ""], none, none⟩ ∧
    (Format.usual.parse mergeLogger ⟨.relative, ["output"]⟩
      (writtenDisk ["--ldproxy-cwd", "/work dir", "-T x.ld", ""])).answer =
        .ok ⟨["-T x.ld", ""], some "/work dir", none⟩ := by
  have hflags : ∀ argument ∈ ["-T x.ld", ""],
      ¬ Text.startsWith argument "--ldproxy" = true := by decide
  have hlines : Text.OneLine "/work dir" ∧ ∀ argument ∈ ["-T x.ld", ""], Text.OneLine argument := by
    simp only [Text.oneLine_iff_all]
    decide
  constructor
  · exact ((@parse_written_iff _ "" _ _ _ hflags mergeLogger).1 (stat_writtenDisk _)).mpr hlines.2
  · exact ((parse_written_iff hflags mergeLogger).2 (stat_writtenDisk _)).mpr hlines

/-- An argument ends at a vertical tab, and what follows it is lost. -/
theorem parse_cuts_at_vertical_tab :
    ¬ ('\n' ∈ "-Wl,-a\x0bb".toList ∨ '\r' ∈ "-Wl,-a\x0bb".toList ∨
      Text.startsWith "-Wl,-a\x0bb" "--ldproxy" = true) ∧
    (writtenDisk ["-Wl,-a\x0bb"]).stat (Path.toString ⟨.relative, ["output"]⟩) =
      .ok (.file (Utf8.encode (Format.usual.written ["-Wl,-a\x0bb"])) false) ∧
    (Format.usual.parse mergeLogger ⟨.relative, ["output"]⟩ (writtenDisk ["-Wl,-a\x0bb"])).answer =
      .ok ⟨["-Wl,-a"], none, none⟩ := by
  refine ⟨by decide, stat_writtenDisk _, ?_⟩
  decide +kernel

end LinkRelay.BuildScript
