import LinkRelay.Proofs.BuildScript.Merge

namespace LinkRelay.BuildScript

theorem findCompanion_warns (directory : Path) (start : String) (disk : Disk) :
    (findCompanion directory start).Warns disk [] (findCompanion directory start disk).answer :=
  (findCompanion_quiet directory start).warns
    (findCompanion_logs (fun _ => show Log.Level.debug ≠ .warning by decide) directory start) disk

theorem parse_warns (f : Format) (logger : String) (path : Path) (disk : Disk) :
    (f.parse logger path).Warns disk [] (f.parse logger path disk).answer :=
  (parse_quiet f logger path).warns
    (parse_logs (fun _ => show Log.Level.debug ≠ .warning by decide)
      (fun _ => show Log.Level.info ≠ .warning by decide) f path) disk

namespace Layout

/-- What is lacking on the way to an output file, and the text that says so. -/
inductive Lacks (layout : Layout) (disk : Disk) (target : Path) : String → Prop
  | build : ¬ disk.HasDirectory (layout.buildPath target) →
      Lacks layout disk target s!"Build directory does not exist: {layout.buildPath target}"
  | companion : disk.HasDirectory (layout.buildPath target) →
      (∀ name, ¬ layout.Companion disk target name) →
      Lacks layout disk target
        s!"No {layout.companionStart}* directory found in {layout.buildPath target}"
  | output {name : String} : layout.Companion disk target name →
      ¬ disk.HasFile (layout.outputPath target name) →
      Lacks layout disk target
        s!"Build output file does not exist: {layout.outputPath target name}"

variable {layout : Layout} {logger : String} {disk : Disk} {target : Path}

/-- The lookup warns once if it finds nothing, and not at all if it finds the output file or meets a
name that is too long. -/
theorem locate_warns_cases (layout : Layout) (logger : String) (target : Path) (disk : Disk) :
    (∃ fault, (layout.locate logger target).Warns disk [] (.error fault)) ∨
    (∃ source, (layout.locate logger target).Warns disk [] (.ok (some source))) ∨
    ∃ text, layout.Lacks disk target text ∧
      (layout.locate logger target).Warns disk [⟨.warning, logger, text⟩] (.ok none) := by
  have hasked : (Step.look fun disk => disk.isDirectory (layout.buildPath target)).Warns disk []
      (disk.isDirectory (layout.buildPath target)) := .look _ disk
  obtain ⟨-, hbuild⟩ | ⟨hdirectory, hbuild⟩ | ⟨-, hnone, hbuild⟩ :=
    disk.isDirectory_cases (layout.buildPath target) <;> rw [hbuild] at hasked
  · exact Or.inl ⟨_, hasked.bind_error⟩
  · have hfind := findCompanion_warns (layout.buildPath target) layout.companionStart disk
    obtain ⟨name, hname, -, hfound⟩ | ⟨hcandidates, hfound⟩ | ⟨name, -, -, hfound⟩ :=
      answer_findCompanion_cases hdirectory <;> rw [hfound] at hfind
    · have hread : (Step.look fun disk => disk.isFile (layout.outputPath target name)).Warns disk []
          (disk.isFile (layout.outputPath target name)) := .look _ disk
      obtain ⟨-, hfile⟩ | ⟨-, hfile⟩ | ⟨-, hnone, hfile⟩ :=
        disk.isFile_cases (layout.outputPath target name) <;> rw [hfile] at hread
      · exact Or.inl ⟨_, hasked.calm_bind (hfind.calm_bind hread.bind_error)⟩
      · exact Or.inr (Or.inl ⟨layout.outputPath target name,
          hasked.calm_bind (hfind.calm_bind (hread.calm_bind (.pure _ disk)))⟩)
      · exact Or.inr (Or.inr ⟨_, .output hname hnone,
          hasked.calm_bind (hfind.calm_bind (hread.calm_bind (.warning_bind (.pure _ disk))))⟩)
    · refine Or.inr (Or.inr ⟨_, .companion hdirectory fun name hname => ?_,
        hasked.calm_bind (hfind.calm_bind (.warning_bind (.pure _ disk)))⟩)
      exact (hcandidates name hname.1).1 hname.2
    · exact Or.inl ⟨_, hasked.calm_bind hfind.bind_error⟩
  · exact Or.inr (Or.inr ⟨_, .build hnone, hasked.calm_bind (.warning_bind (.pure _ disk))⟩)

theorem locate_warns_of_some {source : Path}
    (hlocate : (layout.locate logger target disk).answer = .ok (some source)) :
    (layout.locate logger target).Warns disk [] (.ok (some source)) := by
  obtain ⟨fault, hwarns⟩ | ⟨found, hwarns⟩ | ⟨text, -, hwarns⟩ :=
    locate_warns_cases layout logger target disk <;>
    cases hlocate.symm.trans hwarns.answer_eq
  exact hwarns

/-- Finding none gives one warning, of the first thing that is lacking. -/
theorem locate_warns_of_none (hlocate : (layout.locate logger target disk).answer = .ok none) :
    ∃ text, layout.Lacks disk target text ∧
      (layout.locate logger target).Warns disk [⟨.warning, logger, text⟩] (.ok none) := by
  obtain ⟨fault, hwarns⟩ | ⟨found, hwarns⟩ | ⟨text, hlacks, hwarns⟩ :=
    locate_warns_cases layout logger target disk <;>
    cases hlocate.symm.trans hwarns.answer_eq
  exact ⟨text, hlacks, hwarns⟩

end Layout

/-- What is lacking on the way to the arguments of a build script, and the text that says so. -/
inductive Lacks (disk : Disk) (target : Path) : String → Prop
  | output {text : String} : Layout.usual.Lacks disk target text → Lacks disk target text
  | text {source : Path} {fault : Fault} {cause : ReadError} :
      Layout.usual.OutputFile disk target source → disk.readText source = .error fault →
      fault.readError? = some cause →
      Lacks disk target s!"Failed to read ESP-IDF link args: {cause.message}"
  | arguments {source : Path} {text : String} : Output disk (some target) source text →
      (Format.usual.directives (Text.lines text)).arguments = [] →
      Lacks disk target "No ESP-IDF link args found in output file"

/-- Directives without an argument are warned of, whatever else they set. -/
theorem applyDirectives_warns (tokens : List String) (directory : Option String) (source : Path)
    (d : Directives) (disk : Disk) :
    (applyDirectives tokens directory source d).Warns disk
      (if d.arguments = [] then
        [⟨.warning, mergeLogger, "No ESP-IDF link args found in output file"⟩] else [])
      (.ok ⟨tokens ++ d.arguments, d.directory.or directory, some source⟩) := by
  obtain ⟨arguments, asked, linker⟩ := d
  cases arguments with
  | nil => cases asked <;> exact ⟨rfl, rfl, rfl⟩
  | cons first rest => cases asked <;> exact ⟨rfl, rfl, rfl⟩

/-- What comes of a merge depends on the tokens and the directory of the link in one way: it leaves
them alone, or it adds to them what the directives of the output file ask for. -/
theorem merge_warns_cases {disk : Disk} {target : Path} (hfree : ¬ Blocked disk (some target)) :
    (∃ text, Lacks disk target text ∧ ∀ tokens directory,
      (merge tokens directory (some target)).Warns disk [⟨.warning, mergeLogger, text⟩]
        (.ok ⟨tokens, directory, none⟩)) ∨
    ∃ source text d, Output disk (some target) source text ∧
      d = Format.usual.directives (Text.lines text) ∧
      (Layout.usual.locate mergeLogger target disk).answer = .ok (some source) ∧
      ∀ tokens directory, (merge tokens directory (some target)).Warns disk
        (if d.arguments = [] then
          [⟨.warning, mergeLogger, "No ESP-IDF link args found in output file"⟩] else [])
        (.ok ⟨tokens ++ d.arguments, d.directory.or directory, some source⟩) := by
  obtain ⟨hlong, -⟩ | ⟨-, source, hsource, hlocate⟩ | ⟨-, -, hlocate⟩ :=
    Layout.usual.answer_locate_cases mergeLogger target disk
  · exact absurd ⟨target, rfl, hlong⟩ hfree
  · have hwarns := Layout.locate_warns_of_some hlocate
    have hparse := parse_warns Format.usual mergeLogger source disk
    rw [answer_parse] at hparse
    cases hread : disk.readText source with
    | ok text =>
      rw [hread] at hparse
      refine Or.inr ⟨source, text, _, ⟨target, rfl, hsource, hread⟩, rfl, hlocate,
        fun tokens directory => ?_⟩
      exact .info_bind (hwarns.calm_bind (.debug_bind
        (hparse.attempt.calm_bind (applyDirectives_warns ..))))
    | error fault =>
      rw [hread] at hparse
      obtain ⟨bytes, executable, hstat⟩ := hsource.hasFile
      obtain ⟨cause, hcause⟩ := Disk.readText_fault hstat hread
      refine Or.inl ⟨_, .text hsource hread hcause, fun tokens directory => ?_⟩
      refine .info_bind (hwarns.calm_bind (.debug_bind (hparse.attempt.calm_bind ?_)))
      simp only [Functor.map, Except.map, hcause]
      exact .warning_bind (.pure _ disk)
  · obtain ⟨text, hlacks, hwarns⟩ := Layout.locate_warns_of_none hlocate
    exact Or.inl ⟨text, .output hlacks, fun tokens directory =>
      .info_bind (hwarns.bind_ok (.pure _ disk))⟩

/-- What a build script contributes to a link, arguments and a directory, is settled by the disk and
the target directory. The arguments go behind the tokens, whatever tokens there are, and the
directory in place of the one there is; without a source there are neither. A merge warns once if
there are no arguments, of the thing that is lacking, and never if there are some. A name that is
too long ends the merge of any tokens, and without a target directory nothing is done at all. -/
theorem merge_appends (disk : Disk) :
    (∀ target,
      (Blocked disk (some target) ∧ ∀ tokens directory, ∃ path : Path,
        (merge tokens directory (some target) disk).answer =
          .error (.system ⟨some 36, "File name too long", some path.toString⟩)) ∨
      ∃ (arguments : List String) (asked : Option String) (source : Option Path),
        (source = none → arguments = [] ∧ asked = none) ∧
        (∀ file, source = some file →
          (Layout.usual.locate mergeLogger target disk).answer = .ok (some file)) ∧
        (∀ tokens directory, (merge tokens directory (some target) disk).answer =
          .ok ⟨tokens ++ arguments, asked.or directory, source⟩) ∧
        (arguments = [] → ∃ text, Lacks disk target text ∧ ∀ tokens directory,
          (merge tokens directory (some target) disk).warnings =
            [⟨.warning, mergeLogger, text⟩]) ∧
        (arguments ≠ [] → ∀ tokens directory,
          (merge tokens directory (some target) disk).warnings = [])) ∧
    ∀ tokens directory,
      merge tokens directory none disk = ⟨[], disk, .ok ⟨tokens, directory, none⟩⟩ := by
  refine ⟨fun target => ?_, fun tokens directory => rfl⟩
  by_cases hblocked : Blocked disk (some target)
  · exact Or.inl ⟨hblocked, fun tokens directory =>
      answer_merge_of_blocked tokens directory hblocked⟩
  · obtain ⟨text, hlacks, hwarns⟩ | ⟨source, text, d, houtput, hd, hlocate, hwarns⟩ :=
      merge_warns_cases hblocked
    · refine Or.inr ⟨[], none, none, fun _ => ⟨rfl, rfl⟩, by simp, ?_, ?_, by simp⟩
      · intro tokens directory
        rw [(hwarns tokens directory).answer_eq, List.append_nil, Option.none_or]
      · exact fun _ => ⟨text, hlacks, fun tokens directory => (hwarns tokens directory).warnings_eq⟩
    · refine Or.inr ⟨d.arguments, d.directory, some source, by simp, ?_, ?_, ?_, ?_⟩
      · rintro file ⟨⟩
        exact hlocate
      · exact fun tokens directory => (hwarns tokens directory).answer_eq
      · intro hnone
        refine ⟨_, .arguments houtput (hd ▸ hnone), fun tokens directory => ?_⟩
        rw [(hwarns tokens directory).warnings_eq, if_pos hnone]
      · intro hsome tokens directory
        rw [(hwarns tokens directory).warnings_eq, if_neg hsome]

end LinkRelay.BuildScript
