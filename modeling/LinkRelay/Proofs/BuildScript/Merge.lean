import LinkRelay.BuildScript.Merge
import LinkRelay.Proofs.BuildScript.Directive
import LinkRelay.Proofs.BuildScript.Location
import LinkRelay.Proofs.TargetDirectory

namespace LinkRelay.BuildScript

/-- An output file below a target directory, with its text. -/
def Output (disk : Disk) (target : Option Path) (source : Path) (text : String) : Prop :=
  ∃ t, target = some t ∧ Layout.usual.OutputFile disk t source ∧ disk.readText source = .ok text

/-- A name that is too long stands in the way of the lookup below a target directory. -/
def Blocked (disk : Disk) (target : Option Path) : Prop :=
  ∃ t, target = some t ∧ Layout.usual.MeetsOverlong disk t

/-- What the build script below a target directory contributes to a link, and the file that says
so. -/
inductive Contributes (disk : Disk) (target : Option Path) : Option Path → Directives → Prop
  | read {source : Path} {text : String} : Output disk target source text →
      Contributes disk target (some source) (Format.usual.directives (Text.lines text))
  | nothing : (∀ source text, ¬ Output disk target source text) →
      Contributes disk target none ⟨[], none, none⟩

/-- No argument that is contributed starts as a control flag does. -/
theorem Contributes.not_startsWith_flagStart {disk : Disk} {target source : Option Path}
    {d : Directives} (hd : Contributes disk target source d) :
    ∀ argument ∈ d.arguments, ¬ Text.startsWith argument ControlFlag.flagStart = true := by
  cases hd with
  | read _ => exact fun argument => not_startsWith_of_mem_arguments Format.usual
  | nothing _ => simp

/-- Without a target directory nothing is contributed. -/
theorem Contributes.eq_of_none {disk : Disk} {source : Option Path} {d : Directives}
    (hd : Contributes disk none source d) : d = ⟨[], none, none⟩ := by
  cases hd with
  | read houtput =>
    obtain ⟨t, ht, -⟩ := houtput
    cases ht
  | nothing _ => rfl

theorem applyDirectives_quiet (tokens : List String) (directory : Option String) (source : Path)
    (d : Directives) : (applyDirectives tokens directory source d).Quiet := by
  refine .bind (.log ..) fun _ => ?_
  obtain ⟨arguments, asked, linker⟩ := d
  cases asked with
  | none =>
    cases arguments <;> exact .bind (.log ..) fun _ => .pure _
  | some path =>
    cases arguments <;> exact .bind (.log ..) fun _ => .bind (.log ..) fun _ => .pure _

/-- Arguments come behind the tokens, and a directory that is set replaces the one that was asked
for. -/
theorem answer_applyDirectives (tokens : List String) (directory : Option String) (source : Path)
    (d : Directives) (disk : Disk) : (applyDirectives tokens directory source d disk).answer =
      .ok ⟨tokens ++ d.arguments, d.directory.or directory, some source⟩ := by
  obtain ⟨arguments, asked, linker⟩ := d
  cases arguments <;> cases asked <;> rfl

/-- Merging reads the disk and does nothing else. -/
theorem merge_quiet (tokens : List String) (directory : Option String) (target : Option Path) :
    (merge tokens directory target).Quiet := by
  cases target with
  | none => exact .pure _
  | some target =>
    refine .bind (.log ..) fun _ => .bind (Layout.locate_quiet ..) fun located => ?_
    cases located with
    | none => exact .pure _
    | some source =>
      refine .bind (.log ..) fun _ => .attempt_bind (parse_quiet ..) (fun d => ?_)
        (fun fault hfault => ?_)
      · exact applyDirectives_quiet ..
      · cases hcause : fault.readError? with
        | some cause => simp only [hcause]; exact .bind (.log ..) fun _ => .pure _
        | none => simp only [hcause]; exact .fail hfault

/-- A merge adds what the build script contributes, or meets a name that is too long. -/
theorem answer_merge_cases (tokens : List String) (directory : Option String)
    (target : Option Path) (disk : Disk) :
    (Blocked disk target ∧ ∃ path : Path, (merge tokens directory target disk).answer =
      .error (Refusal.nameTooLong.fault path.toString)) ∨
    (¬ Blocked disk target ∧ ∃ source d, Contributes disk target source d ∧
      (merge tokens directory target disk).answer =
        .ok ⟨tokens ++ d.arguments, d.directory.or directory, source⟩) := by
  cases target with
  | none =>
    refine Or.inr ⟨?_, none, _, .nothing ?_, by rw [List.append_nil]; rfl⟩
    · rintro ⟨t, ht, -⟩
      cases ht
    · rintro source text ⟨t, ht, -⟩
      cases ht
  | some target =>
    have hblocked : Blocked disk (some target) ↔ Layout.usual.MeetsOverlong disk target := by
      simp [Blocked]
    rw [merge]
    simp only [Step.answer_log_bind, Step.info]
    rw [(Layout.locate_quiet ..).answer_bind, hblocked]
    obtain ⟨hlong, path, hlocate⟩ | ⟨hshort, source, hsource, hlocate⟩ | ⟨hshort, hnone, hlocate⟩ :=
      Layout.usual.answer_locate_cases mergeLogger target disk
    · exact Or.inl ⟨hlong, path, by rw [hlocate]; rfl⟩
    · refine Or.inr ⟨hshort, ?_⟩
      rw [hlocate, Answer.ok_bind]
      simp only [Step.debug, Step.answer_log_bind]
      rw [(Step.Quiet.attempt (parse_quiet ..)).answer_bind, Step.answer_attempt, answer_parse,
        Answer.ok_bind]
      cases hread : disk.readText source with
      | ok text =>
        exact ⟨some source, _, .read ⟨target, rfl, hsource, hread⟩, answer_applyDirectives ..⟩
      | error fault =>
        obtain ⟨bytes, executable, hstat⟩ := hsource.hasFile
        obtain ⟨cause, hcause⟩ := Disk.readText_fault hstat hread
        refine ⟨none, _, .nothing ?_, ?_⟩
        · rintro other text ⟨t, ht, hother, htext⟩
          cases ht
          rw [hother.unique hsource, hread] at htext
          cases htext
        · simp only [Functor.map, Except.map, hcause, List.append_nil]
          rfl
    · refine Or.inr ⟨hshort, none, _, .nothing ?_, by rw [hlocate, List.append_nil]; rfl⟩
      rintro source text ⟨t, ht, hsource, -⟩
      cases ht
      exact hnone source hsource

/-- A name on the way that is too long is told as it is. -/
theorem answer_merge_of_blocked (tokens : List String) (directory : Option String)
    {target : Option Path} {disk : Disk} (hblocked : Blocked disk target) :
    ∃ path : Path, (merge tokens directory target disk).answer =
      .error (.system ⟨some 36, "File name too long", some path.toString⟩) := by
  obtain ⟨-, path, hanswer⟩ | ⟨hfree, -⟩ := answer_merge_cases tokens directory target disk
  · exact ⟨path, hanswer⟩
  · exact absurd hblocked hfree

/-- A merge answers exactly where no name on the way is too long, and it then leaves a link alone
that has no readable output file; elsewhere it hands the refusal of the name on. -/
theorem merge_answers_iff_not_blocked (tokens : List String) (directory : Option String)
    (target : Option Path) (disk : Disk) :
    ((∃ merged, (merge tokens directory target disk).answer = .ok merged ∧
      ((∀ source text, ¬ Output disk target source text) → merged = ⟨tokens, directory, none⟩)) ↔
        ¬ Blocked disk target) ∧
    (Blocked disk target → ∃ path : Path, (merge tokens directory target disk).answer =
      .error (.system ⟨some 36, "File name too long", some path.toString⟩)) := by
  refine ⟨⟨?_, fun hfree => ?_⟩, answer_merge_of_blocked tokens directory⟩
  · rintro ⟨merged, hmerged, -⟩ hblocked
    obtain ⟨path, hanswer⟩ := answer_merge_of_blocked tokens directory hblocked
    rw [hanswer] at hmerged
    cases hmerged
  · obtain ⟨hblocked, -⟩ | ⟨-, source, d, hcontributes, hanswer⟩ :=
      answer_merge_cases tokens directory target disk
    · exact absurd hblocked hfree
    · refine ⟨_, hanswer, fun hnone => ?_⟩
      cases hcontributes with
      | read houtput => exact absurd houtput (hnone _ _)
      | nothing => simp

/-- A first component changes nothing about which target directory is implied. -/
private theorem infer_below {first : String} (hslash : '/' ∉ first.toList)
    (hname : first ≠ "" ∧ first ≠ ".") (disk : Disk) :
    (TargetDirectory.infer .usual [first ++ "/" ++ "target/x/debug/deps/lib.rlib"] disk).answer =
      .ok (some ⟨.relative, [first, "target", "x", "debug"]⟩) := by
  have hkept : Text.beforeLast? "/deps/" (first ++ "/" ++ "target/x/debug/deps/lib.rlib") =
      some (first ++ "/" ++ "target/x/debug") := by
    have hrest : Text.beforeLastChars? "/deps/".toList "/target/x/debug/deps/lib.rlib".toList =
        some "/target/x/debug".toList := by decide
    have hwhole := Text.beforeLastChars?_append first.toList hrest
    rw [Text.beforeLast?]
    simpa [String.toList_append, ← String.toList_inj] using hwhole
  have htarget :
      Text.contains (first ++ "/" ++ "target/x/debug/deps/lib.rlib") "/target/" = true := by
    rw [Text.contains_iff]
    exact ⟨first, "x/debug/deps/lib.rlib", by rw [String.append_assoc, String.append_assoc]; rfl⟩
  have hroot : Path.Root.ofChars (first ++ "/" ++ "target/x/debug").toList = .relative := by
    cases hchars : first.toList with
    | nil => exact absurd (String.toList_eq_nil_iff.mp hchars) hname.1
    | cons c chars =>
      have hc : c ≠ '/' := by
        rintro rfl
        exact hslash (by simp [hchars])
      simp [hchars, Path.Root.ofChars, hc]
  have hparts : Text.split '/' "target/x/debug" = ["target", "x", "debug"] := by decide
  have hpath : Path.ofString (first ++ "/" ++ "target/x/debug") =
      ⟨.relative, [first, "target", "x", "debug"]⟩ := by
    rw [Path.ofString, hroot, Text.split_append hslash, hparts]
    simp [hname]
  rw [TargetDirectory.answer_infer, TargetDirectory.candidate?]
  simp [TargetDirectory.Marks.usual, hkept, htarget, hpath]

/-- A name with one byte more than a component of a path may have. -/
def overlongName : String :=
  String.ofList (List.replicate 256 'a')

private theorem overlongName_size : overlongName.utf8ByteSize = 256 := by
  decide +kernel

private theorem not_mem_overlongName {c : Char} (hc : c ≠ 'a') : c ∉ overlongName.toList := by
  intro hmem
  have hletters : overlongName.toList = List.replicate 256 'a' := String.toList_ofList
  rw [hletters] at hmem
  exact hc (List.eq_of_mem_replicate hmem)

/-- A dependency below a directory whose name has one byte too many ends the merge in a fault,
although there is no build directory at all. -/
theorem merge_fails_on_overlong_target :
    (TargetDirectory.infer .usual [overlongName ++ "/" ++ "target/x/debug/deps/lib.rlib"]
      ⟨[], []⟩).answer = .ok (some ⟨.relative, [overlongName, "target", "x", "debug"]⟩) ∧
    ∃ path : Path, (merge [overlongName ++ "/" ++ "target/x/debug/deps/lib.rlib"] none
      (some ⟨.relative, [overlongName, "target", "x", "debug"]⟩) ⟨[], []⟩).answer =
        .error (.system ⟨some 36, "File name too long", some path.toString⟩) := by
  have hslash : '/' ∉ overlongName.toList := not_mem_overlongName (by decide)
  have hother (name : String) (hsize : name.utf8ByteSize ≠ 256) : overlongName ≠ name := by
    rintro rfl
    exact hsize overlongName_size
  have hname : overlongName ≠ "" ∧ overlongName ≠ "." :=
    ⟨hother "" (by decide), hother "." (by decide)⟩
  have hjoined : Path.join ⟨.relative, [overlongName, "target", "x", "debug"]⟩ "build" =
      ⟨.relative, [overlongName, "target", "x", "debug", "build"]⟩ := by
    have hnext : Path.ofString "build" = ⟨.relative, ["build"]⟩ := by decide
    simp [Path.join, hnext, Path.append]
  have hbuild : (Path.join ⟨.relative, [overlongName, "target", "x", "debug"]⟩ "build").toString =
      overlongName ++ "/" ++ "target/x/debug/build" := by
    simp [hjoined, Path.toString, Path.Root.toString, String.append_assoc]
  have hoverlong : Disk.Overlong ⟨[], []⟩
      (Path.join ⟨.relative, [overlongName, "target", "x", "debug"]⟩ "build") := by
    have hzero : Char.ofNat 0 ∉ (overlongName ++ "/" ++ "target/x/debug/build").toList := by
      rw [String.toList_append, String.toList_append, List.append_assoc, List.mem_append, not_or]
      exact ⟨not_mem_overlongName (by decide), by decide⟩
    have hlong : Disk.componentLimit < overlongName.utf8ByteSize := by
      rw [overlongName_size]
      decide
    rw [Disk.Overlong, hbuild, Disk.stat, Disk.walk_of_overlong_first _ rfl hzero hslash hlong]
    rfl
  exact ⟨infer_below hslash hname _,
    answer_merge_of_blocked _ none ⟨_, rfl, Or.inl hoverlong⟩⟩

end LinkRelay.BuildScript
