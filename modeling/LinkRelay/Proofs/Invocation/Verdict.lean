import LinkRelay.Proofs.Invocation.Handing

namespace LinkRelay

/-- A result that does not tell which response file was used. -/
def LinkResult.withoutFile (result : LinkResult) : LinkResult :=
  { result with responseFile := none }

namespace Invocation

/-- The bytes of some text. -/
def IsText (bytes : List UInt8) : Prop :=
  ∃ text, Utf8.encode text = bytes

/-- The answer to the end of a process. Of the rules for a process that came to an end, each applies
only where those before it do not. -/
inductive Decides (environment : Environment) (linker : String) (arguments : List String)
    (directory : Option String) (path : Option Path) :
    Except Fault Finished → Except Fault LinkResult → Prop
  | notStarted (cause : SystemError) : Decides environment linker arguments directory path
      (.error (.system cause)) (.error (.link (.linkerNotStarted linker cause)))
  | raised {fault : Fault} : (∀ cause, fault ≠ .system cause) →
      Decides environment linker arguments directory path (.error fault) (.error fault)
  | outputNotText {finished : Finished} {cause : Utf8.Fault} : ¬ IsText finished.output →
      Utf8.decode finished.output = .error cause →
      Decides environment linker arguments directory path
        (.ok finished) (.error (.link (.outputNotText .output cause)))
  | errorsNotText {finished : Finished} {cause : Utf8.Fault} : IsText finished.output →
      ¬ IsText finished.errors → Utf8.decode finished.errors = .error cause →
      Decides environment linker arguments directory path
        (.ok finished) (.error (.link (.outputNotText .errors cause)))
  | failed {finished : Finished} {errors : String} : IsText finished.output →
      Utf8.encode errors = finished.errors → finished.status ≠ 0 →
      Decides environment linker arguments directory path
        (.ok finished) (.error (.link (.linkerFailed linker finished.status errors)))
  | failureRequested {finished : Finished} : IsText finished.output → IsText finished.errors →
      finished.status = 0 → environment.has "LDPROXY_LINK_FAIL" = true →
      Decides environment linker arguments directory path
        (.ok finished) (.error (.link .failureRequested))
  | good {finished : Finished} {output errors : String} : Utf8.encode output = finished.output →
      Utf8.encode errors = finished.errors → finished.status = 0 →
      ¬ environment.has "LDPROXY_LINK_FAIL" = true →
      Decides environment linker arguments directory path
        (.ok finished) (.ok ⟨linker, arguments, directory, 0, output, errors, path⟩)

theorem not_isText_of_decode {bytes : List UInt8} {cause : Utf8.Fault}
    (hdecode : Utf8.decode bytes = .error cause) : ¬ IsText bytes := by
  rintro ⟨text, hencode⟩
  rw [Utf8.decode_eq_ok_iff.mpr hencode] at hdecode
  cases hdecode

section Verdict

variable (s : Settings) (linker : String) (arguments : List String) (directory : Option String)

theorem decides_judge (path : Option Path) (finished : Finished) :
    Decides s.environment linker arguments directory path (.ok finished)
      (judge s linker arguments directory path finished) := by
  rw [judge]
  cases houtput : Utf8.decode finished.output with
  | error cause => exact .outputNotText (not_isText_of_decode houtput) houtput
  | ok output =>
    have htext := Utf8.decode_eq_ok_iff.mp houtput
    cases herrors : Utf8.decode finished.errors with
    | error cause => exact .errorsNotText ⟨output, htext⟩ (not_isText_of_decode herrors) herrors
    | ok errors =>
      have htext' := Utf8.decode_eq_ok_iff.mp herrors
      simp only [Answer.mapError_ok, Answer.ok_bind]
      by_cases hstatus : finished.status = 0
      · rw [if_neg (not_not.mpr hstatus)]
        by_cases hfailure : s.environment.has failureVariable = true
        · rw [if_pos hfailure]
          exact .failureRequested ⟨output, htext⟩ ⟨errors, htext'⟩ hstatus hfailure
        · rw [if_neg hfailure, hstatus]
          exact .good htext htext' hstatus hfailure
      · rw [if_pos hstatus]
        exact .failed ⟨output, htext⟩ htext' hstatus

/-- The verdict on a process is the decision, however the process ended. -/
theorem decides_verdict (path : Option Path) (process : Except Fault Finished) :
    Decides s.environment linker arguments directory path process
      (verdict s linker arguments directory path process) := by
  cases process with
  | ok finished => exact decides_judge s linker arguments directory path finished
  | error fault =>
    cases fault with
    | system cause => exact .notStarted cause
    | _ => exact .raised (by intro cause h; cases h)

/-- The response file shows in the result alone. -/
theorem verdict_withoutFile (path : Option Path) (process : Except Fault Finished) :
    (verdict s linker arguments directory path process).map LinkResult.withoutFile =
      verdict s linker arguments directory none process := by
  cases process with
  | error fault => rfl
  | ok finished =>
    change (judge s linker arguments directory path finished).map _ =
      judge s linker arguments directory none finished
    rw [judge, judge]
    cases Utf8.decode finished.output with
    | error cause => rfl
    | ok output =>
      cases Utf8.decode finished.errors with
      | error cause => rfl
      | ok errors =>
        simp only [Answer.mapError_ok, Answer.ok_bind]
        split
        · rfl
        · split <;> rfl

/-- Where a response file can have its name, the linker is started exactly once, unless it is to be
handed a file that cannot list its arguments. -/
theorem run_cases_of_nameable
    (hzero : Char.ofNat 0 ∉ (s.directory.getD s.host.temporary).toString.toList) {disk : Disk}
    (hfree : ¬ StrandsFile s arguments disk) :
    ∃ path found, (run s linker arguments directory).Yields disk
      [⟨linker :: handedOver arguments path, directory, found⟩]
      (tidied path (s.host.runner (linker :: handedOver arguments path) directory found).1)
      (verdict s linker arguments directory path
        (s.host.runner (linker :: handedOver arguments path) directory found).2) := by
  obtain ⟨left, fault, hhalts, -⟩ | ⟨path, found, -, hyields⟩ :=
    run_cases s linker arguments directory disk
  · obtain ⟨hblocked, -⟩ | ⟨hstrands, -⟩ := hhalts.cases
    · exact absurd (ResponseFile.zero_mem_path_iff.mp hblocked) hzero
    · exact absurd hstrands hfree
  · exact ⟨path, found, hyields⟩

end Verdict

/-- Where a process comes to the same end however the arguments are handed over to it, so does the
invocation: the linker is started once, its end is answered by one rule, and neither the threshold
nor the response file, written or not, changes anything but the response file in a result. This
fails in one case, which an argument that holds bytes that are no text brings about above the
threshold alone: where the response file is opened and cannot be filled, the linker is not started,
and the answer is a fault that blames these bytes. -/
theorem answer_of_scripted {s : Settings} {linker : String} {arguments : List String}
    {directory : Option String} {process : Except Fault Finished}
    (hzero : Char.ofNat 0 ∉ (s.directory.getD s.host.temporary).toString.toList)
    (hscript : ∀ path disk,
      (s.host.runner (linker :: handedOver arguments path) directory disk).2 = process)
    (disk : Disk) :
    (¬ StrandsFile s arguments disk →
      ∃ path found, (run s linker arguments directory disk).calls =
          [⟨linker :: handedOver arguments path, directory, found⟩] ∧
        Decides s.environment linker arguments directory path process
          (run s linker arguments directory disk).answer) ∧
    (StrandsFile s arguments disk → (run s linker arguments directory disk).calls = [] ∧
      ∃ cause, s.host.standIns.Blames 0 (ResponseFile.text arguments).toList cause ∧
        (run s linker arguments directory disk).answer = .error (.unencodable cause)) ∧
    ∀ threshold rspDirectory disk',
      Char.ofNat 0 ∉ (rspDirectory.getD s.host.temporary).toString.toList →
      (StrandsFile { s with threshold := threshold, directory := rspDirectory } arguments disk' ↔
        StrandsFile s arguments disk) →
      (run { s with threshold := threshold, directory := rspDirectory } linker arguments directory
          disk').answer.map LinkResult.withoutFile =
        (run s linker arguments directory disk).answer.map LinkResult.withoutFile := by
  refine ⟨fun hfree => ?_, fun hstrands => ?_, fun threshold rspDirectory disk' hzero' hsame => ?_⟩
  · obtain ⟨path, found, hyields⟩ :=
      run_cases_of_nameable s linker arguments directory hzero hfree
    rw [hscript] at hyields
    refine ⟨path, found, hyields.calls_eq, ?_⟩
    rw [hyields.answer_eq]
    exact decides_verdict s linker arguments directory path process
  · obtain ⟨cause, left, hstranded, hyields⟩ := run_of_strandsFile hstrands linker directory
    exact ⟨hyields.calls_eq, cause, hstranded.blames, hyields.answer_eq⟩
  · let s' : Settings := { s with threshold := threshold, directory := rspDirectory }
    by_cases hstrands : StrandsFile s arguments disk
    · -- The fault depends on the arguments and the host alone.
      obtain ⟨cause, left, hstranded, hyields⟩ := run_of_strandsFile hstrands linker directory
      obtain ⟨cause', left', hstranded', hyields'⟩ :=
        run_of_strandsFile (hsame.mpr hstrands) linker directory
      have hcause : cause' = cause :=
        Except.error.inj (hstranded'.refused.symm.trans hstranded.refused)
      rw [hyields.answer_eq, hyields'.answer_eq, hcause]
    · obtain ⟨path, found, hyields⟩ :=
        run_cases_of_nameable s linker arguments directory hzero hstrands
      obtain ⟨path', found', hyields'⟩ :=
        run_cases_of_nameable s' linker arguments directory hzero' (mt hsame.mp hstrands)
      have hprocess :
          (s'.host.runner (linker :: handedOver arguments path') directory found').2 = process :=
        hscript path' found'
      rw [hscript] at hyields
      rw [hprocess] at hyields'
      rw [hyields.answer_eq, hyields'.answer_eq, verdict_withoutFile, verdict_withoutFile]
      rfl

/-- A process that fails and whose output is no text: the output is what counts, above the threshold
and below it. -/
theorem answer_of_scripted_not_text :
    (∃ path found, (run (scripted (.ok ⟨1, [0xFF], []⟩)) "ld" ["-la"] none temporaryDisk).calls =
        [⟨"ld" :: handedOver ["-la"] path, none, found⟩] ∧
      Decides [] "ld" ["-la"] none path (.ok ⟨1, [0xFF], []⟩)
        (run (scripted (.ok ⟨1, [0xFF], []⟩)) "ld" ["-la"] none temporaryDisk).answer) ∧
    ∀ threshold rspDirectory disk',
      Char.ofNat 0 ∉ (rspDirectory.getD ⟨.relative, ["tmp"]⟩).toString.toList →
      (run { scripted (.ok ⟨1, [0xFF], []⟩) with threshold := threshold, directory := rspDirectory }
          "ld" ["-la"] none disk').answer.map LinkResult.withoutFile =
        (run (scripted (.ok ⟨1, [0xFF], []⟩)) "ld" ["-la"] none temporaryDisk).answer.map
          LinkResult.withoutFile := by
  have hlistable : ¬ ResponseFile.Unlistable Utf8.StandIns.empty ["-la"] :=
    ResponseFile.not_unlistable_empty ["-la"]
  obtain ⟨honce, -, hsame⟩ := @answer_of_scripted (scripted (.ok ⟨1, [0xFF], []⟩)) "ld" ["-la"] none
    _ (by decide +kernel) (fun _ _ => rfl) temporaryDisk
  refine ⟨honce fun hstrands => hlistable hstrands.2, fun threshold rspDirectory disk' hzero => ?_⟩
  exact hsame threshold rspDirectory disk' hzero
    (iff_of_false (fun hstrands => hlistable hstrands.2) fun hstrands => hlistable hstrands.2)

/-- The same argument is good for a link at the threshold and for none above it, on a disk where the
response file can be written. -/
theorem answer_follows_threshold :
    (run { unfiltered (.ok ⟨0, [], []⟩) with threshold := 1 } "ld" [ResponseFile.loneByte] none
        temporaryDisk).calls = [⟨["ld", ResponseFile.loneByte], none, temporaryDisk⟩] ∧
      (run { unfiltered (.ok ⟨0, [], []⟩) with threshold := 1 } "ld" [ResponseFile.loneByte] none
        temporaryDisk).answer = .ok ⟨"ld", [ResponseFile.loneByte], none, 0, "", "", none⟩ ∧
      strandedOutcome.calls = [] ∧
      strandedOutcome.answer = .error (.unencodable ⟨0, [0xFF]⟩) := by
  decide +kernel

end Invocation

end LinkRelay
