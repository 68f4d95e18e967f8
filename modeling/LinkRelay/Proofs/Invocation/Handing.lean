import LinkRelay.Proofs.Invocation
import LinkRelay.Proofs.Text.Pieces

namespace LinkRelay.Invocation

/-- There are more arguments than the threshold allows, and the response file can be written. -/
def UsesFile (s : Settings) (arguments : List String) (disk : Disk) : Prop :=
  s.threshold < arguments.length ∧ disk.Writable s.responseFile

variable {s : Settings} {arguments : List String} {disk found : Disk}

theorem wantsResponseFile_iff :
    s.wantsResponseFile arguments = true ↔ s.threshold < arguments.length := by
  simp [Settings.wantsResponseFile]

/-- Arguments are handed over as they are only where no response file is used. -/
theorem Handing.of_none (hhanding : Handing s arguments disk none found) :
    found = disk ∧ ¬ UsesFile s arguments disk := by
  cases hhanding with
  | direct hfew => exact ⟨rfl, fun huses => hfew (wantsResponseFile_iff.mpr huses.1)⟩
  | refused hmany hwrite => exact ⟨rfl, fun huses => Disk.not_writable_of_refused hwrite huses.2⟩

/-- Arguments are handed over in a file only where one is used and can list them. -/
theorem Handing.of_some {path : Path} (hhanding : Handing s arguments disk (some path) found) :
    path = s.responseFile ∧ UsesFile s arguments disk ∧
      ¬ ResponseFile.Unlistable s.host.standIns arguments ∧
      disk.write s.responseFile.toString (Utf8.encode (ResponseFile.text arguments)) =
        .ok found := by
  cases hhanding with
  | written hmany hlistable hwrite =>
    exact ⟨rfl, ⟨wantsResponseFile_iff.mp hmany, Disk.exists_write_iff.mp ⟨_, hwrite⟩⟩, hlistable,
      hwrite⟩

/-- A response file is to be used and can be written, but no file can list the arguments. -/
def StrandsFile (s : Settings) (arguments : List String) (disk : Disk) : Prop :=
  UsesFile s arguments disk ∧ ResponseFile.Unlistable s.host.standIns arguments

theorem Handing.not_strandsFile {path : Option Path}
    (hhanding : Handing s arguments disk path found) : ¬ StrandsFile s arguments disk := by
  rintro ⟨huses, hunlistable⟩
  cases path with
  | none => exact hhanding.of_none.2 huses
  | some path => exact hhanding.of_some.2.2.1 hunlistable

/-- Arguments that cannot be handed over leave the disk alone, unless they leave a response file
that they cannot fill. -/
theorem Halts.cases {left : Disk} {fault : Fault} (hhalts : Halts s arguments disk left fault) :
    (Char.ofNat 0 ∈ s.responseFile.toString.toList ∧ ¬ UsesFile s arguments disk ∧ left = disk) ∨
    (StrandsFile s arguments disk ∧ ∃ cause, fault = .unencodable cause ∧
      ResponseFile.Strands s.host.standIns arguments s.responseFile disk cause left) := by
  cases hhalts with
  | unnameable _ hzero =>
    exact Or.inl ⟨hzero, fun huses => Disk.not_writable_of_zero hzero huses.2, rfl⟩
  | stranded hmany hstrands =>
    have huses : UsesFile s arguments disk := ⟨wantsResponseFile_iff.mp hmany, hstrands.writable⟩
    exact Or.inr ⟨⟨huses, hstrands.unlistable⟩, _, rfl, hstrands⟩

/-- Where no file can list the arguments of an invocation that is to use one, its linker is not
started, and what is left of the invocation is an empty response file. -/
theorem run_of_strandsFile (hstrands : StrandsFile s arguments disk) (linker : String)
    (directory : Option String) :
    ∃ cause left, ResponseFile.Strands s.host.standIns arguments s.responseFile disk cause left ∧
      (run s linker arguments directory).Yields disk [] left (.error (.unencodable cause)) := by
  obtain ⟨left, fault, hhalts, hyields⟩ | ⟨path, found, hhanding, -⟩ :=
    run_cases s linker arguments directory disk
  · obtain ⟨-, hunused, -⟩ | ⟨-, cause, rfl, hstrands⟩ := hhalts.cases
    · exact absurd hstrands.1 hunused
    · exact ⟨cause, left, hstrands, hyields⟩
  · exact absurd hstrands hhanding.not_strandsFile

/-- The lines of a response file are the arguments exactly if none of them is broken over several
lines. -/
theorem split_text {arguments : List String} (hnonempty : arguments ≠ []) :
    (Text.split '\n' (ResponseFile.text arguments) = arguments ↔
      ∀ argument ∈ arguments, '\n' ∉ argument.toList) ∧
    ((∃ argument ∈ arguments, '\n' ∈ argument.toList) →
      arguments.length < (Text.split '\n' (ResponseFile.text arguments)).length) :=
  ⟨Text.split_intercalate_eq_iff rfl hnonempty, Text.length_lt_length_split_intercalate rfl⟩

/-- Settings under which any argument at all is handed over by a response file, on a host where each
process comes to the same end and touches nothing. -/
def scripted (process : Except Fault Finished) : Settings where
  host := {
    environment := []
    processId := 1
    temporary := ⟨.relative, ["tmp"]⟩
    runner := fun _ _ disk => (disk, process) }
  environment := []
  threshold := 0
  directory := none

/-- The same settings where the command line may hold bytes that are no text. -/
def unfiltered (process : Except Fault Finished) : Settings :=
  { scripted process with host := { (scripted process).host with standIns := .privateUse } }

/-- A disk with nothing but a directory for temporary files. -/
def temporaryDisk : Disk where
  nodes := [(["tmp"], .directory)]
  here := []

/-- What comes of a run whose one argument is a byte that is no text, and is to be in a file. -/
def strandedOutcome : Outcome LinkResult :=
  run (unfiltered (.ok ⟨0, [], []⟩)) "ld" [ResponseFile.loneByte] none temporaryDisk

/-- A process is started with the arguments as they are exactly if there are not too many of them or
the response file cannot be written, and with nothing but the response file otherwise. The two
commands are one and the same where the only argument is the word that names the response file: then
the process is started with the arguments as they are even though it is handed the file. The file
holds the arguments as lines wherever there is a file: where a device stands in its place, it takes
what is written and is no file before or after. -/
theorem command_of_call {s : Settings} {linker : String} {arguments : List String}
    {directory : Option String} {disk : Disk} {call : Call} (hthreshold : 0 ≤ s.threshold)
    (hcall : call ∈ (run s linker arguments directory disk).calls) :
    (call.command = linker :: arguments ↔
      (arguments.length ≤ s.threshold ∨ ¬ disk.Writable s.responseFile) ∨
        arguments = ["@" ++ s.responseFile.toString]) ∧
    (s.threshold < arguments.length → disk.Writable s.responseFile →
      call.command = [linker, "@" ++ s.responseFile.toString] ∧
      (disk.stat s.responseFile.toString ≠ .ok .sink → ∃ executable,
        call.disk.stat s.responseFile.toString =
          .ok (.file (Utf8.encode (ResponseFile.text arguments)) executable)) ∧
      (Text.split '\n' (ResponseFile.text arguments) = arguments ↔
        ∀ argument ∈ arguments, '\n' ∉ argument.toList) ∧
      ((∃ argument ∈ arguments, '\n' ∈ argument.toList) →
        arguments.length < (Text.split '\n' (ResponseFile.text arguments)).length)) := by
  obtain ⟨left, fault, -, hyields⟩ | ⟨path, found, hhanding, hyields⟩ :=
    run_cases s linker arguments directory disk
  · rw [hyields.calls_eq] at hcall
    cases hcall
  · rw [hyields.calls_eq, List.mem_singleton] at hcall
    subst hcall
    cases path with
    | none =>
      obtain ⟨rfl, hunused⟩ := hhanding.of_none
      have hdirect : arguments.length ≤ s.threshold ∨ ¬ found.Writable s.responseFile := by
        by_contra hnot
        obtain ⟨hmany, hwritable⟩ := not_or.mp hnot
        exact hunused ⟨Int.not_le.mp hmany, not_not.mp hwritable⟩
      exact ⟨iff_of_true rfl (Or.inl hdirect),
        fun hmany hwritable => absurd ⟨hmany, hwritable⟩ hunused⟩
    | some path =>
      obtain ⟨rfl, ⟨hmany, hwritable⟩, -, hwrite⟩ := hhanding.of_some
      have hnonempty : arguments ≠ [] := by
        rintro rfl
        exact absurd hmany (Int.not_lt.mpr hthreshold)
      refine ⟨?_, fun _ _ => ⟨rfl, Disk.stat_of_write hwrite, split_text hnonempty⟩⟩
      -- The two commands are one where the name of the response file is the argument.
      constructor
      · intro hcommand
        exact Or.inr (List.cons.inj hcommand).2.symm
      · rintro ((hfew | hnot) | rfl)
        · exact absurd hmany (Int.not_lt.mpr hfew)
        · exact absurd hwritable hnot
        · rfl

/-- Two arguments, one of them of two lines, are three lines in the file. -/
theorem command_of_call_three_lines :
    ∃ call ∈ (run (scripted (.ok ⟨0, [], []⟩)) "ld" ["-la", "two\nlines"] none
        temporaryDisk).calls,
      call.command = ["ld", "@tmp/ldproxy-1.rsp"] ∧
      (∃ executable, call.disk.stat "tmp/ldproxy-1.rsp" =
        .ok (.file (Utf8.encode "-la\ntwo\nlines") executable)) ∧
      2 < (Text.split '\n' "-la\ntwo\nlines").length := by
  let call : Call := ⟨["ld", "@tmp/ldproxy-1.rsp"], none, temporaryDisk.put
    ["tmp", "ldproxy-1.rsp"] (.file (Utf8.encode "-la\ntwo\nlines") false)⟩
  have hcall : call ∈ (run (scripted (.ok ⟨0, [], []⟩)) "ld" ["-la", "two\nlines"] none
      temporaryDisk).calls := by decide +kernel
  have hwritable : temporaryDisk.Writable (scripted (.ok ⟨0, [], []⟩)).responseFile :=
    ⟨["tmp", "ldproxy-1.rsp"], by decide +kernel, by decide +kernel⟩
  obtain ⟨hcommand, hfile, -, hmore⟩ :=
    (command_of_call (by decide) hcall).2 (by decide) hwritable
  exact ⟨call, hcall, hcommand, hfile (by decide +kernel),
    hmore ⟨"two\nlines", by decide, by decide⟩⟩

end LinkRelay.Invocation
