import LinkRelay.Invocation
import LinkRelay.Proofs.ResponseFile
import LinkRelay.Proofs.Text.Utf8

namespace LinkRelay.Invocation

/-- The fault of a link whose linker could not be started: a refusal by the system is reported in
this program's words, and any other fault stays what it is. -/
def startFault (linker : String) : Fault → Fault
  | .system cause => .link (.linkerNotStarted linker cause)
  | fault => fault

/-- Failing to start is an interruption only if the process was interrupted. -/
theorem regular_startFault (linker : String) {fault : Fault} (hregular : fault.Regular) :
    (startFault linker fault).Regular := by
  cases fault with
  | system cause => exact Fault.regular_link _
  | _ => exact hregular

/-- What the end of the linker means, whatever is logged about it. -/
def judge (s : Settings) (linker : String) (arguments : List String) (directory : Option String)
    (path : Option Path) (finished : Finished) : Except Fault LinkResult := do
  let output ← (Utf8.decode finished.output).mapError fun c => .link (.outputNotText .output c)
  let errors ← (Utf8.decode finished.errors).mapError fun c => .link (.outputNotText .errors c)
  if finished.status ≠ 0 then .error (.link (.linkerFailed linker finished.status errors))
  else if s.environment.has failureVariable then .error (.link .failureRequested)
  else .ok ⟨linker, arguments, directory, finished.status, output, errors, path⟩

/-- What comes of a link whose one process came to the given end. -/
def verdict (s : Settings) (linker : String) (arguments : List String) (directory : Option String)
    (path : Option Path) (process : Except Fault Finished) : Except Fault LinkResult :=
  process.mapError (startFault linker) >>= judge s linker arguments directory path

/-- A process that ended well: with the status zero, and with text on both streams. -/
def EndedWell (finished : Finished) : Prop :=
  finished.status = 0 ∧ (∃ output, Utf8.encode output = finished.output) ∧
    ∃ errors, Utf8.encode errors = finished.errors

/-- A link is good exactly if its process ended well and no failure is asked for. -/
theorem judge_answers_iff (s : Settings) (linker : String) (arguments : List String)
    (directory : Option String) (path : Option Path) (finished : Finished) :
    (∃ result, judge s linker arguments directory path finished = .ok result) ↔
      EndedWell finished ∧ ¬ s.environment.has failureVariable = true := by
  simp only [EndedWell, ← Utf8.decode_eq_ok_iff, judge]
  cases Utf8.decode finished.output with
  | error cause => simp
  | ok output =>
    cases Utf8.decode finished.errors with
    | error cause => simp
    | ok errors =>
      by_cases hstatus : finished.status = 0 <;>
        cases hfailure : s.environment.has failureVariable <;>
        simp [hstatus]

/-- What makes a link bad whose process came to an end is reported in this program's words. -/
theorem exists_link_of_judge {s : Settings} {linker : String} {arguments : List String}
    {directory : Option String} {path : Option Path} {finished : Finished} {fault : Fault}
    (hfault : judge s linker arguments directory path finished = .error fault) :
    ∃ e, fault = .link e := by
  obtain houtput | ⟨output, -, hfault⟩ := Answer.bind_eq_error_iff.mp hfault
  · obtain ⟨cause, -, rfl⟩ := Answer.mapError_eq_error_iff.mp houtput
    exact ⟨_, rfl⟩
  · obtain herrors | ⟨errors, -, hfault⟩ := Answer.bind_eq_error_iff.mp hfault
    · obtain ⟨cause, -, rfl⟩ := Answer.mapError_eq_error_iff.mp herrors
      exact ⟨_, rfl⟩
    · split at hfault
      · cases hfault
        exact ⟨_, rfl⟩
      · split at hfault <;> cases hfault
        exact ⟨_, rfl⟩

theorem verdict_answers_iff (s : Settings) (linker : String) (arguments : List String)
    (directory : Option String) (path : Option Path) (process : Except Fault Finished) :
    (∃ result, verdict s linker arguments directory path process = .ok result) ↔
      ∃ finished, process = .ok finished ∧ EndedWell finished ∧
        ¬ s.environment.has failureVariable = true := by
  cases process with
  | error fault => simp [verdict]
  | ok finished => simpa [verdict] using judge_answers_iff s linker arguments ..

/-- The linker is started once, whatever is logged about it, and only a refusal by the system is
reported in this program's words. -/
theorem start_yields (host : Host) (linker : String) (arguments : List String)
    (directory : Option String) (disk : Disk) :
    (start host linker arguments directory).Yields disk [⟨linker :: arguments, directory, disk⟩]
      (host.runner (linker :: arguments) directory disk).1
      ((host.runner (linker :: arguments) directory disk).2.mapError (startFault linker)) := by
  have hstarted : (host.start (linker :: arguments) directory).Yields disk
      [⟨linker :: arguments, directory, disk⟩]
      (host.runner (linker :: arguments) directory disk).1
      (host.runner (linker :: arguments) directory disk).2 := ⟨rfl, rfl, rfl⟩
  refine .log_bind (hstarted.attempt.bind_silent ?_)
  cases (host.runner (linker :: arguments) directory disk).2 with
  | ok finished => exact ⟨rfl, rfl, rfl⟩
  | error fault => cases fault <;> exact ⟨rfl, rfl, rfl⟩

theorem streamText_quiet (stream : Stream) (bytes : List UInt8) :
    (streamText stream bytes).Quiet := by
  rw [streamText]
  split
  · exact .pure _
  · exact .fail (Fault.regular_link _)

theorem answer_streamText (stream : Stream) (bytes : List UInt8) (disk : Disk) :
    (streamText stream bytes disk).answer =
      (Utf8.decode bytes).mapError fun cause => .link (.outputNotText stream cause) := by
  rw [streamText]
  cases Utf8.decode bytes <;> rfl

/-- What is done after the linker has ended changes nothing. -/
theorem conclude_quiet (s : Settings) (linker : String) (arguments : List String)
    (directory : Option String) (finished : Finished) (path : Option Path) :
    (conclude s linker arguments directory finished path).Quiet := by
  refine .bind (streamText_quiet ..) fun output => .bind (streamText_quiet ..) fun errors =>
    .bind (.log ..) fun _ => .bind (.log ..) fun _ => ?_
  split
  · exact .fail (Fault.regular_link _)
  · split
    · exact .fail (Fault.regular_link _)
    · exact .pure _

/-- What is logged after the linker has ended does not show in the judgement. -/
theorem answer_conclude (s : Settings) (linker : String) (arguments : List String)
    (directory : Option String) (finished : Finished) (path : Option Path) (disk : Disk) :
    (conclude s linker arguments directory finished path disk).answer =
      judge s linker arguments directory path finished := by
  rw [conclude, (streamText_quiet ..).answer_bind, answer_streamText, judge]
  refine congrArg _ (funext fun output => ?_)
  rw [(streamText_quiet ..).answer_bind, answer_streamText]
  refine congrArg _ (funext fun errors => ?_)
  simp only [Step.debug, Step.answer_log_bind]
  split
  · rfl
  · split <;> rfl

/-- The response file of an invocation, if it comes to use one. -/
def Settings.responseFile (s : Settings) : Path :=
  ResponseFile.pathOn s.host s.directory

/-- How arguments are handed over: the response file that is used, if one is, and the disk that the
linker finds. -/
inductive Handing (s : Settings) (arguments : List String) (disk : Disk) :
    Option Path → Disk → Prop
  | direct : ¬ s.wantsResponseFile arguments = true → Handing s arguments disk none disk
  | refused {refusal : Refusal} : s.wantsResponseFile arguments = true →
      disk.write s.responseFile.toString [] = .error refusal → Handing s arguments disk none disk
  | written {disk' : Disk} : s.wantsResponseFile arguments = true →
      ¬ ResponseFile.Unlistable s.host.standIns arguments →
      disk.write s.responseFile.toString (Utf8.encode (ResponseFile.text arguments)) = .ok disk' →
      Handing s arguments disk (some s.responseFile) disk'

/-- A disk after a response file, if one was used, has been cleared away. -/
def tidied : Option Path → Disk → Disk
  | some path, disk => disk.cleared path
  | none, disk => disk

/-- What keeps arguments from being handed over at all: the disk that is left, and the fault. Either
no file can have the name of the response file, or the file is opened and left empty. -/
inductive Halts (s : Settings) (arguments : List String) (disk : Disk) : Disk → Fault → Prop
  | unnameable : s.wantsResponseFile arguments = true →
      Char.ofNat 0 ∈ s.responseFile.toString.toList →
      Halts s arguments disk disk (.badValue "embedded null byte")
  | stranded {cause : Utf8.Unencodable} {left : Disk} : s.wantsResponseFile arguments = true →
      ResponseFile.Strands s.host.standIns arguments s.responseFile disk cause left →
      Halts s arguments disk left (.unencodable cause)

section Run

variable (s : Settings) (linker : String) (arguments : List String) (directory : Option String)
  (disk : Disk)

/-- Starts the linker with its arguments handed over in one way, and tells which. -/
def startWith (path : Option Path) : Step (Finished × Option Path) := do
  let finished ← start s.host linker (handedOver arguments path) directory
  pure (finished, path)

theorem handOver_eq : handOver s linker arguments directory =
    if s.wantsResponseFile arguments then do
      Step.info logger s!"Using response file due to {arguments.length} args"
      ResponseFile.within s.host.standIns logger arguments s.responseFile
        (startWith s linker arguments directory)
    else startWith s linker arguments directory none :=
  rfl

/-- Both ways of handing arguments over start the same linker once. -/
theorem startWith_yields (path : Option Path) :
    (startWith s linker arguments directory path).Yields disk
      [⟨linker :: handedOver arguments path, directory, disk⟩]
      (s.host.runner (linker :: handedOver arguments path) directory disk).1
      ((fun finished => (finished, path)) <$>
        (s.host.runner (linker :: handedOver arguments path) directory disk).2.mapError
          (startFault linker)) := by
  have hstarted := start_yields s.host linker (handedOver arguments path) directory disk
  cases hanswer : (s.host.runner (linker :: handedOver arguments path) directory disk).2 with
  | ok finished =>
    rw [hanswer] at hstarted
    exact hstarted.bind_silent ⟨rfl, rfl, rfl⟩
  | error fault =>
    rw [hanswer] at hstarted
    exact hstarted.bind_error

/-- The linker is started once, unless its arguments cannot be handed over. -/
theorem handOver_cases :
    (∃ left fault, Halts s arguments disk left fault ∧
      (handOver s linker arguments directory).Yields disk [] left (.error fault)) ∨
    ∃ path found, Handing s arguments disk path found ∧
      (handOver s linker arguments directory).Yields disk
        [⟨linker :: handedOver arguments path, directory, found⟩]
        (tidied path (s.host.runner (linker :: handedOver arguments path) directory found).1)
        ((fun finished => (finished, path)) <$>
          (s.host.runner (linker :: handedOver arguments path) directory found).2.mapError
            (startFault linker)) := by
  have hstart := startWith_yields s linker arguments directory
  rw [handOver_eq]
  by_cases hwants : s.wantsResponseFile arguments = true
  · rw [if_pos hwants]
    obtain ⟨found, hlistable, hwrite⟩ | ⟨refusal, hwrite⟩ | ⟨cause, left, hstrands⟩ :=
      ResponseFile.write_cases s.host.standIns arguments s.responseFile disk
    · have hwithin := ResponseFile.within_of_written hlistable hwrite logger
        (hstart found (some s.responseFile))
      exact Or.inr ⟨_, found, .written hwants hlistable hwrite, .log_bind hwithin⟩
    · by_cases hrefusal : refusal = .holdsZero
      · subst hrefusal
        have hzero := Disk.write_eq_holdsZero_iff.mp (hwrite [])
        exact Or.inl ⟨disk, _, .unnameable hwants hzero, .log_bind
          (ResponseFile.within_of_holdsZero (hwrite []) logger _)⟩
      · exact Or.inr ⟨none, disk, .refused hwants (hwrite []), .log_bind
          (ResponseFile.within_of_refused (hwrite []) hrefusal logger (hstart disk none))⟩
    · exact Or.inl ⟨left, _, .stranded hwants hstrands, .log_bind
        (ResponseFile.within_of_strands hstrands logger _)⟩
  · rw [if_neg hwants]
    exact Or.inr ⟨none, disk, .direct hwants, hstart disk none⟩

theorem reportCommand_quiet (linker : String) (arguments : List String) :
    (reportCommand linker arguments).Quiet := by
  refine .bind (.log ..) fun _ => ?_
  simp only
  split
  · exact .log ..
  · exact .bind (.log ..) fun _ => .log ..

theorem answer_reportCommand (linker : String) (arguments : List String) (disk : Disk) :
    (reportCommand linker arguments disk).answer = .ok () := by
  simp only [reportCommand, Step.info, Step.debug, Step.answer_log_bind]
  split <;> rfl

theorem reportCommand_yields (linker : String) (arguments : List String) (disk : Disk) :
    (reportCommand linker arguments).Yields disk [] disk (.ok ()) := by
  rw [← answer_reportCommand linker arguments disk]
  exact (reportCommand_quiet linker arguments).yields disk

variable {s linker arguments directory disk} in
/-- A directory to run in is logged before everything else, and shows in nothing but the log. -/
theorem run_yields_of_reported {calls : List Call} {left : Disk}
    {answer : Except Fault LinkResult}
    (hrest : Step.Yields
      (do
        reportCommand linker arguments
        let handed ← handOver s linker arguments directory
        conclude s linker arguments directory handed.1 handed.2)
      disk calls left answer) :
    (run s linker arguments directory).Yields disk calls left answer := by
  rw [run]
  cases directory.filter (· ≠ "") with
  | some path => exact .log_bind hrest
  | none => exact hrest

/-- A run of the linker starts it once and ends as the verdict on this process says, with the
response file cleared away, unless its arguments cannot be handed over. -/
theorem run_cases :
    (∃ left fault, Halts s arguments disk left fault ∧
      (run s linker arguments directory).Yields disk [] left (.error fault)) ∨
    ∃ path found, Handing s arguments disk path found ∧
      (run s linker arguments directory).Yields disk
        [⟨linker :: handedOver arguments path, directory, found⟩]
        (tidied path (s.host.runner (linker :: handedOver arguments path) directory found).1)
        (verdict s linker arguments directory path
          (s.host.runner (linker :: handedOver arguments path) directory found).2) := by
  have hreport := reportCommand_yields linker arguments disk
  obtain ⟨left, fault, hhalts, hhanded⟩ | ⟨path, found, hhanding, hhanded⟩ :=
    handOver_cases s linker arguments directory disk
  · exact Or.inl ⟨left, fault, hhalts,
      run_yields_of_reported (hreport.silent_bind hhanded.bind_error)⟩
  · refine Or.inr ⟨path, found, hhanding, run_yields_of_reported (hreport.silent_bind ?_)⟩
    cases hprocess :
        (s.host.runner (linker :: handedOver arguments path) directory found).2 with
    | error fault =>
      rw [hprocess] at hhanded
      exact hhanded.bind_error
    | ok finished =>
      rw [hprocess] at hhanded
      have hconclude := (conclude_quiet s linker arguments directory finished path).yields
        (tidied path (s.host.runner (linker :: handedOver arguments path) directory found).1)
      rw [answer_conclude] at hconclude
      exact hhanded.bind_silent hconclude

end Run

end LinkRelay.Invocation
