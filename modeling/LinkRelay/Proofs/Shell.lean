import LinkRelay.Proofs.Disk.Change
import LinkRelay.Proofs.Link.Failure
import LinkRelay.Proofs.Program
import LinkRelay.Shell.Run

namespace LinkRelay

namespace Shell

/-- A command is refused, and nothing has changed, or it is for the shell, which runs in a directory
that is there and comes to its end. The shell may go elsewhere meanwhile, but whoever started it
stays where it was. -/
theorem runner_cases (environment : Environment) (command : List String)
    (directory : Option String) (disk : Disk) :
    (∃ fault, fault.Regular ∧ runner environment command directory disk = (disk, .error fault)) ∨
    ∃ arguments left finished, command = "/bin/sh" :: arguments ∧
      disk.stat (directory.getD ".") = .ok .directory ∧
      runner environment command directory disk = (left, .ok finished) ∧
      left.here = disk.here ∧ 0 ≤ finished.status ∧ finished.status < 256 := by
  cases command with
  | nil => exact Or.inl ⟨.internal "no command", (by intro text h; cases h), rfl⟩
  | cons program arguments =>
    simp only [runner]
    split
    · exact Or.inl ⟨_, Refusal.regular_fault _ _, rfl⟩
    · split
      · rename_i hplace
        by_cases hprogram : program = "/bin/sh"
        · rw [if_pos hprogram]
          refine Or.inr ⟨arguments, _, _, by rw [hprogram], hplace, rfl, rfl, ?_, ?_⟩
          · exact Int.natCast_nonneg _
          · exact Int.ofNat_lt.mpr (Nat.mod_lt _ (by decide))
        · rw [if_neg hprogram]
          exact Or.inl ⟨_, Refusal.regular_fault _ _, rfl⟩
      · exact Or.inl ⟨_, Refusal.regular_fault _ _, rfl⟩
      · exact Or.inl ⟨_, Refusal.regular_fault _ _, rfl⟩
      · exact Or.inl ⟨_, Refusal.regular_fault _ _, rfl⟩

variable {environment : Environment} {command : List String} {directory : Option String}
  {disk : Disk}

/-- A command that changes the directory changes it for itself. -/
theorem here_runner : (runner environment command directory disk).1.here = disk.here := by
  obtain ⟨fault, -, hrefused⟩ | ⟨arguments, left, finished, -, -, hran, hhere, -⟩ :=
    runner_cases environment command directory disk
  · rw [hrefused]
  · rw [hran]
    exact hhere

theorem regular_of_runner {fault : Fault}
    (hfault : (runner environment command directory disk).2 = .error fault) : fault.Regular := by
  obtain ⟨refused, hregular, hrefused⟩ | ⟨arguments, left, finished, -, -, hran, -⟩ :=
    runner_cases environment command directory disk
  · rw [hrefused] at hfault
    cases hfault
    exact hregular
  · rw [hran] at hfault
    cases hfault

/-- Nothing but the shell can come to an end. -/
theorem command_of_runner {finished : Finished}
    (hfinished : (runner environment command directory disk).2 = .ok finished) :
    ∃ arguments, command = "/bin/sh" :: arguments := by
  obtain ⟨fault, -, hrefused⟩ | ⟨arguments, left, finished, hcommand, -⟩ :=
    runner_cases environment command directory disk
  · rw [hrefused] at hfinished
    cases hfinished
  · exact ⟨arguments, hcommand⟩

end Shell

/-- An invocation goes nowhere of its own accord. -/
theorem Invocation.here_run {s : Settings}
    (hkeeps : ∀ command directory disk,
      (s.host.runner command directory disk).1.here = disk.here)
    (linker : String) (arguments : List String) (directory : Option String) (disk : Disk) :
    (run s linker arguments directory disk).disk.here = disk.here := by
  obtain ⟨left, fault, hhalts, hyields⟩ | ⟨path, found, hhanding, hyields⟩ :=
    run_cases s linker arguments directory disk
  · rw [hyields.disk_eq]
    cases hhalts with
    | unnameable => rfl
    | stranded _ hstrands => exact (Disk.changesOnly_of_write hstrands.opened).here
  · rw [hyields.disk_eq]
    cases path with
    | none =>
      obtain ⟨rfl, -⟩ := hhanding.of_none
      exact hkeeps ..
    | some path =>
      obtain ⟨-, -, -, hwrite⟩ := hhanding.of_some
      exact (Disk.sameBeside_cleared _ path).here.trans
        ((hkeeps ..).trans (Disk.changesOnly_of_write hwrite).here)

/-- A link ends in the directory that it started in if its linker does. -/
theorem Link.here_run {host : Host}
    (hkeeps : ∀ command directory disk, (host.runner command directory disk).1.here = disk.here)
    (env : Environment) (argv : List String) (disk : Disk) :
    (run host env argv disk).disk.here = disk.here := by
  cases hplan : (plan host env argv disk).answer with
  | ok p =>
    rw [disk_of_plan hplan]
    exact Invocation.here_run hkeeps ..
  | error fault => rw [run, Step.bind_of_error hplan, (plan_quiet ..).keepsDisk]

namespace Program

/-- With no program but the shell, a run succeeds only if the shell was its linker, it is never
interrupted, and it ends in the directory that it started in. -/
theorem run_with_shell {host : Host} {environment : Environment}
    (hrunner : host.runner = Shell.runner environment) (terminal : Bool) (h : Log.Hierarchy)
    (argv : List String) (disk : Disk) :
    (Succeeds host (run host terminal h argv disk) → ∃ call arguments,
      (run host terminal h argv disk).calls = [call] ∧ call.command = "/bin/sh" :: arguments) ∧
    (run host terminal h argv disk).ending ≠ .exited 130 ∧
    (run host terminal h argv disk).disk.here = disk.here := by
  have hending : (run host terminal h argv disk).ending =
      (conclude host.environment (Link.run host host.environment argv disk).answer).1 := rfl
  refine ⟨?_, fun hinterrupted => ?_, Link.here_run (by simp [hrunner, Shell.here_runner]) ..⟩
  · rintro ⟨call, finished, hcalls, hprocess, -⟩
    rw [processOf, hrunner] at hprocess
    obtain ⟨arguments, hcommand⟩ := Shell.command_of_runner hprocess
    exact ⟨call, arguments, hcalls, hcommand⟩
  · rw [hinterrupted] at hending
    obtain ⟨-, result, hanswer⟩ | ⟨-, fault, hanswer, hstops⟩ :=
      link_cases host terminal h argv disk
    · rw [hanswer] at hending
      cases hending
    · have hregular : fault.Regular := hstops.regular fun call raised hraised => by
        rw [processOf, hrunner] at hraised
        exact Shell.regular_of_runner hraised
      have hends := ends_conclude host.environment fault
      rw [hanswer] at hending
      rw [← hending] at hends
      cases hends with
      | interrupted text => exact hregular text rfl

end Program

end LinkRelay
