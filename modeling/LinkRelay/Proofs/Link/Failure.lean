import LinkRelay.Proofs.Invocation.Leftovers
import LinkRelay.Proofs.Invocation.Verdict
import LinkRelay.Proofs.Link.Arguments

namespace LinkRelay.Link

/-- The stages before the linker is started, as far as they can fail. -/
inductive Stage where
  | expansion
  | extraction
  | resolution
  | merge

/-- The place of a stage among the others. -/
def Stage.rank : Stage → Nat
  | .expansion => 0
  | .extraction => 1
  | .resolution => 2
  | .merge => 3

variable {host : Host} {env : Environment} {argv : List String} {disk : Disk} {fault : Fault}

/-- A stage that fails on what the stages before it hand over to it. The linker is not among the
things that the merge is handed, so that a link may fail in both of the last two stages. -/
inductive Fails (host : Host) (env : Environment) (argv : List String) (disk : Disk) :
    Stage → Fault → Prop
  | expansion {fault : Fault} : (ArgumentFile.expand argv disk).answer = .error fault →
      Fails host env argv disk .expansion fault
  | extraction {tokens : List String} {fault : Fault} :
      (ArgumentFile.expand argv disk).answer = .ok tokens →
      (ControlFlag.extract .own tokens disk).answer = .error fault →
      Fails host env argv disk .extraction fault
  | resolution {tokens : List String} {r : ControlFlag.Request} {fault : Fault} :
      (ArgumentFile.expand argv disk).answer = .ok tokens →
      (ControlFlag.extract .own tokens disk).answer = .ok r →
      (Linker.resolve host env .usual r.linker disk).answer = .error fault →
      Fails host env argv disk .resolution fault
  | merge {tokens : List String} {r : ControlFlag.Request} {target : Option Path} {fault : Fault} :
      (ArgumentFile.expand argv disk).answer = .ok tokens →
      (ControlFlag.extract .own tokens disk).answer = .ok r →
      (TargetDirectory.infer .usual r.remaining disk).answer = .ok target →
      (BuildScript.merge r.remaining r.directory target disk).answer = .error fault →
      Fails host env argv disk .merge fault

/-- A stage that fails, and none before it does. -/
def FailsFirst (host : Host) (env : Environment) (argv : List String) (disk : Disk) (stage : Stage)
    (fault : Fault) : Prop :=
  Fails host env argv disk stage fault ∧
    ∀ other fault', Fails host env argv disk other fault' → stage.rank ≤ other.rank

section Answered

variable {tokens : List String} {r : ControlFlag.Request} {linker : String} {stage : Stage}

/-- Where the command line can be expanded, the first stage does not fail. -/
theorem Fails.after_expansion (hexpand : (ArgumentFile.expand argv disk).answer = .ok tokens)
    (hfails : Fails host env argv disk stage fault) : 1 ≤ stage.rank := by
  cases hfails with
  | expansion hother => cases hexpand.symm.trans hother
  | extraction | resolution | merge => simp [Stage.rank]

theorem Fails.after_extraction (hexpand : (ArgumentFile.expand argv disk).answer = .ok tokens)
    (hextract : (ControlFlag.extract .own tokens disk).answer = .ok r)
    (hfails : Fails host env argv disk stage fault) : 2 ≤ stage.rank := by
  cases hfails with
  | expansion hother => cases hexpand.symm.trans hother
  | extraction hexpand' hother =>
    cases hexpand.symm.trans hexpand'
    cases hextract.symm.trans hother
  | resolution | merge => simp [Stage.rank]

/-- Where a linker is found as well, only the last stage is left to fail. -/
theorem Fails.after_resolution (hexpand : (ArgumentFile.expand argv disk).answer = .ok tokens)
    (hextract : (ControlFlag.extract .own tokens disk).answer = .ok r)
    (hresolve : (Linker.resolve host env .usual r.linker disk).answer = .ok linker)
    (hfails : Fails host env argv disk stage fault) : 3 ≤ stage.rank := by
  have hlate := hfails.after_extraction hexpand hextract
  cases hfails with
  | expansion | extraction => exact absurd hlate (by decide)
  | resolution hexpand' hextract' hother =>
    cases hexpand.symm.trans hexpand'
    cases hextract.symm.trans hextract'
    cases hresolve.symm.trans hother
  | merge => exact Nat.le_refl _

end Answered

/-- A link without a plan has a stage that fails first, and this is its fault. -/
theorem exists_failsFirst_of_plan (hplan : (plan host env argv disk).answer = .error fault) :
    ∃ stage, FailsFirst host env argv disk stage fault := by
  rw [answer_plan] at hplan
  obtain hexpand | ⟨tokens, hexpand, hplan⟩ := Answer.bind_eq_error_iff.mp hplan
  · exact ⟨.expansion, .expansion hexpand, fun _ _ _ => Nat.zero_le _⟩
  obtain hextract | ⟨r, hextract, hplan⟩ := Answer.bind_eq_error_iff.mp hplan
  · exact ⟨.extraction, .extraction hexpand hextract, fun _ _ => Fails.after_expansion hexpand⟩
  obtain hresolve | ⟨linker, hresolve, hplan⟩ := Answer.bind_eq_error_iff.mp hplan
  · exact ⟨.resolution, .resolution hexpand hextract hresolve,
      fun _ _ => Fails.after_extraction hexpand hextract⟩
  obtain hinfer | ⟨target, hinfer, hplan⟩ := Answer.bind_eq_error_iff.mp hplan
  · rw [TargetDirectory.answer_infer] at hinfer
    cases hinfer
  obtain hmerge | ⟨merged, -, hplan⟩ := Answer.bind_eq_error_iff.mp hplan
  · exact ⟨.merge, .merge hexpand hextract hinfer hmerge,
      fun _ _ => Fails.after_resolution hexpand hextract hresolve⟩
  · cases hplan

/-- A link that comes to a plan has no stage that fails. -/
theorem not_fails_of_plan {p : Plan} (hplan : (plan host env argv disk).answer = .ok p)
    {stage : Stage} : ¬ Fails host env argv disk stage fault := by
  rw [answer_plan] at hplan
  obtain ⟨tokens, hexpand, hplan⟩ := Answer.bind_eq_ok_iff.mp hplan
  obtain ⟨r, hextract, hplan⟩ := Answer.bind_eq_ok_iff.mp hplan
  obtain ⟨linker, hresolve, hplan⟩ := Answer.bind_eq_ok_iff.mp hplan
  obtain ⟨target, hinfer, hplan⟩ := Answer.bind_eq_ok_iff.mp hplan
  obtain ⟨merged, hmerge, -⟩ := Answer.bind_eq_ok_iff.mp hplan
  intro hfails
  have hlate := Fails.after_resolution hexpand hextract hresolve hfails
  cases hfails with
  | merge hexpand' hextract' hinfer' hother =>
    cases hexpand.symm.trans hexpand'
    cases hextract.symm.trans hextract'
    cases hinfer.symm.trans hinfer'
    cases hmerge.symm.trans hother
  | expansion | extraction | resolution => exact absurd hlate (by decide)

/-- A link without a plan leaves the disk alone. -/
theorem disk_of_fault (hplan : (plan host env argv disk).answer = .error fault) :
    (run host env argv disk).disk = disk := by
  rw [run, Step.bind_of_error hplan]
  exact (plan_quiet ..).keepsDisk disk

/-- A link with a plan leaves the disk as its invocation does. -/
theorem disk_of_plan {p : Plan} (hplan : (plan host env argv disk).answer = .ok p) :
    (run host env argv disk).disk =
      (Invocation.run (settings host env) p.linker p.arguments p.directory disk).disk := by
  rw [run, Step.bind_of_ok hplan, (plan_quiet ..).keepsDisk]

/-- A link whose arguments are too many to be handed over as they are, and of which no file can list
one, although the file can be written. -/
def Strands (host : Host) (env : Environment) (argv : List String) (disk : Disk) : Prop :=
  ∃ p, (plan host env argv disk).answer = .ok p ∧ 500 < p.arguments.length ∧
    disk.Writable (ResponseFile.path host.temporary host.processId) ∧
    ∃ argument ∈ p.arguments, host.standIns.OccursIn argument

/-- A link strands a file exactly if its invocation does. -/
theorem strands_iff_of_plan {p : Plan} (hplan : (plan host env argv disk).answer = .ok p) :
    Strands host env argv disk ↔ Invocation.StrandsFile (settings host env) p.arguments disk := by
  have hmany : 500 < p.arguments.length ↔
      (settings host env).threshold < p.arguments.length := by
    simp only [settings, Invocation.usualThreshold]
    omega
  constructor
  · rintro ⟨p', hplan', hlength, hwritable, hunlistable⟩
    cases hplan.symm.trans hplan'
    exact ⟨⟨hmany.mp hlength, hwritable⟩, hunlistable⟩
  · rintro ⟨⟨hlength, hwritable⟩, hunlistable⟩
    exact ⟨p, hplan, hmany.mpr hlength, hwritable, hunlistable⟩

/-- No linker is to be found: none is asked for or named, and the search path has no candidate. -/
structure Linkerless (host : Host) (env : Environment) (r : ControlFlag.Request) (disk : Disk) :
    Prop where
  unasked : ∀ linker, r.linker = some linker → linker = ""
  unnamed : ¬ Linker.Names env .usual
  absent : ∀ name ∈ Linker.Sources.usual.candidates,
    ¬ Linker.isFound disk (Linker.searchPath host env) name = true

/-- Where no source tells a linker, there is none. -/
theorem Linkerless.answer_resolve {r : ControlFlag.Request} (hnone : Linkerless host env r disk) :
    (Linker.resolve host env .usual r.linker disk).answer = .error (.link .linkerNotFound) := by
  have hunasked : r.linker.filter (· ≠ "") = none := by
    rw [Option.filter_eq_none_iff]
    intro linker hlinker
    simpa using hnone.unasked linker hlinker
  have hunnamed : Linker.named? env Linker.Sources.usual.variableNames = none :=
    Linker.named?_eq_none_iff.mpr hnone.unnamed
  have habsent : Linker.Sources.usual.candidates.find?
      (Linker.isFound disk (Linker.searchPath host env)) = none :=
    List.find?_eq_none.mpr hnone.absent
  rw [Linker.answer_resolve, hunasked, hunnamed, habsent]
  rfl

/-- A linker that is not to be found ends the link, whatever the build script holds. -/
theorem plan_of_linkerless {tokens : List String} {r : ControlFlag.Request}
    (hexpand : (ArgumentFile.expand argv disk).answer = .ok tokens)
    (hasks : ControlFlag.Asks tokens r) (hnone : Linkerless host env r disk) :
    (plan host env argv disk).answer = .error (.link .linkerNotFound) := by
  rw [answer_plan, hexpand, Answer.ok_bind, ControlFlag.answer_extract,
    ControlFlag.scan_eq_ok_iff.mpr hasks, Answer.ok_bind, hnone.answer_resolve, Answer.error_bind]

/-- A link starts its linker at most once, and never exactly if a stage before it fails or its
response file is left empty. A link with a stage that fails reports the fault of the first one that
does, whatever the others come to, and has touched nothing; one whose response file is left empty
reports that its arguments cannot be encoded, and has touched nothing else. In particular a linker
that is not to be found is reported before anything is started, whatever build script there is. -/
theorem run_starts_iff (env : Environment) (argv : List String) (disk : Disk)
    (hzero : Char.ofNat 0 ∉ host.temporary.toString.toList) :
    (run host env argv disk).calls.length ≤ 1 ∧
    ((run host env argv disk).calls = [] ↔
      (∃ stage fault, Fails host env argv disk stage fault) ∨ Strands host env argv disk) ∧
    ((∃ stage fault, Fails host env argv disk stage fault) → ∃ stage fault,
      FailsFirst host env argv disk stage fault ∧
      (run host env argv disk).answer = .error fault ∧ (run host env argv disk).disk = disk) ∧
    (Strands host env argv disk →
      Invocation.LeavesEmptyFile (settings host env) disk (run host env argv disk).calls
        (run host env argv disk).disk ∧
      ∃ cause, (run host env argv disk).answer = .error (.unencodable cause)) ∧
    ∀ tokens r, (ArgumentFile.expand argv disk).answer = .ok tokens → ControlFlag.Asks tokens r →
      Linkerless host env r disk → (run host env argv disk).calls = [] ∧
        (run host env argv disk).answer = .error (.link .linkerNotFound) := by
  have hlinkerless (tokens : List String) (r : ControlFlag.Request)
      (hexpand : (ArgumentFile.expand argv disk).answer = .ok tokens)
      (hasks : ControlFlag.Asks tokens r) (hnone : Linkerless host env r disk) :=
    run_of_fault (plan_of_linkerless hexpand hasks hnone)
  cases hplan : (plan host env argv disk).answer with
  | ok p =>
    have hpasses : ¬ ∃ stage fault, Fails host env argv disk stage fault := by
      rintro ⟨stage, fault, hfails⟩
      exact not_fails_of_plan hplan hfails
    rw [(run_of_plan hplan).1, (run_of_plan hplan).2, disk_of_plan hplan, strands_iff_of_plan hplan]
    by_cases hstrands : Invocation.StrandsFile (settings host env) p.arguments disk
    · obtain ⟨cause, left, hstranded, hyields⟩ :=
        Invocation.run_of_strandsFile hstrands p.linker p.directory
      rw [hyields.calls_eq, hyields.disk_eq, hyields.answer_eq]
      refine ⟨Nat.zero_le 1, iff_of_true rfl (Or.inr hstrands), fun hfails => absurd hfails hpasses,
        fun _ => ⟨.of_strands hstranded, cause, rfl⟩, fun tokens r hexpand hasks hnone => ?_⟩
      cases hplan.symm.trans (plan_of_linkerless hexpand hasks hnone)
    · obtain ⟨path, found, hyields⟩ := Invocation.run_cases_of_nameable (settings host env) p.linker
        p.arguments p.directory hzero hstrands
      rw [hyields.calls_eq]
      refine ⟨Nat.le_refl 1, iff_of_false (List.cons_ne_nil _ _) ?_,
        fun hfails => absurd hfails hpasses, fun hboth => absurd hboth hstrands,
        fun tokens r hexpand hasks hnone => ?_⟩
      · exact not_or.mpr ⟨hpasses, hstrands⟩
      · cases hplan.symm.trans (plan_of_linkerless hexpand hasks hnone)
  | error fault =>
    obtain ⟨hnone, hanswer⟩ := run_of_fault hplan
    obtain ⟨stage, hfirst⟩ := exists_failsFirst_of_plan hplan
    refine ⟨by simp [hnone], iff_of_true hnone (Or.inl ⟨stage, fault, hfirst.1⟩),
      fun _ => ⟨stage, fault, hfirst, hanswer, disk_of_fault hplan⟩, ?_, hlinkerless⟩
    rintro ⟨p, hplan', -⟩
    cases hplan.symm.trans hplan'

/-- A build script with arguments for a linker that is not to be found. -/
theorem run_starts_iff_linkerless :
    Char.ofNat 0 ∉ obligingHost.temporary.toString.toList ∧
    (run obligingHost [] ["t/target/deps/x.rlib"] builtDisk).calls = [] ∧
    (run obligingHost [] ["t/target/deps/x.rlib"] builtDisk).answer =
      .error (.link .linkerNotFound) := by
  have hzero : Char.ofNat 0 ∉ obligingHost.temporary.toString.toList := by decide
  have hexpand : (ArgumentFile.expand ["t/target/deps/x.rlib"] builtDisk).answer =
      .ok ["t/target/deps/x.rlib"] := by decide +kernel
  have hasks : ControlFlag.Asks ["t/target/deps/x.rlib"]
      ⟨["t/target/deps/x.rlib"], none, false, none⟩ := by
    rw [← ControlFlag.scan_eq_ok_iff]
    decide +kernel
  have hnone : Linkerless obligingHost [] ⟨["t/target/deps/x.rlib"], none, false, none⟩
      builtDisk := by
    refine ⟨by simp, ?_, by decide +kernel⟩
    rintro ⟨name, -, value, hvalue, -⟩
    cases hvalue
  exact ⟨hzero, (run_starts_iff [] _ builtDisk hzero).2.2.2.2 _ _ hexpand hasks hnone⟩

/-- A host whose command line may hold bytes that are no text. -/
def unfilteredHost : Host :=
  { obligingHost with standIns := .privateUse }

/-- A command line that is too long to be handed over as it is, with a byte that is no text. -/
def strandedLine : List String :=
  ResponseFile.loneByte :: List.replicate 500 "a.o"

theorem plain_of_mem_strandedLine : ∀ token ∈ strandedLine, Plain token := by
  have hplain (token : String) (hfile : ¬ Text.startsWith token "@" = true)
      (hflag : ¬ Text.startsWith token ControlFlag.flagStart = true)
      (htarget : ¬ (Text.contains token "/target/" = true ∧ Text.contains token "/deps/" = true)) :
      Plain token := by
    refine ⟨hfile, fun flag hmem hspells => ?_, ?_⟩
    · exact hflag (ControlFlag.startsWith_flagStart_of_spells hmem hspells)
    · rwa [Text.contains_iff, Text.contains_iff] at htarget
  intro token htoken
  obtain rfl | hrest := List.mem_cons.mp htoken
  · exact hplain _ (by decide +kernel) (by decide +kernel) (by decide +kernel)
  · rw [List.eq_of_mem_replicate hrest]
    exact hplain _ (by decide +kernel) (by decide +kernel) (by decide +kernel)

/-- All four stages pass, the linker is not started, and a file is left that was not there. -/
theorem run_strands_after_all_stages :
    (¬ ∃ stage fault, Fails unfilteredHost [("CC", "ld")] strandedLine Invocation.temporaryDisk
      stage fault) ∧
    (run unfilteredHost [("CC", "ld")] strandedLine Invocation.temporaryDisk).calls = [] ∧
    Invocation.temporaryDisk.stat "tmp/ldproxy-1.rsp" = .error .missing ∧
    ∃ executable, (run unfilteredHost [("CC", "ld")] strandedLine
      Invocation.temporaryDisk).disk.stat "tmp/ldproxy-1.rsp" = .ok (.file [] executable) := by
  have hplan : (plan unfilteredHost [("CC", "ld")] strandedLine Invocation.temporaryDisk).answer =
      .ok ⟨"ld", strandedLine, none⟩ :=
    answer_plan_of_plain plain_of_mem_strandedLine (by decide +kernel)
  have hlength : strandedLine.length = 501 := by
    rw [strandedLine, List.length_cons, List.length_replicate]
  have hstrands : Invocation.StrandsFile (settings unfilteredHost [("CC", "ld")]) strandedLine
      Invocation.temporaryDisk :=
    ⟨⟨by rw [hlength]; decide, ["tmp", "ldproxy-1.rsp"], by decide +kernel, by decide +kernel⟩,
      ResponseFile.loneByte, List.mem_cons_self, ResponseFile.occursIn_loneByte⟩
  obtain ⟨cause, left, hstranded, hyields⟩ := Invocation.run_of_strandsFile hstrands "ld" none
  have hmissing : Invocation.temporaryDisk.stat "tmp/ldproxy-1.rsp" = .error .missing := by
    decide +kernel
  refine ⟨?_, ?_, hmissing, ?_⟩
  · rintro ⟨stage, fault, hfails⟩
    exact not_fails_of_plan hplan hfails
  · rw [(run_of_plan hplan).1, hyields.calls_eq]
  · have hpath : (settings unfilteredHost [("CC", "ld")]).responseFile.toString =
        "tmp/ldproxy-1.rsp" := by decide +kernel
    have hleft := Disk.stat_of_write hstranded.opened
    rw [hpath] at hleft
    rw [disk_of_plan hplan, hyields.disk_eq]
    refine hleft fun hdevice => ?_
    cases hmissing.symm.trans hdevice

end LinkRelay.Link
