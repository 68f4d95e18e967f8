import LinkRelay.Proofs.Link.Arguments

namespace LinkRelay

/-- A host whose process has the given environment. -/
def Host.under (host : Host) (own : Environment) : Host :=
  { host with environment := own }

namespace Linker

/-- Two processes with the same search path, or without one, look in the same places. -/
theorem searchPath_under {own own' : Environment} (hpath : own.get? "PATH" = own'.get? "PATH")
    (host : Host) (env : Environment) :
    searchPath (host.under own) env = searchPath (host.under own') env := by
  simp only [searchPath, Host.under, hpath]

/-- A directory off the standard search path, with a compiler in it. -/
def toolDisk : Disk where
  nodes := [(["tools"], .directory), (["tools", "riscv32-esp-elf-gcc"], .file [] true)]
  here := []

/-- The environment of a process that searches this directory. -/
def toolEnvironment : Environment :=
  [("PATH", "tools")]

theorem find?_toolDisk : Sources.usual.candidates.find? (isFound toolDisk "tools") =
    some "riscv32-esp-elf-gcc" := by
  decide +kernel

theorem find?_toolDisk_standard :
    Sources.usual.candidates.find? (isFound toolDisk standardSearchPath) = none := by
  decide +kernel

/-- Where neither a search path nor a linker is known, the linker is found on the search path of
the process, or not at all. -/
theorem answer_resolve_toolDisk (host : Host) {env : Environment}
    (hpath : ¬ env.has "PATH" = true) (hnames : ¬ Names env .usual) {asked : Option String}
    (hasked : ¬ ∃ linker, asked = some linker ∧ linker ≠ "") :
    (resolve (host.under toolEnvironment) env .usual asked toolDisk).answer =
        .ok "riscv32-esp-elf-gcc" ∧
      (resolve (host.under []) env .usual asked toolDisk).answer =
        .error (.link .linkerNotFound) := by
  have hunset : env.get? "PATH" = none := by simpa [Environment.has] using hpath
  have hunasked : asked.filter (· ≠ "") = none := by
    rw [Option.filter_eq_none_iff]
    intro linker hlinker
    by_contra hvalue
    exact hasked ⟨linker, hlinker, by simpa using hvalue⟩
  have hown : searchPath (host.under toolEnvironment) env = "tools" := by
    rw [searchPath, hunset]
    rfl
  have hstandard : searchPath (host.under []) env = standardSearchPath := by
    rw [searchPath, hunset]
    rfl
  constructor
  · rw [answer_resolve, hunasked, named?_eq_none_iff.mpr hnames, hown, find?_toolDisk]
    rfl
  · rw [answer_resolve, hunasked, named?_eq_none_iff.mpr hnames, hstandard,
      find?_toolDisk_standard]
    rfl

end Linker

namespace Link

/-- All that a run does and leaves depends on its process through the linker that is found. -/
theorem run_under_congr {host : Host} {own own' env : Environment}
    (hresolve : ∀ asked, Linker.resolve (host.under own) env .usual asked =
      Linker.resolve (host.under own') env .usual asked) (argv : List String) :
    run (host.under own) env argv = run (host.under own') env argv := by
  have hplan : plan (host.under own) env argv = plan (host.under own') env argv := by
    simp only [plan, hresolve]
  rw [run, run, hplan]
  -- What is left reads of the host all but its environment.
  rfl

/-- An empty command line asks for the linker and nothing else. -/
theorem answer_plan_nil (host : Host) (env : Environment) (disk : Disk) :
    (plan host env [] disk).answer =
      (fun linker => ⟨linker, [], none⟩) <$> (Linker.resolve host env .usual none disk).answer := by
  rw [answer_plan]
  change (Linker.resolve host env .usual none disk).answer >>= _ = _
  cases (Linker.resolve host env .usual none disk).answer <;> rfl

/-- A linker without arguments is started whatever the host. -/
theorem calls_of_plan_nil {host : Host} {env : Environment} {disk : Disk} {linker : String}
    (hlinker : (Linker.resolve host env .usual none disk).answer = .ok linker) :
    (run host env [] disk).calls = [⟨[linker], none, disk⟩] := by
  have hplan : (plan host env [] disk).answer = .ok ⟨linker, [], none⟩ := by
    rw [answer_plan_nil, hlinker]
    rfl
  have hdirect : ¬ (settings host env).wantsResponseFile [] = true := by
    simp [Invocation.Settings.wantsResponseFile, settings, Invocation.usualThreshold]
  rw [(run_of_plan hplan).1]
  obtain ⟨left, fault, hhalts, -⟩ | ⟨path, found, hhanding, hyields⟩ :=
    Invocation.run_cases (settings host env) linker [] none disk
  · cases hhalts with
    | unnameable hwants => exact absurd hwants hdirect
    | stranded hwants => exact absurd hwants hdirect
  · rw [hyields.calls_eq]
    cases hhanding with
    | direct => rfl
    | refused hwants => exact absurd hwants hdirect
    | written hwants => exact absurd hwants hdirect

/-- An environment that keeps that of the process from a run: whatever stands in this one, the same
processes are started, and the same comes of them. -/
def Isolates (env : Environment) : Prop :=
  ∀ (host : Host) (own own' : Environment) (argv : List String) (disk : Disk),
    (run (host.under own) env argv disk).calls = (run (host.under own') env argv disk).calls ∧
      (run (host.under own) env argv disk).answer = (run (host.under own') env argv disk).answer

/-- Without a search path and a linker, that of the process decides whether anything is started. -/
theorem not_isolates {env : Environment} (hpath : ¬ env.has "PATH" = true)
    (hnames : ¬ Linker.Names env .usual) : ¬ Isolates env := by
  intro hisolates
  have hasked : ¬ ∃ linker, (none : Option String) = some linker ∧ linker ≠ "" := by simp
  -- Of two processes, one searches the directory with the compiler and the other one does not.
  obtain ⟨hfound, hlost⟩ := Linker.answer_resolve_toolDisk obligingHost hpath hnames hasked
  have hnone : (plan (obligingHost.under []) env [] Linker.toolDisk).answer =
      .error (.link .linkerNotFound) := by
    rw [answer_plan_nil, hlost]
    rfl
  have hcalls := (hisolates obligingHost Linker.toolEnvironment [] [] Linker.toolDisk).1
  rw [calls_of_plan_nil hfound, (run_of_fault hnone).1] at hcalls
  cases hcalls

/-- A given environment keeps that of the process from a run exactly if it has a search path or
names a linker, and from the search for a linker also if one is asked for. In no case does anything
but the search path of the process come through, to anything that the run does or leaves. -/
theorem isolates_iff (env : Environment) :
    (Isolates env ↔ env.has "PATH" = true ∨ Linker.Names env .usual) ∧
    (∀ asked, (∀ (host : Host) (own own' : Environment) (disk : Disk),
        (Linker.resolve (host.under own) env .usual asked disk).answer =
          (Linker.resolve (host.under own') env .usual asked disk).answer) ↔
      env.has "PATH" = true ∨ Linker.Names env .usual ∨
        ∃ linker, asked = some linker ∧ linker ≠ "") ∧
    ∀ (host : Host) (own own' : Environment), own.get? "PATH" = own'.get? "PATH" →
      ∀ argv disk, run (host.under own) env argv disk = run (host.under own') env argv disk := by
  refine ⟨⟨fun hisolates => ?_, ?_⟩, fun asked => ⟨fun hsame => ?_, ?_⟩, ?_⟩
  · by_contra hnot
    obtain ⟨hpath, hnames⟩ := not_or.mp hnot
    exact not_isolates hpath hnames hisolates
  · intro hknown host own own' argv disk
    have hresolve (asked : Option String) : Linker.resolve (host.under own) env .usual asked =
        Linker.resolve (host.under own') env .usual asked := by
      obtain hpath | hnames := hknown
      · rw [Linker.resolve_congr (Linker.searchPath_of_has hpath)]
      · exact Linker.resolve_of_names hnames asked
    rw [run_under_congr hresolve]
    exact ⟨rfl, rfl⟩
  · by_contra hnot
    obtain ⟨hpath, hnot⟩ := not_or.mp hnot
    obtain ⟨hnames, hasked⟩ := not_or.mp hnot
    obtain ⟨hfound, hlost⟩ := Linker.answer_resolve_toolDisk obligingHost hpath hnames hasked
    have hboth := hsame obligingHost Linker.toolEnvironment [] Linker.toolDisk
    cases hfound.symm.trans (hboth.trans hlost)
  · rintro (hpath | hnames | ⟨linker, rfl, hlinker⟩) host own own' disk
    · rw [Linker.resolve_congr (Linker.searchPath_of_has hpath)]
    · rw [Linker.resolve_of_names hnames]
    · rw [Linker.resolve_of_asked hlinker, Linker.resolve_of_asked hlinker]
  · intro host own own' hpath argv disk
    have hresolve := Linker.resolve_congr (Linker.searchPath_under hpath host env)
    have hrun := run_under_congr (fun asked => congrFun (congrFun hresolve .usual) asked) argv
    rw [hrun]

/-- With no environment of one's own, a linker is started or not, as the process searches. -/
theorem run_follows_process_path :
    (run (obligingHost.under Linker.toolEnvironment) [] ["a.o"] Linker.toolDisk).calls =
        [⟨["riscv32-esp-elf-gcc", "a.o"], none, Linker.toolDisk⟩] ∧
      (run (obligingHost.under []) [] ["a.o"] Linker.toolDisk).calls = [] ∧
      (run (obligingHost.under []) [] ["a.o"] Linker.toolDisk).answer =
        .error (.link .linkerNotFound) := by
  decide +kernel

end Link

end LinkRelay
