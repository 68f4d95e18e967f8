import LinkRelay.Proofs.Link.Arguments
import LinkRelay.Proofs.Link.Isolation
import LinkRelay.Proofs.Link.Records
import LinkRelay.Proofs.Log.Configuration
import LinkRelay.Proofs.Program

namespace LinkRelay

/-- Two environments that give the same value to every variable but those that ask for logs. -/
def Environment.SameBesideLogs (env env' : Environment) : Prop :=
  ∀ name, name ≠ Log.filterVariable → name ≠ Log.styleVariable → env.get? name = env'.get? name

namespace Linker

/-- Of the environments, the search path and the variables that may name a linker alone matter. -/
theorem resolve_congr_environment {host host' : Host} {env env' : Environment} {sources : Sources}
    (hpath : searchPath host env = searchPath host' env')
    (hnames : ∀ name ∈ sources.variableNames, env.get? name = env'.get? name) :
    resolve host env sources = resolve host' env' sources := by
  funext asked
  simp only [resolve, fromEnvironment, fromSearchPath, hpath, named?_congr hnames]

end Linker

/-- Of the environment, whether it asks for a failure alone matters in the end. -/
theorem Invocation.conclude_congr {s s' : Settings}
    (hfail : s.environment.has failureVariable = s'.environment.has failureVariable) :
    conclude s = conclude s' := by
  funext linker arguments directory finished path
  rw [conclude, conclude, hfail]

namespace Link

variable {own own' : Environment}

/-- Variables of the logs have no part in the choice of the linker. -/
theorem resolve_of_sameBesideLogs (hsame : own.SameBesideLogs own') (host : Host) :
    Linker.resolve (host.under own) own .usual = Linker.resolve (host.under own') own' .usual := by
  have hpath : own.get? "PATH" = own'.get? "PATH" := hsame "PATH" (by decide) (by decide)
  refine Linker.resolve_congr_environment ?_ fun name hname => ?_
  · simp only [Linker.searchPath, Host.under, hpath]
  · have hfree : ∀ name ∈ Linker.Sources.usual.variableNames,
        name ≠ Log.filterVariable ∧ name ≠ Log.styleVariable := by decide
    exact hsame name (hfree name hname).1 (hfree name hname).2

/-- A link is the same under two environments that differ in what they ask of the logs. -/
theorem run_of_sameBesideLogs (hsame : own.SameBesideLogs own') (host : Host)
    (argv : List String) :
    run (host.under own) own argv = run (host.under own') own' argv := by
  have hplan : plan (host.under own) own argv = plan (host.under own') own' argv := by
    simp only [plan, resolve_of_sameBesideLogs hsame]
  have hfail : own.has Invocation.failureVariable = own'.has Invocation.failureVariable := by
    rw [Environment.has, Environment.has, hsame _ (by decide) (by decide)]
  have hconclude : Invocation.conclude (settings (host.under own) own) =
      Invocation.conclude (settings (host.under own') own') :=
    Invocation.conclude_congr hfail
  rw [run, run, hplan]
  simp only [Invocation.run, hconclude]
  -- What is left reads of the host all but its environment.
  rfl

end Link

namespace Program

/-- How a run ends depends on the environment only by the variable that lets faults escape. -/
theorem conclude_congr {env env' : Environment}
    (hdebug : env.get? debugVariable = env'.get? debugVariable) : conclude env = conclude env' := by
  funext answer
  cases answer with
  | ok result => rfl
  | error fault => cases fault <;> simp only [conclude, hdebug]

/-- What this program reports ends a run in one way, with or without that variable. -/
theorem Ends.of_link {env : Environment} {e : LinkError} {ending : Ending}
    {message : Option String} (hends : Ends env (.link e) ending message) :
    ending = .exited 1 ∧ message = some e.message := by
  cases hends with
  | reported => exact ⟨rfl, rfl⟩
  | unexpected _ hother => exact absurd rfl (hother e)
  | escaped _ hother => exact absurd rfl (hother e)

/-- What is written last of all, where there is a message. -/
def lastWords (message : Option String) : List Writing :=
  message.toList.map fun m => (.standardError, "Error: " ++ m ++ "\n")

/-- A run leaves a message exactly if it exits, and with another code than zero. -/
theorem conclude_exits_iff (env : Environment) (answer : Except Fault LinkResult) :
    (conclude env answer).2.isSome = true ↔
      ∃ code, code ≠ 0 ∧ (conclude env answer).1 = .exited code := by
  cases answer with
  | ok result => simp [conclude]
  | error fault =>
    have hends := ends_conclude env fault
    generalize conclude env (.error fault) = concluded at hends ⊢
    obtain ⟨ending, message⟩ := concluded
    cases hends <;> simp

section Off

variable {h : Log.Hierarchy} {made : List (Log.Level × Log.Handler)}

/-- Loggers that are turned off write none of the records of a link. -/
theorem writings_eq_nil (hmade : h.Configured made) (hoff : h.level = .off)
    {records : List Log.Record} (hrecords : ∀ record ∈ records, record.Ordinary) :
    writings h records = [] := by
  have hthreshold : h.threshold = .off := by
    rw [Log.Hierarchy.threshold, hoff]
    rfl
  rw [writings, List.flatMap_eq_nil_iff]
  intro record hrecord
  obtain ⟨hlevel, hlogger⟩ := hrecords record hrecord
  refine hmade.writes_eq_nil hlogger ?_ record.text
  rw [hthreshold]
  exact Int.lt_of_le_of_lt hlevel (by decide)

end Off

/-- The loggers of a process in its first run. -/
theorem configured_configure (env : Environment) (terminal : Bool) :
    ∃ handler, (configure .fresh env terminal).Configured
      [((Log.Settings.ofEnvironment env terminal).level, handler)] :=
  ⟨_, Log.Hierarchy.Configured.fresh.setUp _ _⟩

/-- The message that a run leaves. -/
def messageOf (host : Host) (own : Environment) (argv : List String) (disk : Disk) :
    Option String :=
  (conclude own (Link.run (host.under own) own argv disk).answer).2

section Logs

variable {own own' : Environment} (host : Host) (terminal terminal' : Bool) (argv : List String)
  (disk : Disk)

/-- What is written is what the logs write, and then the last words. -/
theorem written_run (h : Log.Hierarchy) : (run (host.under own) terminal h argv disk).written =
    writings (configure h own terminal) (run (host.under own) terminal h argv disk).records ++
      lastWords (messageOf host own argv disk) :=
  rfl

theorem ending_run (h : Log.Hierarchy) : (run (host.under own) terminal h argv disk).ending =
    (conclude own (Link.run (host.under own) own argv disk).answer).1 :=
  rfl

theorem records_run (h : Log.Hierarchy) : (run (host.under own) terminal h argv disk).records =
    (Link.run (host.under own) own argv disk).records :=
  rfl

theorem calls_run (h : Log.Hierarchy) : (run (host.under own) terminal h argv disk).calls =
    (Link.run (host.under own) own argv disk).calls :=
  rfl

theorem disk_run (h : Log.Hierarchy) : (run (host.under own) terminal h argv disk).disk =
    (Link.run (host.under own) own argv disk).disk :=
  rfl

/-- The first run of a process is the same whatever its environment asks for in the way of logs, and
whether or not standard error is a terminal: it starts the same processes, leaves the same disk,
ends in the same way, logs the same records, and leaves the same message after what is written of
these. The message is that of the fault, and there is one exactly if the exit code is not zero. If
the logs are turned off, nothing is written but the message. -/
theorem run_of_logs_changed (hsame : own.SameBesideLogs own') :
    let r := run (host.under own) terminal .fresh argv disk
    let r' := run (host.under own') terminal' .fresh argv disk
    r.ending = r'.ending ∧ r.calls = r'.calls ∧ r.disk = r'.disk ∧ r.records = r'.records ∧
    ∃ message : Option String,
      r.written = writings (configure .fresh own terminal) r.records ++ lastWords message ∧
      r'.written = writings (configure .fresh own' terminal') r'.records ++ lastWords message ∧
      (∀ fault, (Link.run (host.under own) own argv disk).answer = .error fault →
        Ends own fault r.ending message) ∧
      (message.isSome = true ↔ ∃ code, code ≠ 0 ∧ r.ending = .exited code) ∧
      ((Log.Settings.ofEnvironment own terminal).level = .off → r.written = lastWords message) := by
  have hlink := Link.run_of_sameBesideLogs hsame host argv
  have hconclude : conclude own = conclude own' :=
    conclude_congr (hsame debugVariable (by decide) (by decide))
  have hmessage : messageOf host own' argv disk = messageOf host own argv disk := by
    rw [messageOf, messageOf, hlink, hconclude]
  refine ⟨?_, ?_, ?_, ?_, messageOf host own argv disk, written_run .., ?_, fun fault hfault => ?_,
    conclude_exits_iff own _, fun hoff => ?_⟩
  · rw [ending_run, ending_run, hlink, hconclude]
  · rw [calls_run, calls_run, hlink]
  · rw [disk_run, disk_run, hlink]
  · rw [records_run, records_run, hlink]
  · rw [written_run, hmessage]
  · have hends := ends_conclude own fault
    rw [← hfault] at hends
    exact hends
  · obtain ⟨handler, hmade⟩ := configured_configure own terminal
    have hrecords := (Link.run_logs (host.under own) own argv).records disk
    rw [written_run, records_run, writings_eq_nil hmade hoff hrecords, List.nil_append]

end Logs

/-- No linker is to be found: once with the logs off, and once with all of them, in colour. -/
theorem run_of_logs_changed_linkerless :
    let own : Environment := [("LDPROXY_LOG", "off")]
    let own' : Environment := [("LDPROXY_LOG", "trace"), ("LDPROXY_LOG_STYLE", "always")]
    let r := run (Link.obligingHost.under own) true .fresh ["a.o"] Link.builtDisk
    let r' := run (Link.obligingHost.under own') false .fresh ["a.o"] Link.builtDisk
    let words := "Error: Cannot locate argument '--ldproxy-linker <linker>' and no linker found " ++
      "in environment or PATH\n"
    Environment.SameBesideLogs own own' ∧
    r.ending = .exited 1 ∧ r'.ending = .exited 1 ∧
    r.written = [(.standardError, words)] ∧
    r'.written =
      writings (configure .fresh own' false) r'.records ++ [(.standardError, words)] := by
  intro own own' r r' words
  have hsame : own.SameBesideLogs own' := by
    intro name hfilter hstyle
    have hno : (name == "LDPROXY_LOG") = false := beq_false_of_ne hfilter
    have hno' : (name == "LDPROXY_LOG_STYLE") = false := beq_false_of_ne hstyle
    simp only [own, own', Environment.get?, List.lookup_cons, hno, hno']
  have hanswer : (Link.run (Link.obligingHost.under own) own ["a.o"] Link.builtDisk).answer =
      .error (.link .linkerNotFound) := by decide +kernel
  obtain ⟨hending, -, -, -, message, -, hwritten, hends, -, hoff⟩ :=
    run_of_logs_changed Link.obligingHost true false ["a.o"] Link.builtDisk hsame
  obtain ⟨hexited, rfl⟩ := (hends _ hanswer).of_link
  have hwords : lastWords (some LinkError.linkerNotFound.message) = [(.standardError, words)] := by
    simp only [words]
    decide +kernel
  rw [hwords] at hwritten hoff
  exact ⟨hsame, hexited, hending.symm.trans hexited, hoff (by decide +kernel), hwritten⟩

end Program

end LinkRelay
