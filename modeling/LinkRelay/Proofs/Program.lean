import LinkRelay.Program
import LinkRelay.Proofs.Link.Plan

namespace LinkRelay.Program

/-- The processes that a run starts, in order. -/
def Run.calls (r : Run) : List Call :=
  r.events.filterMap Event.call?

/-- The records that a run logs, in order. -/
def Run.records (r : Run) : List Log.Record :=
  r.events.filterMap Event.record?

/-- What came of a process that was started. -/
def processOf (host : Host) (call : Call) : Except Fault Finished :=
  (host.runner call.command call.directory call.disk).2

/-- A run whose one process ended well, where no failure is asked for. -/
def Succeeds (host : Host) (r : Run) : Prop :=
  ∃ call finished, r.calls = [call] ∧ processOf host call = .ok finished ∧
    Invocation.EndedWell finished ∧ ¬ host.environment.has "LDPROXY_LINK_FAIL" = true

/-- How a fault ends a run, and the message that it leaves. -/
inductive Ends (env : Environment) : Fault → Ending → Option String → Prop
  | interrupted (text : String) :
      Ends env (.interrupted text) (.exited 130) (some "Interrupted by user.")
  | reported (e : LinkError) : Ends env (.link e) (.exited 1) (some e.message)
  | unexpected {fault : Fault} : fault.Regular → (∀ e, fault ≠ .link e) →
      env.get? "DEBUG" ≠ some "1" →
      Ends env fault (.exited 1) (some ("Unexpected error: " ++ fault.message))
  | escaped {fault : Fault} : fault.Regular → (∀ e, fault ≠ .link e) →
      env.get? "DEBUG" = some "1" → Ends env fault (.escaped fault) none

/-- Every fault ends a run in the way that is told for it. -/
theorem ends_conclude (env : Environment) (fault : Fault) :
    Ends env fault (conclude env (.error fault)).1 (conclude env (.error fault)).2 := by
  cases fault with
  | interrupted text => exact .interrupted text
  | link e => exact .reported e
  | _ =>
    by_cases hdebug : env.get? debugVariable = some "1" <;>
      simp only [conclude, hdebug, if_true, if_false]
    · exact .escaped (by intro text h; cases h) (by intro e h; cases h) hdebug
    · exact .unexpected (by intro text h; cases h) (by intro e h; cases h) hdebug

/-- What stops a run: a stage before there is a process, which is never an interruption; a process
that was not run to its end, by the fault it ended in; or one that ended, but not well, which is
always reported in this program's words. -/
inductive Stops (host : Host) (r : Run) : Fault → Prop
  | early {fault : Fault} : r.calls = [] → fault.Regular → Stops host r fault
  | raised {call : Call} {linker : String} {arguments : List String} {fault : Fault} :
      r.calls = [call] → call.command = linker :: arguments → processOf host call = .error fault →
      Stops host r (Invocation.startFault linker fault)
  | finished {call : Call} {finished : Finished} (e : LinkError) :
      r.calls = [call] → processOf host call = .ok finished → Stops host r (.link e)

/-- A run is stopped by no interruption unless its process was interrupted. -/
theorem Stops.regular {host : Host} {r : Run} {fault : Fault} (hstops : Stops host r fault)
    (hprocess : ∀ call raised, processOf host call = .error raised → raised.Regular) :
    fault.Regular := by
  cases hstops with
  | early _ hregular => exact hregular
  | raised _ _ hraised => exact Invocation.regular_startFault _ (hprocess _ _ hraised)
  | finished e => exact Fault.regular_link e

/-- What the verdict on the one process of a run says of the run. -/
private theorem cases_of_verdict {host : Host} {r : Run} {call : Call} {s : Invocation.Settings}
    {linker : String} {arguments handed : List String} {directory : Option String}
    {path : Option Path} (hs : s.environment = host.environment) (hcalls : r.calls = [call])
    (hcommand : call.command = linker :: handed) :
    (Succeeds host r ∧ ∃ result,
      Invocation.verdict s linker arguments directory path (processOf host call) = .ok result) ∨
    (¬ Succeeds host r ∧ ∃ fault,
      Invocation.verdict s linker arguments directory path (processOf host call) = .error fault ∧
        Stops host r fault) := by
  have hsucceeds : Succeeds host r ↔ ∃ result,
      Invocation.verdict s linker arguments directory path (processOf host call) = .ok result := by
    rw [Invocation.verdict_answers_iff, hs]
    constructor
    · rintro ⟨call', finished, hcall', hgood⟩
      rw [hcalls] at hcall'
      cases hcall'
      exact ⟨finished, hgood⟩
    · rintro ⟨finished, hgood⟩
      exact ⟨call, finished, hcalls, hgood⟩
  rw [hsucceeds]
  cases hverdict :
      Invocation.verdict s linker arguments directory path (processOf host call) with
  | ok result => exact Or.inl ⟨⟨result, rfl⟩, result, rfl⟩
  | error fault =>
    refine Or.inr ⟨by simp, fault, rfl, ?_⟩
    cases hprocess : processOf host call with
    | error raised =>
      rw [hprocess] at hverdict
      cases hverdict
      exact .raised hcalls hcommand hprocess
    | ok finished =>
      rw [hprocess] at hverdict
      obtain ⟨e, rfl⟩ := Invocation.exists_link_of_judge hverdict
      exact .finished e hcalls hprocess

/-- The link of a run succeeds exactly if the run does, and is otherwise stopped by its fault. -/
theorem link_cases (host : Host) (terminal : Bool) (h : Log.Hierarchy) (argv : List String)
    (disk : Disk) :
    (Succeeds host (run host terminal h argv disk) ∧
      ∃ result, (Link.run host host.environment argv disk).answer = .ok result) ∨
    (¬ Succeeds host (run host terminal h argv disk) ∧
      ∃ fault, (Link.run host host.environment argv disk).answer = .error fault ∧
        Stops host (run host terminal h argv disk) fault) := by
  have hcalls : (run host terminal h argv disk).calls =
      (Link.run host host.environment argv disk).calls := rfl
  have hearly {fault : Fault} (hnone : (Link.run host host.environment argv disk).calls = [])
      (hfault : (Link.run host host.environment argv disk).answer = .error fault)
      (hregular : fault.Regular) : ¬ Succeeds host (run host terminal h argv disk) ∧
        ∃ fault, (Link.run host host.environment argv disk).answer = .error fault ∧
          Stops host (run host terminal h argv disk) fault := by
    refine ⟨?_, fault, hfault, .early (hcalls.trans hnone) hregular⟩
    rintro ⟨call, finished, hcall, -⟩
    rw [hcalls, hnone] at hcall
    cases hcall
  cases hplan : (Link.plan host host.environment argv disk).answer with
  | error fault =>
    obtain ⟨hnone, hfault⟩ := Link.run_of_fault hplan
    exact Or.inr (hearly hnone hfault ((Link.plan_quiet ..).regular disk fault hplan))
  | ok p =>
    obtain ⟨hruncalls, hrunanswer⟩ := Link.run_of_plan hplan
    obtain ⟨left, fault, hhalts, hyields⟩ | ⟨path, found, -, hyields⟩ := Invocation.run_cases
      (Link.settings host host.environment) p.linker p.arguments p.directory disk
    · have hregular : fault.Regular := by cases hhalts <;> (intro text h; cases h)
      exact Or.inr (hearly (hruncalls.trans hyields.calls_eq)
        (hrunanswer.trans hyields.answer_eq) hregular)
    · rw [hrunanswer, hyields.answer_eq]
      exact cases_of_verdict rfl (hcalls.trans (hruncalls.trans hyields.calls_eq)) rfl

/-- A run exits with zero exactly if it succeeds. Otherwise it ends as the fault demands that
stopped it, and leaves its message once, after all of the logs and whatever their filter lets
through. -/
theorem run_ends (host : Host) (terminal : Bool) (h : Log.Hierarchy) (argv : List String)
    (disk : Disk) :
    ((run host terminal h argv disk).ending = .exited 0 ↔
      Succeeds host (run host terminal h argv disk)) ∧
    (Succeeds host (run host terminal h argv disk) → (run host terminal h argv disk).written =
      writings (configure h host.environment terminal) (run host terminal h argv disk).records) ∧
    (¬ Succeeds host (run host terminal h argv disk) → ∃ fault message,
      (Link.run host host.environment argv disk).answer = .error fault ∧
      Stops host (run host terminal h argv disk) fault ∧
      Ends host.environment fault (run host terminal h argv disk).ending message ∧
      (run host terminal h argv disk).written =
        writings (configure h host.environment terminal) (run host terminal h argv disk).records ++
          message.toList.map fun m => (.standardError, "Error: " ++ m ++ "\n")) := by
  have hending : (run host terminal h argv disk).ending =
      (conclude host.environment (Link.run host host.environment argv disk).answer).1 := rfl
  have hwritten : (run host terminal h argv disk).written =
      writings (configure h host.environment terminal) (run host terminal h argv disk).records ++
        (conclude host.environment (Link.run host host.environment argv disk).answer).2.toList.map
          fun m => (.standardError, "Error: " ++ m ++ "\n") := rfl
  obtain ⟨hgood, result, hanswer⟩ | ⟨hbad, fault, hanswer, hstops⟩ :=
    link_cases host terminal h argv disk
  · rw [hanswer] at hending hwritten
    refine ⟨⟨fun _ => hgood, fun _ => hending⟩, fun _ => ?_, fun hbad => absurd hgood hbad⟩
    rw [hwritten]
    exact List.append_nil _
  · rw [hanswer] at hending hwritten
    have hends := ends_conclude host.environment fault
    rw [← hending] at hends
    refine ⟨⟨fun hzero => ?_, fun hgood => absurd hgood hbad⟩, fun hgood => absurd hgood hbad,
      fun _ => ⟨fault, _, hanswer, hstops, hends, hwritten⟩⟩
    rw [hzero] at hends
    cases hends

end LinkRelay.Program
