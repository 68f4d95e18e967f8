import LinkRelay.Link
import LinkRelay.Proofs.ArgumentFile
import LinkRelay.Proofs.BuildScript.Merge
import LinkRelay.Proofs.ControlFlag.CommandLine
import LinkRelay.Proofs.Invocation
import LinkRelay.Proofs.Library.KeepLast
import LinkRelay.Proofs.Linker
import LinkRelay.Proofs.TargetDirectory

namespace LinkRelay.Link

/-- What is left to do with a link after the build script was asked. -/
def Plan.ofMerged (linker : String) (collapses : Bool) (merged : BuildScript.Merged) : Plan :=
  ⟨linker, if collapses then Library.collapse Library.flagStart merged.tokens else merged.tokens,
    merged.directory⟩

/-- Planning a link starts nothing and leaves the disk alone. -/
theorem plan_quiet (host : Host) (env : Environment) (argv : List String) :
    (plan host env argv).Quiet := by
  refine .bind (.log ..) fun _ => .bind (.log ..) fun _ => .bind (ArgumentFile.expand_quiet argv)
    fun tokens => .bind (.log ..) fun _ => .bind (ControlFlag.extract_quiet ..) fun request =>
    .bind (Linker.resolve_quiet ..) fun linker => .bind (.log ..) fun _ => .bind (.log ..) fun _ =>
    .bind (TargetDirectory.infer_quiet ..) fun target => .bind (BuildScript.merge_quiet ..)
    fun merged => ?_
  split
  · exact .bind (.log ..) fun _ => .pure _
  · exact .pure _

/-- The answers of the stages follow one another; no stage notices anything else of the ones before
it. -/
theorem answer_plan (host : Host) (env : Environment) (argv : List String) (disk : Disk) :
    (plan host env argv disk).answer = (do
      let tokens ← (ArgumentFile.expand argv disk).answer
      let request ← (ControlFlag.extract .own tokens disk).answer
      let linker ← (Linker.resolve host env .usual request.linker disk).answer
      let target ← (TargetDirectory.infer .usual request.remaining disk).answer
      let merged ← (BuildScript.merge request.remaining request.directory target disk).answer
      return Plan.ofMerged linker request.collapses merged) := by
  simp only [plan, Step.info, Step.debug, Step.answer_log_bind]
  rw [(ArgumentFile.expand_quiet argv).answer_bind]
  refine congrArg _ (funext fun tokens => ?_)
  rw [Step.answer_log_bind, (ControlFlag.extract_quiet ..).answer_bind]
  refine congrArg _ (funext fun request => ?_)
  rw [(Linker.resolve_quiet ..).answer_bind]
  refine congrArg _ (funext fun linker => ?_)
  rw [Step.answer_log_bind, Step.answer_log_bind, (TargetDirectory.infer_quiet ..).answer_bind]
  refine congrArg _ (funext fun target => ?_)
  rw [(BuildScript.merge_quiet ..).answer_bind]
  refine congrArg _ (funext fun merged => ?_)
  cases hcollapses : request.collapses <;> simp [Plan.ofMerged] <;> rfl

/-- What the arguments of a link are made of: what the command line asks for, once its argument
files are expanded, and what the build script contributes to it. -/
structure Inputs (disk : Disk) (argv : List String) (r : ControlFlag.Request)
    (d : BuildScript.Directives) : Prop where
  asked : ∃ tokens, (ArgumentFile.expand argv disk).answer = .ok tokens ∧ ControlFlag.Asks tokens r
  contributed : ∃ target source,
    (TargetDirectory.infer .usual r.remaining disk).answer = .ok target ∧
      BuildScript.Contributes disk target source d

/-- A link that has come as far as its build script: what it is asked for, the linker that was
found, and the target directory that is implied. -/
structure Underway (host : Host) (env : Environment) (argv : List String) (disk : Disk)
    (r : ControlFlag.Request) (linker : String) (target : Option Path) : Prop where
  asked : ∃ tokens, (ArgumentFile.expand argv disk).answer = .ok tokens ∧ ControlFlag.Asks tokens r
  found : (Linker.resolve host env .usual r.linker disk).answer = .ok linker
  implied : (TargetDirectory.infer .usual r.remaining disk).answer = .ok target
  free : ¬ BuildScript.Blocked disk target

/-- What the linker is asked for: what is left of the command line and then what the build script
contributes, without the libraries that come again if this is asked for. -/
def Plan.ofInputs (linker : String) (r : ControlFlag.Request) (d : BuildScript.Directives) :
    Plan where
  linker := linker
  arguments :=
    if r.collapses then Library.keepLast Library.flagStart (r.remaining ++ d.arguments)
    else r.remaining ++ d.arguments
  directory := d.directory.or r.directory

section Underway

variable {host : Host} {env : Environment} {argv : List String} {disk : Disk}
  {r : ControlFlag.Request} {linker : String} {target : Option Path}

theorem Underway.inputs (hunderway : Underway host env argv disk r linker target)
    {source : Option Path} {d : BuildScript.Directives}
    (hd : BuildScript.Contributes disk target source d) : Inputs disk argv r d :=
  ⟨hunderway.asked, target, source, hunderway.implied, hd⟩

/-- A link that has come as far as its build script comes to a plan. -/
theorem Underway.answer_plan (hunderway : Underway host env argv disk r linker target) :
    ∃ source d, BuildScript.Contributes disk target source d ∧
      (plan host env argv disk).answer = .ok (Plan.ofInputs linker r d) := by
  obtain ⟨⟨tokens, htokens, hasks⟩, hfound, himplied, hfree⟩ := hunderway
  obtain ⟨hblocked, -⟩ | ⟨-, source, d, hd, hmerged⟩ :=
    BuildScript.answer_merge_cases r.remaining r.directory target disk
  · exact absurd hblocked hfree
  · refine ⟨source, d, hd, ?_⟩
    rw [Link.answer_plan, htokens, Answer.ok_bind, ControlFlag.answer_extract,
      ControlFlag.scan_eq_ok_iff.mpr hasks]
    simp only [Answer.ok_bind, hfound, himplied, hmerged, Plan.ofMerged,
      Library.collapse_eq_keepLast]
    rfl

/-- A plan that is reached went by way of the build script. -/
theorem exists_underway_of_plan {p : Plan} (hplan : (plan host env argv disk).answer = .ok p) :
    ∃ r linker target source d, Underway host env argv disk r linker target ∧
      BuildScript.Contributes disk target source d ∧ p = Plan.ofInputs linker r d := by
  rw [answer_plan] at hplan
  obtain ⟨tokens, htokens, hplan⟩ := Answer.bind_eq_ok_iff.mp hplan
  obtain ⟨r, hr, hplan⟩ := Answer.bind_eq_ok_iff.mp hplan
  obtain ⟨linker, hlinker, hplan⟩ := Answer.bind_eq_ok_iff.mp hplan
  obtain ⟨target, htarget, hplan⟩ := Answer.bind_eq_ok_iff.mp hplan
  obtain ⟨merged, hmerged, hplan⟩ := Answer.bind_eq_ok_iff.mp hplan
  cases hplan
  rw [ControlFlag.answer_extract, ControlFlag.scan_eq_ok_iff] at hr
  obtain ⟨-, path, hanswer⟩ | ⟨hfree, source, d, hd, hanswer⟩ :=
    BuildScript.answer_merge_cases r.remaining r.directory target disk
  · rw [hanswer] at hmerged
    cases hmerged
  · rw [hanswer] at hmerged
    cases hmerged
    refine ⟨r, linker, target, source, d, ⟨⟨tokens, htokens, hr⟩, hlinker, htarget, hfree⟩, hd, ?_⟩
    rw [Plan.ofMerged, Plan.ofInputs, Library.collapse_eq_keepLast]

end Underway

/-- A plan's arguments are what is left of the command line and then what the build script
contributes, without the libraries that come again if this is asked for. -/
theorem arguments_of_plan {host : Host} {env : Environment} {argv : List String} {disk : Disk}
    {p : Plan} (hplan : (plan host env argv disk).answer = .ok p) :
    ∃ r d, Inputs disk argv r d ∧ p.arguments =
      if r.collapses then Library.keepLast Library.flagStart (r.remaining ++ d.arguments)
      else r.remaining ++ d.arguments := by
  obtain ⟨r, linker, target, source, d, hunderway, hd, rfl⟩ := exists_underway_of_plan hplan
  exact ⟨r, d, hunderway.inputs hd, rfl⟩

/-- A link with a plan is the invocation that the plan tells. -/
theorem run_of_plan {host : Host} {env : Environment} {argv : List String} {disk : Disk}
    {p : Plan} (hplan : (plan host env argv disk).answer = .ok p) :
    (run host env argv disk).calls =
        (Invocation.run (settings host env) p.linker p.arguments p.directory disk).calls ∧
      (run host env argv disk).answer =
        (Invocation.run (settings host env) p.linker p.arguments p.directory disk).answer := by
  rw [run, (plan_quiet ..).calls_bind hplan, (plan_quiet ..).answer_bind, hplan]
  exact ⟨rfl, rfl⟩

/-- A link without a plan starts nothing and ends in what kept it from having one. -/
theorem run_of_fault {host : Host} {env : Environment} {argv : List String} {disk : Disk}
    {fault : Fault} (hplan : (plan host env argv disk).answer = .error fault) :
    (run host env argv disk).calls = [] ∧ (run host env argv disk).answer = .error fault := by
  rw [run, Step.calls_bind_of_error hplan, (plan_quiet ..).startsNothing,
    (plan_quiet ..).answer_bind, hplan]
  exact ⟨rfl, rfl⟩

/-- Where the linker is started, there was a plan, and the command is the plan's. -/
theorem exists_plan_of_call {host : Host} {env : Environment} {argv : List String} {disk : Disk}
    {call : Call} (hcall : call ∈ (run host env argv disk).calls) :
    ∃ p path, (plan host env argv disk).answer = .ok p ∧
      call.command = p.linker :: Invocation.handedOver p.arguments path := by
  cases hplan : (plan host env argv disk).answer with
  | error fault =>
    rw [(run_of_fault hplan).1] at hcall
    cases hcall
  | ok p =>
    rw [(run_of_plan hplan).1] at hcall
    obtain ⟨left, fault, -, hyields⟩ | ⟨path, found, -, hyields⟩ :=
      Invocation.run_cases (settings host env) p.linker p.arguments p.directory disk
    · rw [hyields.calls_eq] at hcall
      cases hcall
    · rw [hyields.calls_eq, List.mem_singleton] at hcall
      subst hcall
      exact ⟨p, path, rfl, rfl⟩

end LinkRelay.Link
