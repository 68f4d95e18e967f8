import LinkRelay.Proofs.Link.Plan
import LinkRelay.Proofs.Log.Hierarchy

namespace LinkRelay

open Log (StandsBelow)

/-- A record of a logger below the base logger that is no more urgent than a warning. -/
structure Log.Record.Ordinary (record : Log.Record) : Prop where
  level : record.level ≤ .warning
  logger : StandsBelow record.logger

namespace Log.Record.Ordinary

variable {logger : String}

theorem debug (hlogger : StandsBelow logger) (text : String) : Ordinary ⟨.debug, logger, text⟩ :=
  ⟨show Log.Level.debug ≤ .warning by decide, hlogger⟩

theorem info (hlogger : StandsBelow logger) (text : String) : Ordinary ⟨.info, logger, text⟩ :=
  ⟨show Log.Level.info ≤ .warning by decide, hlogger⟩

end Log.Record.Ordinary

namespace Step.Logs

variable {logger : String}

theorem debug (hlogger : StandsBelow logger) (text : String) :
    (Step.debug logger text).Logs Log.Record.Ordinary :=
  .log (.debug hlogger text)

theorem info (hlogger : StandsBelow logger) (text : String) :
    (Step.info logger text).Logs Log.Record.Ordinary :=
  .log (.info hlogger text)

theorem warning (hlogger : StandsBelow logger) (text : String) :
    (Step.warning logger text).Logs Log.Record.Ordinary :=
  .log ⟨Int.le_refl _, hlogger⟩

end Step.Logs

namespace ArgumentFile

theorem standsBelow_logger : StandsBelow logger :=
  Or.inr ⟨"parsing.rsp", by decide, by decide⟩

theorem read_logs (path : Path) : (read path).Logs Log.Record.Ordinary := by
  refine .bind (.attempt (.look _)) fun answer => ?_
  cases answer with
  | ok text =>
    refine .bind (.pure text) fun _ => .bind (.debug standsBelow_logger _) fun _ => ?_
    split
    · exact .pure _
    · exact .fail _
  | error fault =>
    dsimp only
    split <;> exact .fail_bind _ _

theorem expandToken_logs (token : String) : (expandToken token).Logs Log.Record.Ordinary := by
  rw [expandToken]
  split
  · exact .pure _
  · refine .bind (.look _) fun found => ?_
    split
    · exact read_logs _
    · exact .pure _

/-- Expanding a command line logs under a logger of its own. -/
theorem expand_logs (argv : List String) : (expand argv).Logs Log.Record.Ordinary := by
  induction argv with
  | nil => exact .pure _
  | cons token rest ih =>
    exact .bind (expandToken_logs token) fun _ => .bind ih fun _ => .pure _

end ArgumentFile

theorem ControlFlag.extract_logs (v : Vocabulary) (tokens : List String) :
    (extract v tokens).Logs Log.Record.Ordinary := by
  have hlogger : StandsBelow logger := Or.inr ⟨"parsing.flags", by decide, by decide⟩
  exact .bind (.ofExcept _) fun _ => .bind (.debug hlogger _) fun _ => .pure _

namespace Linker

theorem standsBelow_logger : StandsBelow logger :=
  Or.inr ⟨"discovery.linker", by decide, by decide⟩

theorem fromEnvironment_logs (env : Environment) (sources : Sources) :
    (fromEnvironment env sources).Logs Log.Record.Ordinary := by
  rw [fromEnvironment]
  split
  · exact .bind (.debug standsBelow_logger _) fun _ => .pure _
  · exact .pure _

theorem fromSearchPath_logs (host : Host) (env : Environment) (sources : Sources) :
    (fromSearchPath host env sources).Logs Log.Record.Ordinary := by
  refine .bind (.look _) fun found => ?_
  split
  · exact .bind (.debug standsBelow_logger _) fun _ => .pure _
  · exact .pure _

/-- Finding the linker logs under a logger of its own, at every turn. -/
theorem resolve_logs (host : Host) (env : Environment) (sources : Sources)
    (asked : Option String) : (resolve host env sources asked).Logs Log.Record.Ordinary := by
  rw [resolve]
  split
  · exact .pure _
  · refine .bind (fromEnvironment_logs ..) fun named => ?_
    split
    · exact .pure _
    · refine .bind (fromSearchPath_logs ..) fun found => ?_
      split
      · exact .pure _
      · exact .fail _

end Linker

theorem TargetDirectory.infer_logs (marks : Marks) (tokens : List String) :
    (infer marks tokens).Logs Log.Record.Ordinary := by
  have hlogger : StandsBelow logger := Or.inr ⟨"discovery.target", by decide, by decide⟩
  rw [infer]
  split
  · exact .pure _
  · exact .bind (.debug hlogger _) fun _ => .bind (.debug hlogger _) fun _ => .pure _

namespace BuildScript

theorem Layout.locate_logs {logger : String} (hlogger : StandsBelow logger) (layout : Layout)
    (target : Path) : (layout.locate logger target).Logs Log.Record.Ordinary := by
  have hdiscovery : StandsBelow "ldproxy.discovery.target" :=
    Or.inr ⟨"discovery.target", by decide, by decide⟩
  refine .bind (.look _) fun isBuild => ?_
  split
  · refine .bind (findCompanion_logs (.debug hdiscovery) _ _) fun companion => ?_
    split
    · refine .bind (.look _) fun isFile => ?_
      split
      · exact .pure _
      · exact .bind (.warning hlogger _) fun _ => .pure _
    · exact .bind (.warning hlogger _) fun _ => .pure _
  · exact .bind (.warning hlogger _) fun _ => .pure _

theorem standsBelow_mergeLogger : StandsBelow mergeLogger :=
  Or.inr ⟨"merger", by decide, by decide⟩

theorem applyDirectives_logs (tokens : List String) (directory : Option String) (source : Path)
    (d : Directives) : (applyDirectives tokens directory source d).Logs Log.Record.Ordinary := by
  have hinfo := Step.Logs.info standsBelow_mergeLogger
  have hwarning := Step.Logs.warning standsBelow_mergeLogger
  refine .bind (hinfo _) fun _ => ?_
  obtain ⟨arguments, asked, linker⟩ := d
  cases asked with
  | none =>
    cases arguments with
    | nil => exact .bind (hwarning _) fun _ => .pure _
    | cons => exact .bind (hinfo _) fun _ => .pure _
  | some path =>
    refine .bind (hinfo _) fun _ => ?_
    cases arguments with
    | nil => exact .bind (hwarning _) fun _ => .pure _
    | cons => exact .bind (hinfo _) fun _ => .pure _

theorem merge_logs (tokens : List String) (directory : Option String) (target : Option Path) :
    (merge tokens directory target).Logs Log.Record.Ordinary := by
  cases target with
  | none => exact .pure _
  | some target =>
    refine .bind (.info standsBelow_mergeLogger _) fun _ =>
      .bind (Layout.locate_logs standsBelow_mergeLogger ..) fun located => ?_
    split
    · exact .pure _
    · refine .bind (.debug standsBelow_mergeLogger _) fun _ =>
        .bind (.attempt (parse_logs (.debug standsBelow_mergeLogger)
          (.info standsBelow_mergeLogger) ..)) fun parsed => ?_
      split
      · exact applyDirectives_logs ..
      · split
        · exact .bind (.warning standsBelow_mergeLogger _) fun _ => .pure _
        · exact .fail _

end BuildScript

namespace ResponseFile

theorem write_logs (standIns : Utf8.StandIns) (tokens : List String) (path : Path) :
    (write standIns tokens path).Logs Log.Record.Ordinary := by
  rw [write]
  split
  · exact .change _
  · exact .bind (.change _) fun _ => .fail _

theorem remove_logs (path : Path) : (remove path).Logs Log.Record.Ordinary :=
  .change _

section Logger

variable {logger : String} (hlogger : StandsBelow logger)
include hlogger

theorem cleanUp_logs (path : Path) : (cleanUp logger path).Logs Log.Record.Ordinary := by
  refine .bind (.attempt (remove_logs path)) fun removed => ?_
  split
  · exact .pure _
  · split
    · exact .pure _
    · exact .warning hlogger _
  · exact .fail _

/-- A response file adds ordinary records to those of the step that uses it. -/
theorem within_logs {α : Type} (standIns : Utf8.StandIns) (tokens : List String) (path : Path)
    {body : Option Path → Step α} (hbody : ∀ file, (body file).Logs Log.Record.Ordinary) :
    (within standIns logger tokens path body).Logs Log.Record.Ordinary := by
  refine .bind (.attempt (write_logs standIns tokens path)) fun written => ?_
  split
  · exact .bind (.info hlogger _) fun _ => .bind (.attempt (hbody _)) fun _ =>
      .bind (cleanUp_logs hlogger path) fun _ => .ofExcept _
  · exact .bind (.warning hlogger _) fun _ => .bind (.attempt (remove_logs path)) fun _ => hbody _
  · exact .fail _

end Logger

end ResponseFile

namespace Invocation

theorem standsBelow_logger : StandsBelow logger :=
  Or.inr ⟨"invoker", by decide, by decide⟩

theorem reportCommand_logs (linker : String) (arguments : List String) :
    (reportCommand linker arguments).Logs Log.Record.Ordinary := by
  refine .bind (.info standsBelow_logger _) fun _ => ?_
  dsimp only
  split
  · exact .debug standsBelow_logger _
  · exact .bind (.debug standsBelow_logger _) fun _ => .debug standsBelow_logger _

theorem start_logs (host : Host) (linker : String) (arguments : List String)
    (directory : Option String) :
    (start host linker arguments directory).Logs Log.Record.Ordinary := by
  refine .bind (.debug standsBelow_logger _) fun _ =>
    .bind (.attempt (.start host _ directory)) fun answer => ?_
  split
  · exact .pure _
  · exact .fail _
  · exact .fail _

theorem handOver_logs (s : Settings) (linker : String) (arguments : List String)
    (directory : Option String) :
    (handOver s linker arguments directory).Logs Log.Record.Ordinary := by
  have hstart (path : Option Path) : Step.Logs Log.Record.Ordinary
      (start s.host linker (handedOver arguments path) directory >>= fun finished =>
        pure (finished, path)) :=
    .bind (start_logs ..) fun _ => .pure _
  rw [handOver]
  split
  · exact .bind (.info standsBelow_logger _) fun _ =>
      ResponseFile.within_logs standsBelow_logger _ _ _ hstart
  · exact hstart none

theorem streamText_logs (stream : Stream) (bytes : List UInt8) :
    (streamText stream bytes).Logs Log.Record.Ordinary := by
  rw [streamText]
  split
  · exact .pure _
  · exact .fail _

theorem conclude_logs (s : Settings) (linker : String) (arguments : List String)
    (directory : Option String) (finished : Finished) (path : Option Path) :
    (conclude s linker arguments directory finished path).Logs Log.Record.Ordinary := by
  refine .bind (streamText_logs _ _) fun _ => .bind (streamText_logs _ _) fun _ =>
    .bind (.debug standsBelow_logger _) fun _ => .bind (.debug standsBelow_logger _) fun _ => ?_
  split
  · exact .fail _
  · split
    · exact .fail _
    · exact .pure _

theorem run_logs (s : Settings) (linker : String) (arguments : List String)
    (directory : Option String) :
    (run s linker arguments directory).Logs Log.Record.Ordinary := by
  have hrest : Step.Logs Log.Record.Ordinary (reportCommand linker arguments >>= fun _ =>
      handOver s linker arguments directory >>= fun handed =>
        conclude s linker arguments directory handed.1 handed.2) :=
    .bind (reportCommand_logs ..) fun _ => .bind (handOver_logs ..) fun _ => conclude_logs ..
  rw [run]
  split
  · exact .bind (.info standsBelow_logger _) fun _ => hrest
  · exact hrest

end Invocation

namespace Link

/-- Every stage of a plan logs ordinary records. -/
theorem plan_logs (host : Host) (env : Environment) (argv : List String) :
    (plan host env argv).Logs Log.Record.Ordinary := by
  have hlogger : StandsBelow logger := Or.inr ⟨"runner", by decide, by decide⟩
  refine .bind (.info hlogger _) fun _ => .bind (.debug hlogger _) fun _ =>
    .bind (ArgumentFile.expand_logs argv) fun _ => .bind (.debug hlogger _) fun _ =>
    .bind (ControlFlag.extract_logs ..) fun _ => .bind (Linker.resolve_logs ..) fun _ =>
    .bind (.debug hlogger _) fun _ => .bind (.debug hlogger _) fun _ =>
    .bind (TargetDirectory.infer_logs ..) fun _ => .bind (BuildScript.merge_logs ..) fun _ => ?_
  split
  · exact .bind (.debug hlogger _) fun _ => .pure _
  · exact .pure _

/-- All that a link logs is ordinary, whatever comes of it. -/
theorem run_logs (host : Host) (env : Environment) (argv : List String) :
    (run host env argv).Logs Log.Record.Ordinary :=
  .bind (plan_logs ..) fun _ => Invocation.run_logs ..

end Link

end LinkRelay
