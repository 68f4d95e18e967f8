import LinkRelay.Host
import LinkRelay.Proofs.Answer

namespace LinkRelay

/-- The warnings among the records of an outcome, in order. -/
def Outcome.warnings {α : Type} (o : Outcome α) : List Log.Record :=
  o.records.filter fun record => record.level = .warning

namespace Step

variable {α β : Type}

/-- Two steps leave the events of both, the disk of the second and its answer. -/
theorem bind_of_ok {first : Step α} {next : α → Step β} {disk : Disk} {a : α}
    (hanswer : (first disk).answer = .ok a) :
    (first >>= next) disk =
      ⟨(first disk).events ++ (next a (first disk).disk).events, (next a (first disk).disk).disk,
        (next a (first disk).disk).answer⟩ := by
  change Step.bind first next disk = _
  simp only [Step.bind, hanswer]

/-- A fault ends a composed step on the disk that the first part left. -/
theorem bind_of_error {first : Step α} {next : α → Step β} {disk : Disk} {fault : Fault}
    (hanswer : (first disk).answer = .error fault) :
    (first >>= next) disk = ⟨(first disk).events, (first disk).disk, .error fault⟩ := by
  change Step.bind first next disk = _
  simp only [Step.bind, hanswer]

/-- The second step answers from the disk that the first one left. -/
theorem answer_bind (first : Step α) (next : α → Step β) (disk : Disk) :
    ((first >>= next) disk).answer =
      (first disk).answer >>= fun a => (next a (first disk).disk).answer := by
  cases hanswer : (first disk).answer with
  | error fault => rw [bind_of_error hanswer]; rfl
  | ok a => rw [bind_of_ok hanswer]; rfl

theorem calls_bind_of_ok {first : Step α} {next : α → Step β} {disk : Disk} {a : α}
    (hanswer : (first disk).answer = .ok a) :
    ((first >>= next) disk).calls = (first disk).calls ++ (next a (first disk).disk).calls := by
  rw [bind_of_ok hanswer]
  exact List.filterMap_append

theorem calls_bind_of_error {first : Step α} {next : α → Step β} {disk : Disk} {fault : Fault}
    (hanswer : (first disk).answer = .error fault) :
    ((first >>= next) disk).calls = (first disk).calls := by
  rw [bind_of_error hanswer]
  rfl

theorem change_of_ok {operation : Disk → Except Fault Disk} {disk disk' : Disk}
    (hchange : operation disk = .ok disk') : change operation disk = ⟨[], disk', .ok ()⟩ := by
  simp only [change, hchange]

theorem change_of_error {operation : Disk → Except Fault Disk} {disk : Disk} {fault : Fault}
    (hchange : operation disk = .error fault) :
    change operation disk = ⟨[], disk, .error fault⟩ := by
  simp only [change, hchange]

/-- A step that leaves the disk as it finds it, starts no process and is not interrupted, so that
its answer is all that a later step can notice of it. -/
structure Quiet (step : Step α) : Prop where
  keepsDisk : ∀ disk, (step disk).disk = disk
  startsNothing : ∀ disk, (step disk).calls = []
  regular : ∀ disk fault, (step disk).answer = .error fault → fault.Regular

namespace Quiet

theorem pure (a : α) : Quiet (Pure.pure a : Step α) where
  keepsDisk _ := rfl
  startsNothing _ := rfl
  regular _ _ hfault := by cases hfault

theorem fail {fault : Fault} (hregular : fault.Regular) : Quiet (Step.fail fault : Step α) where
  keepsDisk _ := rfl
  startsNothing _ := rfl
  regular _ _ hfault := by cases hfault; exact hregular

/-- What would follow a fault does not matter. -/
theorem fail_bind {fault : Fault} (hregular : fault.Regular) (next : α → Step β) :
    Quiet (Step.fail fault >>= next) :=
  Quiet.fail hregular

theorem look {question : Disk → Except Fault α}
    (hregular : ∀ disk fault, question disk = .error fault → fault.Regular) :
    Quiet (Step.look question) where
  keepsDisk _ := rfl
  startsNothing _ := rfl
  regular := hregular

theorem look_ok (answer : Disk → α) : Quiet (Step.look fun disk => .ok (answer disk)) :=
  .look fun _ _ hfault => by cases hfault

theorem log (level : Log.Level) (logger text : String) : Quiet (Step.log level logger text) where
  keepsDisk _ := rfl
  startsNothing _ := rfl
  regular _ _ hfault := by cases hfault

theorem ofExcept {answer : Except Fault α}
    (hregular : ∀ fault, answer = .error fault → fault.Regular) :
    Quiet (Step.ofExcept answer) := by
  cases answer with
  | ok a => exact Quiet.pure a
  | error fault => exact Quiet.fail (hregular fault rfl)

theorem attempt {step : Step α} (hquiet : Quiet step) : Quiet step.attempt where
  keepsDisk := hquiet.keepsDisk
  startsNothing := hquiet.startsNothing
  regular _ _ hfault := by cases hfault

/-- Only those continuations matter that the first step can lead to. -/
private theorem bind_of_answers {first : Step α} {next : α → Step β} (hfirst : Quiet first)
    (hnext : ∀ disk a, (first disk).answer = .ok a → Quiet (next a)) : Quiet (first >>= next) := by
  constructor
  · intro disk
    cases hanswer : (first disk).answer with
    | error fault => rw [bind_of_error hanswer]; exact hfirst.keepsDisk disk
    | ok a => rw [bind_of_ok hanswer, hfirst.keepsDisk]; exact (hnext disk a hanswer).keepsDisk disk
  · intro disk
    cases hanswer : (first disk).answer with
    | error fault => rw [calls_bind_of_error hanswer, hfirst.startsNothing]
    | ok a =>
      rw [calls_bind_of_ok hanswer, hfirst.startsNothing, (hnext disk a hanswer).startsNothing]
      rfl
  · intro disk fault hfault
    cases hanswer : (first disk).answer with
    | error fault' =>
      rw [bind_of_error hanswer] at hfault
      cases hfault
      exact hfirst.regular disk fault hanswer
    | ok a =>
      rw [bind_of_ok hanswer] at hfault
      exact (hnext disk a hanswer).regular _ fault hfault

theorem bind {first : Step α} {next : α → Step β} (hfirst : Quiet first)
    (hnext : ∀ a, Quiet (next a)) : Quiet (first >>= next) :=
  hfirst.bind_of_answers fun _ a _ => hnext a

/-- What handles the fault of a quiet step never has an interruption to handle. -/
theorem attempt_bind {first : Step α} {next : Except Fault α → Step β} (hfirst : Quiet first)
    (hok : ∀ a, Quiet (next (.ok a)))
    (herror : ∀ fault, fault.Regular → Quiet (next (.error fault))) :
    Quiet (first.attempt >>= next) := by
  refine hfirst.attempt.bind_of_answers fun disk answer hanswer => ?_
  cases answer with
  | ok a => exact hok a
  | error fault =>
    exact herror fault (hfirst.regular disk fault (Except.ok.inj hanswer))

/-- The answer of a quiet step is handed on, and nothing else of it is. -/
theorem answer_bind {first : Step α} (hquiet : Quiet first) (next : α → Step β) (disk : Disk) :
    ((first >>= next) disk).answer = (first disk).answer >>= fun a => (next a disk).answer := by
  rw [Step.answer_bind, hquiet.keepsDisk]

/-- What follows a quiet step that answers starts the processes there are. -/
theorem calls_bind {first : Step α} (hquiet : Quiet first) {next : α → Step β} {disk : Disk} {a : α}
    (hanswer : (first disk).answer = .ok a) :
    ((first >>= next) disk).calls = (next a disk).calls := by
  rw [calls_bind_of_ok hanswer, hquiet.startsNothing, hquiet.keepsDisk, List.nil_append]

end Quiet

@[simp]
theorem answer_pure (a : α) (disk : Disk) : ((pure a : Step α) disk).answer = .ok a :=
  rfl

@[simp]
theorem answer_look (question : Disk → Except Fault α) (disk : Disk) :
    (look question disk).answer = question disk :=
  rfl

@[simp]
theorem answer_ofExcept (answer : Except Fault α) (disk : Disk) :
    (ofExcept answer disk).answer = answer := by
  cases answer <;> rfl

@[simp]
theorem answer_attempt (step : Step α) (disk : Disk) :
    (step.attempt disk).answer = .ok (step disk).answer :=
  rfl

theorem answer_look_bind (question : Disk → Except Fault α) (next : α → Step β) (disk : Disk) :
    ((look question >>= next) disk).answer = question disk >>= fun a => (next a disk).answer :=
  Step.answer_bind ..

/-- Logging shows in no answer. -/
@[simp]
theorem answer_log_bind (level : Log.Level) (logger text : String) (next : Unit → Step β)
    (disk : Disk) : ((log level logger text >>= next) disk).answer = (next () disk).answer :=
  rfl

/-- What a step yields from a disk: the processes it starts, the disk it leaves, and its answer. Its
log is left out. -/
structure Yields (step : Step α) (disk : Disk) (calls : List Call) (left : Disk)
    (answer : Except Fault α) : Prop where
  calls_eq : (step disk).calls = calls
  disk_eq : (step disk).disk = left
  answer_eq : (step disk).answer = answer

/-- All that a quiet step yields is its answer. -/
theorem Quiet.yields {step : Step α} (hquiet : Quiet step) (disk : Disk) :
    Yields step disk [] disk (step disk).answer :=
  ⟨hquiet.startsNothing disk, hquiet.keepsDisk disk, rfl⟩

namespace Yields

variable {first : Step α} {next : α → Step β} {disk left left' : Disk} {calls calls' : List Call}
  {a : α} {answer : Except Fault β}

/-- The processes of both steps are started one after another, the second from the disk of the
first. -/
theorem bind_ok (hfirst : Yields first disk calls left (.ok a))
    (hnext : Yields (next a) left calls' left' answer) :
    Yields (first >>= next) disk (calls ++ calls') left' answer := by
  constructor
  · rw [calls_bind_of_ok hfirst.answer_eq, hfirst.calls_eq, hfirst.disk_eq, hnext.calls_eq]
  · rw [bind_of_ok hfirst.answer_eq, hfirst.disk_eq]
    exact hnext.disk_eq
  · rw [bind_of_ok hfirst.answer_eq, hfirst.disk_eq]
    exact hnext.answer_eq

/-- The second of two steps starts the processes there are. -/
theorem silent_bind (hfirst : Yields first disk [] left (.ok a))
    (hnext : Yields (next a) left calls left' answer) :
    Yields (first >>= next) disk calls left' answer :=
  hfirst.bind_ok hnext

/-- The first of two steps starts the processes there are. -/
theorem bind_silent (hfirst : Yields first disk calls left (.ok a))
    (hnext : Yields (next a) left [] left' answer) :
    Yields (first >>= next) disk calls left' answer := by
  simpa only [List.append_nil] using hfirst.bind_ok hnext

theorem bind_error {fault : Fault} (hfirst : Yields first disk calls left (.error fault)) :
    Yields (first >>= next) disk calls left (.error fault) := by
  constructor
  · rw [calls_bind_of_error hfirst.answer_eq, hfirst.calls_eq]
  · rw [bind_of_error hfirst.answer_eq, hfirst.disk_eq]
  · rw [bind_of_error hfirst.answer_eq]

theorem attempt {step : Step β} (hstep : Yields step disk calls left answer) :
    Yields step.attempt disk calls left (.ok answer) :=
  ⟨hstep.calls_eq, hstep.disk_eq, congrArg Except.ok hstep.answer_eq⟩

theorem log_bind {next : Unit → Step β} {level : Log.Level} {logger text : String}
    (hnext : Yields (next ()) disk calls left answer) :
    Yields (log level logger text >>= next) disk calls left answer :=
  silent_bind ((Quiet.log level logger text).yields disk) hnext

theorem ofExcept (disk : Disk) (answer : Except Fault β) :
    Yields (Step.ofExcept answer) disk [] disk answer := by
  cases answer <;> exact ⟨rfl, rfl, rfl⟩

end Yields

/-- A step that logs no records but those with a property. -/
structure Logs (p : Log.Record → Prop) (step : Step α) : Prop where
  records : ∀ disk, ∀ record ∈ (step disk).records, p record

namespace Logs

variable {p : Log.Record → Prop}

theorem pure (a : α) : Logs p (Pure.pure a : Step α) :=
  ⟨fun _ => List.forall_mem_nil p⟩

theorem fail (fault : Fault) : Logs p (Step.fail fault : Step α) :=
  ⟨fun _ => List.forall_mem_nil p⟩

theorem fail_bind (fault : Fault) (next : α → Step β) : Logs p (Step.fail fault >>= next) :=
  ⟨fun _ => List.forall_mem_nil p⟩

theorem look (question : Disk → Except Fault α) : Logs p (Step.look question) :=
  ⟨fun _ => List.forall_mem_nil p⟩

theorem ofExcept (answer : Except Fault α) : Logs p (Step.ofExcept answer) := by
  cases answer with
  | ok a => exact .pure a
  | error fault => exact .fail fault

theorem change (operation : Disk → Except Fault Disk) : Logs p (Step.change operation) := by
  refine ⟨fun disk => ?_⟩
  cases hchange : operation disk with
  | ok disk' => rw [change_of_ok hchange]; exact List.forall_mem_nil p
  | error fault => rw [change_of_error hchange]; exact List.forall_mem_nil p

theorem start (host : Host) (command : List String) (directory : Option String) :
    Logs p (host.start command directory) :=
  ⟨fun _ => List.forall_mem_nil p⟩

theorem log {level : Log.Level} {logger text : String} (hrecord : p ⟨level, logger, text⟩) :
    Logs p (Step.log level logger text) :=
  ⟨fun _ => List.forall_mem_singleton.mpr hrecord⟩

theorem attempt {step : Step α} (hstep : Logs p step) : Logs p step.attempt :=
  ⟨hstep.records⟩

/-- What holds of all that the parts log holds of all that is logged. -/
theorem bind {first : Step α} {next : α → Step β} (hfirst : Logs p first)
    (hnext : ∀ a, Logs p (next a)) : Logs p (first >>= next) := by
  refine ⟨fun disk => ?_⟩
  cases hanswer : (first disk).answer with
  | error fault => rw [bind_of_error hanswer]; exact hfirst.records disk
  | ok a =>
    rw [bind_of_ok hanswer, Outcome.records, List.filterMap_append, List.forall_mem_append]
    exact ⟨hfirst.records disk, (hnext a).records _⟩

end Logs

/-- What comes of a step that leaves the disk alone: its warnings, and its answer. -/
structure Warns (step : Step α) (disk : Disk) (warnings : List Log.Record)
    (answer : Except Fault α) : Prop where
  disk_eq : (step disk).disk = disk
  warnings_eq : (step disk).warnings = warnings
  answer_eq : (step disk).answer = answer

/-- A record that is no warning. -/
def IsCalm (record : Log.Record) : Prop :=
  record.level ≠ .warning

/-- A quiet step that logs nothing but calm records warns of nothing. -/
theorem Quiet.warns {step : Step α} (hquiet : Quiet step) (hcalm : Logs IsCalm step)
    (disk : Disk) : Warns step disk [] (step disk).answer where
  disk_eq := hquiet.keepsDisk disk
  warnings_eq := List.filter_eq_nil_iff.mpr fun record hrecord => by
    simpa [IsCalm] using hcalm.records disk record hrecord
  answer_eq := rfl

namespace Warns

variable {first : Step α} {next : α → Step β} {disk : Disk} {warnings warnings' : List Log.Record}
  {a : α} {answer : Except Fault β}

theorem pure (b : β) (disk : Disk) : Warns (Pure.pure b) disk [] (.ok b) :=
  ⟨rfl, rfl, rfl⟩

theorem look (question : Disk → Except Fault β) (disk : Disk) :
    Warns (Step.look question) disk [] (question disk) :=
  ⟨rfl, rfl, rfl⟩

theorem bind_ok (hfirst : Warns first disk warnings (.ok a))
    (hnext : Warns (next a) disk warnings' answer) :
    Warns (first >>= next) disk (warnings ++ warnings') answer := by
  have hbind : (first >>= next) disk = _ := bind_of_ok hfirst.answer_eq
  rw [hfirst.disk_eq] at hbind
  constructor
  · rw [hbind]
    exact hnext.disk_eq
  · rw [hbind, ← hfirst.warnings_eq, ← hnext.warnings_eq]
    simp only [Outcome.warnings, Outcome.records, List.filterMap_append, List.filter_append]
  · rw [hbind]
    exact hnext.answer_eq

/-- The second of two steps warns of all there is. -/
theorem calm_bind (hfirst : Warns first disk [] (.ok a))
    (hnext : Warns (next a) disk warnings answer) :
    Warns (first >>= next) disk warnings answer :=
  hfirst.bind_ok hnext

theorem bind_error {fault : Fault} (hfirst : Warns first disk warnings (.error fault)) :
    Warns (first >>= next) disk warnings (.error fault) := by
  have hbind : (first >>= next) disk = _ := bind_of_error hfirst.answer_eq
  constructor
  · rw [hbind]
    exact hfirst.disk_eq
  · rw [hbind]
    exact hfirst.warnings_eq
  · rw [hbind]

theorem attempt {step : Step β} (hstep : Warns step disk warnings answer) :
    Warns step.attempt disk warnings (.ok answer) :=
  ⟨hstep.disk_eq, hstep.warnings_eq, congrArg Except.ok hstep.answer_eq⟩

theorem debug_bind {next : Unit → Step β} {logger text : String}
    (hnext : Warns (next ()) disk warnings answer) :
    Warns (Step.debug logger text >>= next) disk warnings answer :=
  calm_bind ⟨rfl, rfl, rfl⟩ hnext

theorem info_bind {next : Unit → Step β} {logger text : String}
    (hnext : Warns (next ()) disk warnings answer) :
    Warns (Step.info logger text >>= next) disk warnings answer :=
  calm_bind ⟨rfl, rfl, rfl⟩ hnext

/-- A warning is the first of those there are. -/
theorem warning_bind {next : Unit → Step β} {logger text : String}
    (hnext : Warns (next ()) disk warnings answer) :
    Warns (Step.warning logger text >>= next) disk (⟨.warning, logger, text⟩ :: warnings) answer :=
  bind_ok ⟨rfl, rfl, rfl⟩ hnext

end Warns

end Step

end LinkRelay
