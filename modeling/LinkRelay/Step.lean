import LinkRelay.Disk
import LinkRelay.Log.Record

namespace LinkRelay

/-- A process that is started: its command, its working directory if it is not the current one, and
the disk it finds. -/
structure Call where
  command : List String
  directory : Option String
  disk : Disk
deriving DecidableEq, Repr

/-- What can be seen of a step from outside while it runs. -/
inductive Event where
  | logged (record : Log.Record)
  | started (call : Call)
deriving DecidableEq, Repr

def Event.record? : Event → Option Log.Record
  | .logged record => some record
  | .started _ => none

def Event.call? : Event → Option Call
  | .logged _ => none
  | .started call => some call

/-- What comes of a step: the events in order, the disk it leaves, and its answer. -/
structure Outcome (α : Type) where
  events : List Event
  disk : Disk
  answer : Except Fault α

namespace Outcome

variable {α : Type}

/-- The records of an outcome, in order. -/
def records (o : Outcome α) : List Log.Record :=
  o.events.filterMap Event.record?

/-- The processes started, in order. -/
def calls (o : Outcome α) : List Call :=
  o.events.filterMap Event.call?

end Outcome

/-- A computation that starts from a disk, logs and starts processes on its way, leaves a disk, and
ends in an answer or a fault. What it did before a fault stays done. -/
def Step (α : Type) : Type :=
  Disk → Outcome α

namespace Step

variable {α β : Type}

/-- Answers at once. -/
protected def pure (a : α) : Step α :=
  fun disk => ⟨[], disk, .ok a⟩

/-- Ends in a fault at once. -/
def fail (fault : Fault) : Step α :=
  fun disk => ⟨[], disk, .error fault⟩

/-- Goes on with the answer of a step, if it has one. -/
protected def bind (first : Step α) (next : α → Step β) : Step β :=
  fun disk =>
    let o := first disk
    match o.answer with
    | .ok a =>
      let o' := next a o.disk
      ⟨o.events ++ o'.events, o'.disk, o'.answer⟩
    | .error fault => ⟨o.events, o.disk, .error fault⟩

instance : Monad Step where
  pure := Step.pure
  bind := Step.bind

/-- A step that answers with what came of another one, be it a fault. -/
def attempt (step : Step α) : Step (Except Fault α) :=
  fun disk =>
    let o := step disk
    ⟨o.events, o.disk, .ok o.answer⟩

/-- The answer that was found without doing anything. -/
def ofExcept : Except Fault α → Step α
  | .ok a => .pure a
  | .error fault => .fail fault

/-- An answer that depends on the disk alone. -/
def look (question : Disk → Except Fault α) : Step α :=
  fun disk => ⟨[], disk, question disk⟩

/-- Changes the disk, or is refused and leaves it alone. -/
def change (operation : Disk → Except Fault Disk) : Step Unit :=
  fun disk =>
    match operation disk with
    | .ok disk' => ⟨[], disk', .ok ()⟩
    | .error fault => ⟨[], disk, .error fault⟩

/-- Logs a text. -/
def log (level : Log.Level) (logger text : String) : Step Unit :=
  fun disk => ⟨[.logged ⟨level, logger, text⟩], disk, .ok ()⟩

def debug (logger text : String) : Step Unit :=
  log .debug logger text

def info (logger text : String) : Step Unit :=
  log .info logger text

def warning (logger text : String) : Step Unit :=
  log .warning logger text

end Step

end LinkRelay
