import LinkRelay.Proofs.Disk.Change
import LinkRelay.Proofs.ResponseFile
import Mathlib.Logic.Function.Iterate

namespace LinkRelay.ResponseFile

theorem toString_nat_injective {m n : Nat} (heq : toString m = toString n) : m = n := by
  rw [Nat.toString_eq_ofList_toDigits, Nat.toString_eq_ofList_toDigits, String.ofList_inj] at heq
  have hvalue := congrArg (fun digits => Nat.ofDigitChars 10 digits 0) heq
  simpa using hvalue

theorem toString_int_injective {m n : Int} (heq : toString m = toString n) : m = n := by
  have hsign (k l : Nat) : ("-" ++ toString (k + 1)).toList ≠ (toString l).toList := by
    intro hchars
    have hmem : '-' ∈ (toString l).toList := by
      rw [← hchars]
      simp
    rw [Nat.toString_eq_ofList_toDigits, String.toList_ofList] at hmem
    exact absurd (Nat.isDigit_of_mem_toDigits (by decide) (by decide) hmem) (by decide)
  cases m with
  | ofNat k =>
    cases n with
    | ofNat l => exact congrArg Int.ofNat (toString_nat_injective heq)
    | negSucc l => exact absurd (congrArg String.toList heq.symm) (hsign l k)
  | negSucc k =>
    cases n with
    | ofNat l => exact absurd (congrArg String.toList heq) (hsign k l)
    | negSucc l =>
      change "-" ++ toString (k + 1) = "-" ++ toString (l + 1) at heq
      rw [String.append_right_inj] at heq
      rw [Nat.succ.inj (toString_nat_injective heq)]

/-- No two processes have response files of one name. -/
theorem fileName_injective {processId other : Int} (heq : fileName processId = fileName other) :
    processId = other := by
  rw [fileName_eq, fileName_eq, String.append_right_inj, String.append_left_inj] at heq
  exact toString_int_injective heq

/-- The response files of different processes are never in the same place. -/
theorem path_apart (directory : Path) {processId other : Int} (hne : processId ≠ other) :
    Disk.Apart (path directory processId) (path directory other) := by
  have hname (p : Int) (disk : Disk) (loc : Location)
      (hwalk : disk.walk (path directory p).toString = .ok loc) :
      loc.getLast? = some (fileName p) := by
    rw [path_eq_child] at hwalk
    refine Disk.getLast?_of_walk_child (not_mem_fileName p (Or.inl rfl)) ?_
      (fileName_ne p (by decide)) hwalk
    rintro (hempty | hdot)
    · exact fileName_ne p (by decide) hempty
    · exact fileName_ne p (by decide) hdot
  intro disk loc hwalk hother
  have hsame := (hname _ disk loc hwalk).symm.trans (hname _ disk loc hother)
  exact hne (fileName_injective (Option.some.inj hsame))

/-- What a linker that is handed a file reads from it. -/
abbrev Found := Option (Except Refusal (List UInt8))

/-- How far a process has come with its response file. -/
inductive Phase where
  | writing
  /-- The file was refused; what there may be of it is removed. -/
  | retracting
  /-- The linker is to run, with the file or without. -/
  | linking (file : Bool)
  /-- The linker has run, and read this from the file. -/
  | clearing (found : Except Refusal (List UInt8))
  /-- The process is done, and its linker read this if it was handed a file. -/
  | finished (found : Found)
  /-- The process is done without its linker. -/
  | aborted (fault : Fault)
deriving DecidableEq

/-- What came of a process that is done. -/
def Phase.answer? : Phase → Option (Except Fault Found)
  | .finished found => some (.ok found)
  | .aborted fault => some (.error fault)
  | _ => none

/-- The next step of a process, on the disk as it is by then. -/
def advance (standIns : Utf8.StandIns) (tokens : List String) (path : Path) :
    Phase × Disk → Phase × Disk
  | (.writing, disk) =>
    let o := write standIns tokens path disk
    match o.answer with
    | .ok () => (.linking true, o.disk)
    | .error (.system _) => (.retracting, o.disk)
    | .error fault => (.aborted fault, o.disk)
  | (.retracting, disk) => (.linking false, (remove path disk).disk)
  | (.linking true, disk) => (.clearing (disk.read path.toString), disk)
  | (.linking false, disk) => (.finished none, disk)
  | (.clearing found, disk) => (.finished (some found), (cleanUp logger path disk).disk)
  | (.finished found, disk) => (.finished found, disk)
  | (.aborted fault, disk) => (.aborted fault, disk)

/-- Processes that share a directory: the disk, and how far each of them has come. They are told
apart by their numbers. -/
structure Shared where
  disk : Disk
  phase : Int → Phase

/-- One process takes its next step. -/
def Shared.step (standIns : Utf8.StandIns) (directory : Path) (tokens : Int → List String)
    (s : Shared) (processId : Int) : Shared :=
  let next := advance standIns (tokens processId) (path directory processId)
    (s.phase processId, s.disk)
  ⟨next.2, Function.update s.phase processId next.1⟩

/-- The processes take their steps in the order of a schedule, and none has begun before. -/
def Shared.run (standIns : Utf8.StandIns) (directory : Path) (tokens : Int → List String)
    (disk : Disk) (schedule : List Int) : Shared :=
  schedule.foldl (step standIns directory tokens) ⟨disk, fun _ => .writing⟩

section Alone

variable {standIns : Utf8.StandIns} {tokens : List String} {path : Path} {disk disk' : Disk}
  {bytes : List UInt8} {refusal : Refusal} {cause : Utf8.Unencodable}

theorem advance_of_written (hlistable : ¬ Unlistable standIns tokens)
    (hwrite : disk.write path.toString (Utf8.encode (text tokens)) = .ok disk') :
    advance standIns tokens path (.writing, disk) = (.linking true, disk') := by
  simp only [advance, write_of_written hlistable hwrite]

theorem advance_of_refused (hwrite : disk.write path.toString bytes = .error refusal)
    (hrefusal : refusal ≠ .holdsZero) :
    advance standIns tokens path (.writing, disk) = (.retracting, disk) := by
  obtain ⟨cause, hcause⟩ := Refusal.exists_system_fault hrefusal path.toString
  simp only [advance, write_of_refused hwrite, hcause]

theorem advance_of_holdsZero (hwrite : disk.write path.toString bytes = .error .holdsZero) :
    advance standIns tokens path (.writing, disk) =
      (.aborted (.badValue "embedded null byte"), disk) := by
  simp only [advance, write_of_refused hwrite, Refusal.fault]

/-- A file that cannot be filled ends the work of its process, and stays. -/
theorem advance_of_strands (hstrands : Strands standIns tokens path disk cause disk') :
    advance standIns tokens path (.writing, disk) = (.aborted (.unencodable cause), disk') := by
  simp only [advance, write_of_strands hstrands]

/-- The first step writes the file, or leaves the disk alone where no file can be written, or leaves
an empty file where none can list the tokens. -/
theorem advance_writing_cases (standIns : Utf8.StandIns) (tokens : List String) (path : Path)
    (disk : Disk) :
    (∃ disk', ¬ Unlistable standIns tokens ∧
      disk.write path.toString (Utf8.encode (text tokens)) = .ok disk' ∧
      advance standIns tokens path (.writing, disk) = (.linking true, disk')) ∨
    (¬ disk.Writable path ∧
      ((Char.ofNat 0 ∉ path.toString.toList ∧
        advance standIns tokens path (.writing, disk) = (.retracting, disk)) ∨
      (Char.ofNat 0 ∈ path.toString.toList ∧ advance standIns tokens path (.writing, disk) =
        (.aborted (.badValue "embedded null byte"), disk)))) ∨
    ∃ cause left, Strands standIns tokens path disk cause left ∧
      advance standIns tokens path (.writing, disk) = (.aborted (.unencodable cause), left) := by
  obtain ⟨disk', hlistable, hwrite⟩ | ⟨refusal, hwrite⟩ | ⟨cause, left, hstrands⟩ :=
    write_cases standIns tokens path disk
  · exact Or.inl ⟨disk', hlistable, hwrite, advance_of_written hlistable hwrite⟩
  · refine Or.inr (Or.inl ⟨Disk.not_writable_of_refused (hwrite []), ?_⟩)
    by_cases hrefusal : refusal = .holdsZero
    · subst hrefusal
      exact Or.inr ⟨Disk.write_eq_holdsZero_iff.mp (hwrite []), advance_of_holdsZero (hwrite [])⟩
    · refine Or.inl ⟨fun hzero => hrefusal ?_, advance_of_refused (hwrite []) hrefusal⟩
      exact Except.error.inj ((hwrite []).symm.trans (Disk.write_eq_holdsZero_iff.mpr hzero))
  · exact Or.inr (Or.inr ⟨cause, left, hstrands, advance_of_strands hstrands⟩)

theorem disk_remove (path : Path) (disk : Disk) : (remove path disk).disk = disk.cleared path :=
  (remove_yields path disk).disk_eq

theorem disk_cleanUp (logger : String) (path : Path) (disk : Disk) :
    (cleanUp logger path disk).disk = disk.cleared path := by
  rw [cleanUp, Step.bind_of_ok (Step.answer_attempt ..), ← disk_remove]
  -- What follows the attempt can log and fail, and no more.
  cases (remove path disk).answer with
  | ok => rfl
  | error fault =>
    cases fault with
    | system cause =>
      dsimp only
      split <;> rfl
    | _ => rfl

/-- No step of a process touches anything but its own file. -/
theorem advance_changesOnly (standIns : Utf8.StandIns) (tokens : List String) (path : Path)
    (phase : Phase) (disk : Disk) :
    Disk.ChangesOnly path disk (advance standIns tokens path (phase, disk)).2 := by
  cases phase with
  | writing =>
    obtain ⟨disk', -, hwrite, hadvance⟩ | ⟨-, ⟨-, hadvance⟩ | ⟨-, hadvance⟩⟩ |
        ⟨cause, left, hstrands, hadvance⟩ := advance_writing_cases standIns tokens path disk
    · rw [hadvance]
      exact Disk.changesOnly_of_write hwrite
    · rw [hadvance]
      exact .refl path disk
    · rw [hadvance]
      exact .refl path disk
    · rw [hadvance]
      exact Disk.changesOnly_of_write hstrands.opened
  | retracting =>
    rw [advance, disk_remove]
    exact Disk.changesOnly_cleared disk path
  | linking file => cases file <;> exact .refl path disk
  | clearing found =>
    rw [advance, disk_cleanUp]
    exact Disk.changesOnly_cleared disk path
  | finished | aborted => exact .refl path disk

/-- A linker that reads the response file it is handed. -/
def readHanded : Option Path → Step Found
  | some path => Step.look fun disk => .ok (some (disk.read path.toString))
  | none => pure none

/-- Three steps that nobody interferes with are a step with a response file. -/
theorem iterate_advance (standIns : Utf8.StandIns) (tokens : List String) (path : Path)
    (logger : String) (disk : Disk) :
    ∃ phase left answer, (advance standIns tokens path)^[3] (.writing, disk) = (phase, left) ∧
      phase.answer? = some answer ∧
      (within standIns logger tokens path readHanded).Yields disk [] left answer := by
  have hthrice (next : Phase × Disk)
      (hnext : advance standIns tokens path (.writing, disk) = next) :
      (advance standIns tokens path)^[3] (.writing, disk) =
        advance standIns tokens path (advance standIns tokens path next) := by
    rw [← hnext]
    rfl
  obtain ⟨disk', hlistable, hwrite⟩ | ⟨refusal, hwrite⟩ | ⟨cause, left, hstrands⟩ :=
    write_cases standIns tokens path disk
  · refine ⟨.finished (some (disk'.read path.toString)), disk'.cleared path, _, ?_, rfl,
      within_of_written hlistable hwrite logger ⟨rfl, rfl, rfl⟩⟩
    rw [hthrice _ (advance_of_written hlistable hwrite), ← disk_cleanUp]
    rfl
  · by_cases hrefusal : refusal = .holdsZero
    · subst hrefusal
      exact ⟨_, disk, _, hthrice _ (advance_of_holdsZero (hwrite [])), rfl,
        within_of_holdsZero (hwrite []) logger _⟩
    · have hremove := Disk.remove_refused_of_write_refused (hwrite [])
      refine ⟨.finished none, disk, _, ?_, rfl,
        within_of_refused (hwrite []) hrefusal logger ⟨rfl, rfl, rfl⟩⟩
      rw [hthrice _ (advance_of_refused (hwrite []) hrefusal), advance, remove_of_error hremove]
      rfl
  · exact ⟨_, left, _, hthrice _ (advance_of_strands hstrands), rfl,
      within_of_strands hstrands logger _⟩

end Alone

/-- What is read where something was written: nothing where a device stands. -/
def readBack (start : Disk) (path : Path) (bytes : List UInt8) : List UInt8 :=
  if start.stat path.toString = .ok .sink then [] else bytes

/-- What is read of a path that was just written to is what was written, unless a device stands
there. -/
theorem read_of_write {disk disk' : Disk} {path : Path} {bytes : List UInt8}
    (hwrite : disk.write path.toString bytes = .ok disk') :
    disk'.read path.toString = .ok (readBack disk path bytes) := by
  rw [readBack]
  split
  · rename_i hdevice
    rw [Disk.eq_of_write_sink hwrite hdevice, Disk.read, hdevice]
    rfl
  · rename_i hdevice
    obtain ⟨executable, hstat⟩ := Disk.stat_of_write hwrite hdevice
    rw [Disk.read, hstat]
    rfl

/-- A file can be written where the process started, and it can list the tokens. -/
def Lists (standIns : Utf8.StandIns) (tokens : List String) (path : Path) (start : Disk) : Prop :=
  start.Writable path ∧ ¬ Unlistable standIns tokens

/-- No file can be written where the process started, although it could have the name. -/
def Bars (path : Path) (start : Disk) : Prop :=
  ¬ start.Writable path ∧ Char.ofNat 0 ∉ path.toString.toList

/-- What ends a process before its linker runs: a name that no file can have, or tokens that no file
can list, which leave an empty file unless a device takes its place. -/
inductive Aborts (standIns : Utf8.StandIns) (tokens : List String) (path : Path)
    (start disk : Disk) : Fault → Prop
  | unnameable : Char.ofNat 0 ∈ path.toString.toList →
      Aborts standIns tokens path start disk (.badValue "embedded null byte")
  | device {cause : Utf8.Unencodable} : Unlistable standIns tokens →
      start.stat path.toString = .ok .sink → disk.stat path.toString = .ok .sink →
      Aborts standIns tokens path start disk (.unencodable cause)
  | emptyFile {cause : Utf8.Unencodable} {executable : Bool} : Unlistable standIns tokens →
      start.Writable path → start.stat path.toString ≠ .ok .sink →
      disk.stat path.toString = .ok (.file [] executable) →
      Aborts standIns tokens path start disk (.unencodable cause)

/-- What a process relies on between its steps, where all started from the same disk. -/
def Relies (standIns : Utf8.StandIns) (tokens : List String) (path : Path) (start : Disk) :
    Phase × Disk → Prop
  | (.writing, disk) =>
    ∀ node, disk.stat path.toString = .ok node ↔ start.stat path.toString = .ok node
  | (.linking true, disk) => Lists standIns tokens path start ∧
    disk.read path.toString = .ok (readBack start path (Utf8.encode (text tokens)))
  | (.clearing found, _) => Lists standIns tokens path start ∧
    found = .ok (readBack start path (Utf8.encode (text tokens)))
  | (.finished (some found), disk) => Lists standIns tokens path start ∧
    found = .ok (readBack start path (Utf8.encode (text tokens))) ∧ ¬ disk.HasFile path
  | (.retracting, _) | (.linking false, _) | (.finished none, _) => Bars path start
  | (.aborted fault, disk) => Aborts standIns tokens path start disk fault

section Relies

variable {standIns : Utf8.StandIns} {tokens : List String} {path : Path} {start disk disk' : Disk}

/-- A process brings about what it relies on next. -/
theorem Relies.advance {phase : Phase} (hways : Disk.SameWays start disk)
    (hrelies : Relies standIns tokens path start (phase, disk)) :
    Relies standIns tokens path start (advance standIns tokens path (phase, disk)) := by
  cases phase with
  | writing =>
    obtain ⟨disk', hlistable, hwrite, hadvance⟩ | ⟨hbarred, hadvance⟩ |
        ⟨cause, left, hstrands, hadvance⟩ := advance_writing_cases standIns tokens path disk
    · rw [hadvance]
      have hwritable := hways.writable_iff.mp (Disk.exists_write_iff.mp ⟨disk', hwrite⟩)
      refine ⟨⟨hwritable, hlistable⟩, ?_⟩
      rw [read_of_write hwrite]
      simp only [readBack, hrelies .sink]
    · rw [hways.writable_iff] at hbarred
      obtain ⟨hzero, hadvance⟩ | ⟨hzero, hadvance⟩ := hadvance
      · rw [hadvance]
        exact ⟨hbarred, hzero⟩
      · rw [hadvance]
        exact .unnameable hzero
    · rw [hadvance]
      by_cases hdevice : disk.stat path.toString = .ok .sink
      · have hkept : left = disk := Disk.eq_of_write_sink hstrands.opened hdevice
        subst hkept
        exact .device hstrands.unlistable ((hrelies .sink).mp hdevice) hdevice
      · obtain ⟨executable, hfile⟩ := Disk.stat_of_write hstrands.opened hdevice
        exact .emptyFile hstrands.unlistable (hways.writable_iff.mp hstrands.writable)
          (mt (hrelies .sink).mpr hdevice) hfile
  | retracting => exact hrelies
  | linking file =>
    cases file with
    | true => exact hrelies
    | false => exact hrelies
  | clearing found =>
    refine ⟨hrelies.1, hrelies.2, ?_⟩
    rw [disk_cleanUp]
    exact Disk.not_hasFile_cleared disk path
  | finished | aborted => exact hrelies

/-- What a process relies on is not disturbed by a change at another path. -/
theorem Relies.of_changesOnly {other : Path} {phase : Phase}
    (hchange : Disk.ChangesOnly other disk disk') (hapart : Disk.Apart other path)
    (hrelies : Relies standIns tokens path start (phase, disk)) :
    Relies standIns tokens path start (phase, disk') := by
  have hstat := hchange.stat_iff hapart
  cases phase with
  | writing => exact fun node => (hstat node).trans (hrelies node)
  | retracting => exact hrelies
  | linking file =>
    cases file with
    | true =>
      refine ⟨hrelies.1, ?_⟩
      obtain ⟨node, hnode, hread⟩ := Answer.bind_eq_ok_iff.mp hrelies.2
      exact Answer.bind_eq_ok_iff.mpr ⟨node, (hstat node).mpr hnode, hread⟩
    | false => exact hrelies
  | clearing found => exact hrelies
  | finished found =>
    cases found with
    | none => exact hrelies
    | some found =>
      refine ⟨hrelies.1, hrelies.2.1, ?_⟩
      rintro ⟨content, executable, hfile⟩
      exact hrelies.2.2 ⟨content, executable, (hstat _).mp hfile⟩
  | aborted fault =>
    cases hrelies with
    | unnameable hzero => exact .unnameable hzero
    | device hunlistable hstart hdisk =>
      exact .device hunlistable hstart ((hstat _).mpr hdisk)
    | emptyFile hunlistable hwritable hdevice hfile =>
      exact .emptyFile hunlistable hwritable hdevice ((hstat _).mpr hfile)

/-- A process that is done has left a file exactly if one could be written that cannot list its
tokens. -/
theorem Relies.hasFile_iff {phase : Phase} {answer : Except Fault Found}
    (hways : Disk.SameWays start disk)
    (hrelies : Relies standIns tokens path start (phase, disk))
    (hdone : phase.answer? = some answer) :
    disk.HasFile path ↔ start.Writable path ∧ start.stat path.toString ≠ .ok .sink ∧
      Unlistable standIns tokens := by
  have hbarred (hbars : ¬ start.Writable path) : disk.HasFile path ↔ start.Writable path ∧
      start.stat path.toString ≠ .ok .sink ∧ Unlistable standIns tokens := by
    refine iff_of_false ?_ fun hboth => hbars hboth.1
    exact fun hfile => hbars (hways.writable_iff.mp hfile.writable)
  cases phase with
  | finished found =>
    cases found with
    | none => exact hbarred hrelies.1
    | some found => exact iff_of_false hrelies.2.2 fun hboth => hrelies.1.2 hboth.2.2
  | aborted fault =>
    cases hrelies with
    | unnameable hzero => exact hbarred (Disk.not_writable_of_zero hzero)
    | device hunlistable hstart hdisk =>
      refine iff_of_false ?_ fun hboth => hboth.2.1 hstart
      rintro ⟨content, executable, hfile⟩
      cases hdisk.symm.trans hfile
    | emptyFile hunlistable hwritable hdevice hfile =>
      exact iff_of_true ⟨[], _, hfile⟩ ⟨hwritable, hdevice, hunlistable⟩
  | writing | retracting | linking | clearing => cases hdone

/-- A process that is done was ended by a fault exactly if no file could have the name, or one could
be written that cannot list its tokens; otherwise its linker was handed a file exactly if one could
be written. -/
theorem Relies.answer_cases {phase : Phase} {answer : Except Fault Found}
    (hrelies : Relies standIns tokens path start (phase, disk))
    (hdone : phase.answer? = some answer) :
    ((∃ fault, answer = .error fault) ↔ Char.ofNat 0 ∈ path.toString.toList ∨
      start.Writable path ∧ Unlistable standIns tokens) ∧
    ∀ found, answer = .ok found → (found.isSome = true ↔ start.Writable path) := by
  cases phase with
  | finished found =>
    cases hdone
    cases found with
    | none =>
      refine ⟨iff_of_false (by simp) ?_, fun found hfound => ?_⟩
      · rintro (hzero | hboth)
        · exact hrelies.2 hzero
        · exact hrelies.1 hboth.1
      · cases hfound
        exact iff_of_false (by simp) hrelies.1
    | some found =>
      refine ⟨iff_of_false (by simp) ?_, fun found hfound => ?_⟩
      · rintro (hzero | hboth)
        · exact Disk.not_writable_of_zero hzero hrelies.1.1
        · exact hrelies.1.2 hboth.2
      · cases hfound
        exact iff_of_true rfl hrelies.1.1
  | aborted fault =>
    cases hdone
    refine ⟨iff_of_true ⟨fault, rfl⟩ ?_, fun found hfound => by cases hfound⟩
    cases hrelies with
    | unnameable hzero => exact Or.inl hzero
    | device hunlistable hstart _ => exact Or.inr ⟨Disk.writable_of_sink hstart, hunlistable⟩
    | emptyFile hunlistable hwritable _ _ => exact Or.inr ⟨hwritable, hunlistable⟩
  | writing | retracting | linking | clearing => cases hdone

end Relies

/-- The steps that a process has behind it, out of three. -/
def Phase.rank : Phase → Nat
  | .writing => 0
  | .retracting | .linking true => 1
  | .linking false | .clearing _ => 2
  | .finished _ | .aborted _ => 3

theorem Phase.exists_answer {phase : Phase} (hrank : 3 ≤ phase.rank) :
    ∃ answer, phase.answer? = some answer := by
  cases phase with
  | finished found => exact ⟨.ok found, rfl⟩
  | aborted fault => exact ⟨.error fault, rfl⟩
  | linking file => cases file <;> simp [rank] at hrank
  | writing | retracting | clearing => simp [rank] at hrank

/-- A step gets a process further, until it has come to its end. -/
theorem rank_advance (standIns : Utf8.StandIns) (tokens : List String) (path : Path)
    (phase : Phase) (disk : Disk) :
    min 3 (phase.rank + 1) ≤ (advance standIns tokens path (phase, disk)).1.rank := by
  cases phase with
  | writing =>
    obtain ⟨disk', -, -, hadvance⟩ | ⟨-, ⟨-, hadvance⟩ | ⟨-, hadvance⟩⟩ |
        ⟨cause, left, -, hadvance⟩ := advance_writing_cases standIns tokens path disk <;>
      simp [hadvance, Phase.rank]
  | linking file => cases file <;> simp [advance, Phase.rank]
  | retracting | clearing | finished | aborted => simp [advance, Phase.rank]

namespace Shared

/-- All processes find what they rely on. -/
structure Undisturbed (standIns : Utf8.StandIns) (directory : Path) (tokens : Int → List String)
    (start : Disk) (s : Shared) : Prop where
  ways : Disk.SameWays start s.disk
  relies : ∀ processId, Relies standIns (tokens processId) (path directory processId) start
    (s.phase processId, s.disk)

variable {standIns : Utf8.StandIns} {directory : Path} {tokens : Int → List String} {start : Disk}
  {s : Shared}

/-- A step of one process changes nothing but its own file. -/
theorem step_changesOnly (standIns : Utf8.StandIns) (directory : Path)
    (tokens : Int → List String) (s : Shared) (processId : Int) :
    Disk.ChangesOnly (path directory processId) s.disk
      (step standIns directory tokens s processId).disk :=
  advance_changesOnly ..

/-- A step of one process disturbs none. -/
theorem Undisturbed.step (hs : Undisturbed standIns directory tokens start s) (processId : Int) :
    Undisturbed standIns directory tokens start (step standIns directory tokens s processId) where
  ways := hs.ways.trans (step_changesOnly ..).toSameWays
  relies := by
    intro other
    by_cases hother : other = processId
    · subst hother
      simpa [Shared.step] using (hs.relies other).advance hs.ways
    · have hphase : (Shared.step standIns directory tokens s processId).phase other =
          s.phase other := by
        simp [Shared.step, hother]
      rw [hphase]
      exact (hs.relies other).of_changesOnly (step_changesOnly ..)
        (path_apart directory (Ne.symm hother))

/-- No step of a whole schedule disturbs any process. -/
theorem undisturbed_run (standIns : Utf8.StandIns) (directory : Path) (tokens : Int → List String)
    (start : Disk) (schedule : List Int) :
    Undisturbed standIns directory tokens start
      (run standIns directory tokens start schedule) := by
  have hfold (s : Shared) (hs : Undisturbed standIns directory tokens start s) :
      Undisturbed standIns directory tokens start
        (schedule.foldl (Shared.step standIns directory tokens) s) := by
    induction schedule generalizing s with
    | nil => exact hs
    | cons processId schedule ih => exact ih _ (hs.step processId)
  exact hfold _ ⟨.refl start, fun _ _ => Iff.rfl⟩

/-- A process is as far as the number of its turns. -/
theorem rank_run (standIns : Utf8.StandIns) (directory : Path) (tokens : Int → List String)
    (start : Disk) (schedule : List Int) (processId : Int) :
    min 3 (schedule.count processId) ≤
      ((run standIns directory tokens start schedule).phase processId).rank := by
  have hfold (s : Shared) : min 3 ((s.phase processId).rank + schedule.count processId) ≤
      ((schedule.foldl (Shared.step standIns directory tokens) s).phase processId).rank := by
    induction schedule generalizing s with
    | nil => simp
    | cons other schedule ih =>
      refine le_trans ?_ (ih (Shared.step standIns directory tokens s other))
      by_cases hother : other = processId
      · subst hother
        have hrank := rank_advance standIns (tokens other) (path directory other) (s.phase other)
          s.disk
        simp only [Shared.step, Function.update_self, List.count_cons_self]
        omega
      · simp [Shared.step, hother, Ne.symm hother]
  have hrank := hfold ⟨start, fun _ => .writing⟩
  rwa [Phase.rank, Nat.zero_add] at hrank

/-- Processes that share a directory have response files in different places, and whatever the
order of their steps, each of them does what it would do alone, which is a step with a response
file. A linker that is handed a file reads the arguments of its own process from it, or nothing from
a device; no step of a process is noticed at the path of another, so that none removes the file of
another. Every process is done within three steps of its own. It is ended by a fault before its
linker runs exactly if no file can have the name, or one can be written and cannot list the
arguments; otherwise its linker is handed a file exactly if one can be written. What it leaves of a
file that could be written is nothing, unless the arguments could not be listed: then an empty file
is left, where no device takes its place. -/
theorem run_undisturbed (standIns : Utf8.StandIns) (directory : Path) (tokens : Int → List String)
    (start : Disk) (schedule : List Int) :
    let s := run standIns directory tokens start schedule
    (∀ processId other, processId ≠ other →
      path directory processId ≠ path directory other ∧
      Disk.Apart (path directory processId) (path directory other)) ∧
    (∀ processId found,
      (s.phase processId = .clearing found ∨ s.phase processId = .finished (some found)) →
      found = .ok (readBack start (path directory processId)
        (Utf8.encode (text (tokens processId))))) ∧
    (∀ processId other node, processId ≠ other →
      ((step standIns directory tokens s processId).disk.stat (path directory other).toString =
          .ok node ↔
        s.disk.stat (path directory other).toString = .ok node)) ∧
    (∀ processId answer, (s.phase processId).answer? = some answer →
      (s.disk.HasFile (path directory processId) ↔ start.Writable (path directory processId) ∧
        start.stat (path directory processId).toString ≠ .ok .sink ∧
        Unlistable standIns (tokens processId))) ∧
    (∀ processId, 3 ≤ schedule.count processId → ∃ answer,
      (s.phase processId).answer? = some answer ∧
      ((∃ fault, answer = .error fault) ↔ Char.ofNat 0 ∈ directory.toString.toList ∨
        start.Writable (path directory processId) ∧ Unlistable standIns (tokens processId)) ∧
      ∀ found, answer = .ok found →
        (found.isSome = true ↔ start.Writable (path directory processId))) ∧
    ∀ processId logger disk, ∃ phase left answer,
      (advance standIns (tokens processId) (path directory processId))^[3] (.writing, disk) =
        (phase, left) ∧ phase.answer? = some answer ∧
      (within standIns logger (tokens processId) (path directory processId) readHanded).Yields disk
        [] left answer := by
  intro s
  obtain ⟨hways, hrelies⟩ := undisturbed_run standIns directory tokens start schedule
  refine ⟨fun processId other hne => ⟨?_, path_apart directory hne⟩, ?_, ?_, ?_, ?_, ?_⟩
  · intro hpath
    rw [path_eq_child, path_eq_child] at hpath
    simp only [Path.child, Path.mk.injEq, List.append_cancel_left_eq, List.cons.injEq] at hpath
    exact hne (fileName_injective hpath.2.1)
  · rintro processId found (hphase | hphase)
    · have hfound := hrelies processId
      rw [hphase] at hfound
      exact hfound.2
    · have hfound := hrelies processId
      rw [hphase] at hfound
      exact hfound.2.1
  · exact fun processId other node hne =>
      (step_changesOnly standIns directory tokens s processId).stat_iff
        (path_apart directory hne) node
  · exact fun processId answer hdone => (hrelies processId).hasFile_iff hways hdone
  · intro processId hcount
    have hrank : 3 ≤ (s.phase processId).rank :=
      (le_min le_rfl hcount).trans (rank_run standIns directory tokens start schedule processId)
    obtain ⟨answer, hdone⟩ := Phase.exists_answer hrank
    refine ⟨answer, hdone, ?_⟩
    rw [← zero_mem_path_iff]
    exact (hrelies processId).answer_cases hdone
  · exact fun processId logger disk => iterate_advance standIns (tokens processId) _ logger disk

/-- A directory with a response file that an earlier process of the same number left behind. -/
def staleDisk : Disk where
  nodes := [(["tmp"], .directory), (["tmp", "ldproxy-2.rsp"], .file [0x21] false)]
  here := []

/-- Two processes that take turns both find their own lines, although one of them finds a file that
was left behind; this one is gone in the end. -/
def takenTurns : Shared :=
  run .empty ⟨.slash, ["tmp"]⟩ (fun processId => [toString processId]) staleDisk
    [1, 2, 2, 1, 1, 2]

/-- Two processes that take turns both find their own lines, although one finds a file that was left
behind, and both files are gone in the end. -/
theorem run_undisturbed_stale :
    takenTurns.phase 1 = .finished (some (.ok [0x31])) ∧
      takenTurns.phase 2 = .finished (some (.ok [0x32])) ∧
      ¬ takenTurns.disk.HasFile (path ⟨.slash, ["tmp"]⟩ 2) := by
  obtain ⟨-, hfound, -, hgone, hends, -⟩ := run_undisturbed .empty ⟨.slash, ["tmp"]⟩
    (fun processId => [toString processId]) staleDisk [1, 2, 2, 1, 1, 2]
  have hread (processId : Int) (bytes : List UInt8)
      (hcount : 3 ≤ [1, 2, 2, 1, 1, 2].count processId)
      (hwritable : staleDisk.Writable (path ⟨.slash, ["tmp"]⟩ processId))
      (hbytes : readBack staleDisk (path ⟨.slash, ["tmp"]⟩ processId)
        (Utf8.encode (text [toString processId])) = bytes) :
      takenTurns.phase processId = .finished (some (.ok bytes)) := by
    obtain ⟨answer, hdone, hfault, hhanded⟩ := hends processId hcount
    cases hphase : takenTurns.phase processId with
    | finished found =>
      rw [takenTurns] at hphase
      rw [hphase] at hdone
      obtain ⟨found, rfl⟩ := Option.isSome_iff_exists.mp
        ((hhanded found (Option.some.inj hdone).symm).mpr hwritable)
      rw [hfound processId found (Or.inr hphase), hbytes]
    | aborted fault =>
      rw [takenTurns] at hphase
      rw [hphase] at hdone
      obtain hzero | ⟨-, hunlistable⟩ := hfault.mp ⟨fault, (Option.some.inj hdone).symm⟩
      · exact absurd hzero (by decide +kernel)
      · exact absurd hunlistable (not_unlistable_empty _)
    | writing | retracting | linking | clearing =>
      rw [takenTurns] at hphase
      rw [hphase] at hdone
      cases hdone
  have hsecond := hread 2 [0x32] (by decide)
    ⟨["tmp", "ldproxy-2.rsp"], by decide +kernel, by decide +kernel⟩ (by decide +kernel)
  refine ⟨hread 1 [0x31] (by decide)
    ⟨["tmp", "ldproxy-1.rsp"], by decide +kernel, by decide +kernel⟩ (by decide +kernel),
    hsecond, fun hfile => ?_⟩
  have hdone : (takenTurns.phase 2).answer? = some (.ok (some (.ok [0x32]))) := by
    rw [hsecond]
    rfl
  exact not_unlistable_empty _ ((hgone 2 _ hdone).mp hfile).2.2

/-- A process alone in a directory, with an argument of one byte that is no text: all its steps are
taken, and the file that it could write is still there. -/
theorem run_strands_file :
    (run .privateUse ⟨.slash, ["tmp"]⟩ (fun _ => [loneByte]) staleDisk
      [1, 1, 1]).phase 1 = .aborted (.unencodable ⟨0, [0xFF]⟩) ∧
    (run .privateUse ⟨.slash, ["tmp"]⟩ (fun _ => [loneByte]) staleDisk
      [1, 1, 1]).disk.stat "/tmp/ldproxy-1.rsp" = .ok (.file [] false) ∧
    staleDisk.stat "/tmp/ldproxy-1.rsp" = .error .missing := by
  decide +kernel

end Shared

end LinkRelay.ResponseFile
