import LinkRelay.Disk
import LinkRelay.Proofs.Answer
import LinkRelay.Proofs.Text.Search

namespace LinkRelay

theorem Refusal.regular_fault (name : String) (refusal : Refusal) :
    (refusal.fault name).Regular := by
  intro text h
  cases refusal <;> cases h

/-- Every refusal but one is the system's. -/
theorem Refusal.exists_system_fault {refusal : Refusal} (hrefusal : refusal ≠ .holdsZero)
    (name : String) : ∃ cause, refusal.fault name = .system cause := by
  cases refusal with
  | holdsZero => exact absurd rfl hrefusal
  | _ => exact ⟨_, rfl⟩

namespace Disk

/-- Going one component on is never refused for the character zero, which is looked for in the whole
name before. -/
theorem enter_ne_holdsZero (disk : Disk) (loc : Location) (part : String) :
    disk.enter loc part ≠ .error .holdsZero := by
  rw [enter]
  grind

theorem foldlM_enter_ne_holdsZero (disk : Disk) (loc : Location) (parts : List String) :
    parts.foldlM disk.enter loc ≠ .error .holdsZero := by
  induction parts generalizing loc with
  | nil => simp [Pure.pure, Except.pure]
  | cons part parts ih =>
    intro hwalk
    rw [List.foldlM_cons] at hwalk
    obtain hwalk | ⟨next, -, hwalk⟩ := Answer.bind_eq_error_iff.mp hwalk
    · exact enter_ne_holdsZero disk loc part hwalk
    · exact ih next hwalk

/-- Only the name itself decides whether it is refused for the character zero. -/
theorem walk_eq_holdsZero_iff {disk : Disk} {name : String} :
    disk.walk name = .error .holdsZero ↔ Char.ofNat 0 ∈ name.toList := by
  rw [walk]
  by_cases hzero : Char.ofNat 0 ∈ name.toList
  · simp [hzero]
  · have hcontains : ¬ name.toList.contains (Char.ofNat 0) = true := by simpa using hzero
    rw [if_neg hcontains]
    constructor
    · intro hwalk
      split at hwalk
      · cases hwalk
      · split at hwalk
        · cases hwalk
        · exact absurd hwalk (foldlM_enter_ne_holdsZero disk _ _)
    · intro hmem
      exact absurd hmem hzero

/-- A relative name is refused whose first component is too long, whatever follows it. -/
theorem walk_of_overlong_first {disk : Disk} {first : String} (rest : String)
    (hhere : disk.node? disk.here = some .directory)
    (hzero : Char.ofNat 0 ∉ (first ++ "/" ++ rest).toList) (hslash : '/' ∉ first.toList)
    (hlong : componentLimit < first.utf8ByteSize) :
    disk.walk (first ++ "/" ++ rest) = .error .nameTooLong := by
  have hshort (part : String) (hpart : part.utf8ByteSize ≤ componentLimit) : first ≠ part := by
    rintro rfl
    exact absurd hlong (Nat.not_lt.mpr hpart)
  have hempty := hshort "" (by decide)
  have hrelative : ¬ Text.startsWith (first ++ "/" ++ rest) "/" = true := by
    rw [String.append_assoc, Text.startsWith_slash_append hempty]
    exact Text.not_startsWith_slash hslash
  have henter : disk.enter disk.here first = .error .nameTooLong := by
    simp [enter, hhere, hempty, hshort "." (by decide), hshort ".." (by decide), hlong]
  have hnonempty : first ++ "/" ++ rest ≠ "" := by simp
  rw [walk, if_neg (by simpa using hzero), if_neg hnonempty, if_neg hrelative,
    Text.split_append hslash, List.foldlM_cons, henter]
  split <;> rfl

theorem stat_eq_ok_iff {disk : Disk} {name : String} {node : Node} :
    disk.stat name = .ok node ↔ ∃ loc, disk.walk name = .ok loc ∧ disk.node? loc = some node := by
  rw [stat, Answer.bind_eq_ok_iff]
  refine exists_congr fun loc => and_congr_right fun _ => ?_
  cases disk.node? loc <;> simp

theorem exists?_iff {disk : Disk} {name : String} :
    disk.exists? name = true ↔ ∃ node, disk.stat name = .ok node := by
  rw [exists?]
  cases disk.stat name <;> simp [Except.isOk, Except.toBool]

theorem stat_eq_holdsZero_iff {disk : Disk} {name : String} :
    disk.stat name = .error .holdsZero ↔ Char.ofNat 0 ∈ name.toList := by
  rw [stat, Answer.bind_eq_error_iff, walk_eq_holdsZero_iff]
  constructor
  · rintro (hzero | ⟨loc, -, hnode⟩)
    · exact hzero
    · split at hnode <;> cases hnode
  · exact Or.inl

theorem names_eq_holdsZero_iff {disk : Disk} {name : String} :
    disk.names name = .error .holdsZero ↔ Char.ofNat 0 ∈ name.toList := by
  rw [names, Answer.bind_eq_error_iff, walk_eq_holdsZero_iff]
  constructor
  · rintro (hzero | ⟨loc, -, hnode⟩)
    · exact hzero
    · split at hnode <;> cases hnode
  · exact Or.inl

theorem write_eq_holdsZero_iff {disk : Disk} {name : String} {bytes : List UInt8} :
    disk.write name bytes = .error .holdsZero ↔ Char.ofNat 0 ∈ name.toList := by
  rw [write, Answer.bind_eq_error_iff, walk_eq_holdsZero_iff]
  constructor
  · rintro (hzero | ⟨loc, -, hnode⟩)
    · exact hzero
    · split at hnode <;> cases hnode
  · exact Or.inl

theorem remove_eq_holdsZero_iff {disk : Disk} {name : String} :
    disk.remove name = .error .holdsZero ↔ Char.ofNat 0 ∈ name.toList := by
  rw [remove, Answer.bind_eq_error_iff, stat_eq_holdsZero_iff]
  constructor
  · rintro (hzero | ⟨node, -, hnode⟩)
    · exact hzero
    · cases node with
      | directory => cases hnode
      | file | sink =>
        obtain hwalk | ⟨loc, -, hloc⟩ := Answer.bind_eq_error_iff.mp hnode
        · exact walk_eq_holdsZero_iff.mp hwalk
        · cases hloc
  · exact Or.inl

/-- Whether a file can be written does not depend on what is written to it. -/
theorem write_refused_congr {disk : Disk} {name : String} {bytes : List UInt8} {refusal : Refusal}
    (hwrite : disk.write name bytes = .error refusal) (bytes' : List UInt8) :
    disk.write name bytes' = .error refusal := by
  obtain hwalk | ⟨loc, hwalk, hnode⟩ := Answer.bind_eq_error_iff.mp hwrite
  · rw [write, hwalk]
    rfl
  · rw [write, hwalk, Answer.ok_bind]
    split at hnode
    · cases hnode
    · cases hnode
    · cases hnode
    · exact hnode

/-- What cannot be written for want of a way to it, or as it is a directory, cannot be removed
either. -/
theorem remove_refused_of_write_refused {disk : Disk} {name : String} {bytes : List UInt8}
    {refusal : Refusal} (hwrite : disk.write name bytes = .error refusal) :
    disk.remove name = .error refusal := by
  obtain hwalk | ⟨loc, hwalk, hnode⟩ := Answer.bind_eq_error_iff.mp hwrite
  · rw [remove, stat, hwalk]
    rfl
  · split at hnode
    · cases hnode
    · cases hnode
    · cases hnode
    · rename_i hdirectory
      cases hnode
      rw [remove, stat_eq_ok_iff.mpr ⟨loc, hwalk, hdirectory⟩]
      rfl

/-- A path whose name is too long for the disk to say what it leads to. -/
def Overlong (disk : Disk) (path : Path) : Prop :=
  disk.stat path.toString = .error .nameTooLong

/-- A path that leads to a directory. -/
def HasDirectory (disk : Disk) (path : Path) : Prop :=
  disk.stat path.toString = .ok .directory

/-- A path that leads to a file. -/
def HasFile (disk : Disk) (path : Path) : Prop :=
  ∃ bytes executable, disk.stat path.toString = .ok (.file bytes executable)

/-- Whatever is found had a name short enough to be asked about. -/
theorem HasDirectory.not_overlong {disk : Disk} {path : Path}
    (hdirectory : disk.HasDirectory path) : ¬ disk.Overlong path := by
  intro hlong
  rw [Overlong, hdirectory] at hlong
  cases hlong

theorem HasFile.not_overlong {disk : Disk} {path : Path} (hfile : disk.HasFile path) :
    ¬ disk.Overlong path := by
  obtain ⟨bytes, executable, hstat⟩ := hfile
  intro hlong
  rw [Overlong, hstat] at hlong
  cases hlong

/-- A question about what a path leads to stays open where the name is too long, and is answered
truly everywhere else. -/
theorem ask_cases (disk : Disk) (path : Path) (question : Node → Bool) {p : Prop}
    (hquestion : (∃ node, disk.stat path.toString = .ok node ∧ question node = true) ↔ p) :
    (disk.Overlong path ∧
      disk.ask path question = .error (Refusal.nameTooLong.fault path.toString)) ∨
    (p ∧ disk.ask path question = .ok true) ∨
    (¬ disk.Overlong path ∧ ¬ p ∧ disk.ask path question = .ok false) := by
  rw [← hquestion, ask, Overlong]
  split
  · rename_i node hstat
    cases hanswer : question node <;> simp_all
  · simp_all
  · simp_all

/-- A path leads to a directory, or it does not, or it is too long to be asked about. -/
theorem isDirectory_cases (disk : Disk) (path : Path) :
    (disk.Overlong path ∧
      disk.isDirectory path = .error (Refusal.nameTooLong.fault path.toString)) ∨
    (disk.HasDirectory path ∧ disk.isDirectory path = .ok true) ∨
    (¬ disk.Overlong path ∧ ¬ disk.HasDirectory path ∧ disk.isDirectory path = .ok false) := by
  apply ask_cases
  simp [HasDirectory]

/-- A path leads to a file, or it does not, or it is too long to be asked about. -/
theorem isFile_cases (disk : Disk) (path : Path) :
    (disk.Overlong path ∧
      disk.isFile path = .error (Refusal.nameTooLong.fault path.toString)) ∨
    (disk.HasFile path ∧ disk.isFile path = .ok true) ∨
    (¬ disk.Overlong path ∧ ¬ disk.HasFile path ∧ disk.isFile path = .ok false) := by
  apply ask_cases
  constructor
  · rintro ⟨node, hstat, hnode⟩
    cases node with
    | file bytes executable => exact ⟨bytes, executable, hstat⟩
    | directory | sink => cases hnode
  · rintro ⟨bytes, executable, hstat⟩
    exact ⟨_, hstat, rfl⟩

/-- What can be listed is a directory. -/
theorem exists_names_iff {disk : Disk} {path : Path} :
    (∃ names, disk.names path.toString = .ok names) ↔ disk.HasDirectory path := by
  rw [HasDirectory, stat_eq_ok_iff]
  constructor
  · rintro ⟨names, hnames⟩
    obtain ⟨loc, hwalk, hnode⟩ := Answer.bind_eq_ok_iff.mp hnames
    refine ⟨loc, hwalk, ?_⟩
    split at hnode
    · cases hnode
    · assumption
    · cases hnode
  · rintro ⟨loc, hwalk, hnode⟩
    rw [names, hwalk, Answer.ok_bind, hnode]
    exact ⟨_, rfl⟩

/-- What stands somewhere can be named, so that a refusal to read it is the system's. -/
theorem readText_fault {disk : Disk} {path : Path} {node : Node} {fault : Fault}
    (hstat : disk.stat path.toString = .ok node) (hfault : disk.readText path = .error fault) :
    ∃ cause, fault.readError? = some cause := by
  rw [readText, read, hstat, Answer.ok_bind] at hfault
  obtain hread | ⟨bytes, -, htext⟩ := Answer.bind_eq_error_iff.mp hfault
  · cases node with
    | directory => cases hread; exact ⟨_, rfl⟩
    | file | sink => cases hread
  · obtain hdecode | ⟨text, -, hunified⟩ := Answer.bind_eq_error_iff.mp htext
    · obtain ⟨cause, -, rfl⟩ := Answer.mapError_eq_error_iff.mp hdecode
      exact ⟨_, rfl⟩
    · cases hunified

theorem readText_regular {disk : Disk} {path : Path} {fault : Fault}
    (hfault : disk.readText path = .error fault) : fault.Regular := by
  obtain hread | ⟨bytes, -, htext⟩ := Answer.bind_eq_error_iff.mp hfault
  · obtain ⟨refusal, -, rfl⟩ := Answer.mapError_eq_error_iff.mp hread
    exact refusal.regular_fault _
  · obtain hdecode | ⟨text, -, hunified⟩ := Answer.bind_eq_error_iff.mp htext
    · obtain ⟨cause, -, rfl⟩ := Answer.mapError_eq_error_iff.mp hdecode
      exact Fault.regular_of_readError rfl
    · cases hunified

theorem ask_regular {disk : Disk} {path : Path} {question : Node → Bool} {fault : Fault}
    (hfault : disk.ask path question = .error fault) : fault.Regular := by
  obtain ⟨-, hanswer⟩ | ⟨-, hanswer⟩ | ⟨-, -, hanswer⟩ :=
    ask_cases disk path question Iff.rfl <;> rw [hanswer] at hfault <;> cases hfault
  exact Refusal.regular_fault _ _

end Disk

end LinkRelay
