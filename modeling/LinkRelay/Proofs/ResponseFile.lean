import LinkRelay.Proofs.Disk.File
import LinkRelay.Proofs.Path
import LinkRelay.Proofs.Step
import LinkRelay.Proofs.Text.Pieces
import LinkRelay.Proofs.Text.Utf8
import LinkRelay.ResponseFile

namespace LinkRelay.ResponseFile

variable {α : Type}

/-- A number is written in digits, with a sign at most. -/
theorem mem_toString_int {n : Int} {c : Char} (hc : c ∈ (toString n).toList) :
    c = '-' ∨ c.isDigit = true := by
  have hdigit {m : Nat} (hm : c ∈ (toString m).toList) : c.isDigit = true := by
    rw [Nat.toString_eq_ofList_toDigits, String.toList_ofList] at hm
    exact Nat.isDigit_of_mem_toDigits (by decide) (by decide) hm
  cases n with
  | ofNat m => exact Or.inr (hdigit hc)
  | negSucc m =>
    change c ∈ ("-" ++ toString (m + 1)).toList at hc
    rw [String.toList_append, List.mem_append] at hc
    exact hc.imp (by simp) hdigit

theorem fileName_eq (processId : Int) :
    fileName processId = "ldproxy-" ++ (toString processId ++ ".rsp") := by
  rw [← String.append_assoc]
  rfl

theorem fileName_ne (processId : Int) {text : String} (hfirst : text.toList.head? ≠ some 'l') :
    fileName processId ≠ text := by
  rintro rfl
  exact hfirst (by simp [fileName_eq])

/-- The name of a response file is one component that any disk takes. -/
theorem not_mem_fileName (processId : Int) {c : Char} (hc : c = '/' ∨ c = Char.ofNat 0) :
    c ∉ (fileName processId).toList := by
  rw [fileName_eq, String.toList_append, String.toList_append, List.mem_append, List.mem_append]
  rintro (hlead | hnumber | hend)
  · obtain rfl | rfl := hc <;> revert hlead <;> decide
  · obtain hsign | hdigit := mem_toString_int hnumber
    · obtain rfl | rfl := hc <;> revert hsign <;> decide
    · obtain rfl | rfl := hc <;> revert hdigit <;> decide
  · obtain rfl | rfl := hc <;> revert hend <;> decide

/-- A response file stands in its directory. -/
theorem path_eq_child (directory : Path) (processId : Int) :
    path directory processId = directory.child (fileName processId) := by
  have hcomponent : Path.ofString (fileName processId) = ⟨.relative, [fileName processId]⟩ :=
    Path.ofString_of_component (not_mem_fileName processId (Or.inl rfl))
      (fileName_ne processId (by decide)) (fileName_ne processId (by decide))
  rw [path, Path.join, hcomponent]
  rfl

/-- Whether a response file can have its name depends on its directory alone. -/
theorem zero_mem_path_iff {directory : Path} {processId : Int} :
    Char.ofNat 0 ∈ (path directory processId).toString.toList ↔
      Char.ofNat 0 ∈ directory.toString.toList := by
  rw [Path.mem_toString_iff (by decide) (by decide), Path.mem_toString_iff (by decide) (by decide),
    path_eq_child, Path.child]
  simp [List.mem_append, or_and_right, exists_or, not_mem_fileName processId (Or.inr rfl)]

theorem remove_of_ok {path : Path} {disk disk' : Disk}
    (hremove : disk.remove path.toString = .ok disk') : remove path disk = ⟨[], disk', .ok ()⟩ :=
  Step.change_of_ok (by rw [hremove]; rfl)

theorem remove_of_error {path : Path} {disk : Disk} {refusal : Refusal}
    (hremove : disk.remove path.toString = .error refusal) :
    remove path disk = ⟨[], disk, .error (refusal.fault path.toString)⟩ :=
  Step.change_of_error (by rw [hremove]; rfl)

/-- An attempt to remove a file clears the disk, whatever comes of it. -/
theorem remove_yields (path : Path) (disk : Disk) :
    (remove path).Yields disk [] (disk.cleared path) (remove path disk).answer := by
  cases hremove : disk.remove path.toString with
  | ok disk' => constructor <;> simp [remove_of_ok hremove, Disk.cleared, hremove, Outcome.calls]
  | error refusal =>
    constructor <;> simp [remove_of_error hremove, Disk.cleared, hremove, Outcome.calls]

/-- Cleaning up after a file that could be written never fails, whatever became of the file. -/
theorem cleanUp_yields {path : Path} (hzero : Char.ofNat 0 ∉ path.toString.toList)
    (logger : String) (disk : Disk) :
    (cleanUp logger path).Yields disk [] (disk.cleared path) (.ok ()) := by
  refine (remove_yields path disk).attempt.silent_bind ?_
  cases hremove : disk.remove path.toString with
  | ok disk' =>
    rw [remove_of_ok hremove]
    exact ⟨rfl, rfl, rfl⟩
  | error refusal =>
    -- Only the character zero is no fault of the system, which alone is caught here.
    have hrefusal : refusal ≠ .holdsZero := by
      rintro rfl
      exact hzero (Disk.remove_eq_holdsZero_iff.mp hremove)
    obtain ⟨cause, hcause⟩ := Refusal.exists_system_fault hrefusal path.toString
    rw [remove_of_error hremove, hcause]
    by_cases hgone : cause.number = some 2
    · simp only [if_pos hgone]
      exact ⟨rfl, rfl, rfl⟩
    · simp only [if_neg hgone]
      exact ⟨rfl, rfl, rfl⟩

/-- Tokens that no response file can list: one of them holds a stand-in. -/
def Unlistable (standIns : Utf8.StandIns) (tokens : List String) : Prop :=
  ∃ token ∈ tokens, standIns.OccursIn token

instance (standIns : Utf8.StandIns) (tokens : List String) :
    Decidable (Unlistable standIns tokens) :=
  inferInstanceAs (Decidable (∃ token ∈ tokens, standIns.OccursIn token))

/-- Any tokens can be listed where there are no stand-ins. -/
theorem not_unlistable_empty (tokens : List String) : ¬ Unlistable .empty tokens := by
  rintro ⟨token, -, hoccurs⟩
  exact Utf8.StandIns.not_occursIn_empty token hoccurs

/-- A token of one byte that is no text. -/
def loneByte : String :=
  String.ofList [Char.ofNat 0x10FCFF]

theorem occursIn_loneByte : Utf8.StandIns.privateUse.OccursIn loneByte :=
  ⟨Char.ofNat 0x10FCFF, by simp [loneByte], Option.some_ne_none 0xFF⟩

/-- The line feeds between the tokens are no stand-ins. -/
theorem occursIn_text_iff {standIns : Utf8.StandIns} {tokens : List String} :
    standIns.OccursIn (text tokens) ↔ Unlistable standIns tokens := by
  have hchar (c : Char) (hbyte : standIns.byte? c ≠ none) :
      c ∈ (text tokens).toList ↔ ∃ token ∈ tokens, c ∈ token.toList := by
    have hfeed : c ≠ '\n' := by
      rintro rfl
      exact hbyte (standIns.ascii _ (by decide))
    exact Text.mem_intercalate_iff rfl hfeed
  constructor
  · rintro ⟨c, hc, hbyte⟩
    obtain ⟨token, htoken, hmem⟩ := (hchar c hbyte).mp hc
    exact ⟨token, htoken, c, hmem, hbyte⟩
  · rintro ⟨token, htoken, c, hmem, hbyte⟩
    exact ⟨c, (hchar c hbyte).mpr ⟨token, htoken, hmem⟩, hbyte⟩

/-- A response file that is opened and cannot be filled: the first stand-ins of its text are to
blame, and an empty file is left. -/
structure Strands (standIns : Utf8.StandIns) (tokens : List String) (path : Path) (disk : Disk)
    (cause : Utf8.Unencodable) (left : Disk) : Prop where
  refused : standIns.encode (text tokens) = .error cause
  opened : disk.write path.toString [] = .ok left

section Write

variable {standIns : Utf8.StandIns} {tokens : List String} {path : Path} {disk disk' : Disk}
  {bytes : List UInt8} {refusal : Refusal} {cause : Utf8.Unencodable}

theorem encode_of_listable (hlistable : ¬ Unlistable standIns tokens) :
    standIns.encode (text tokens) = .ok (Utf8.encode (text tokens)) :=
  Utf8.StandIns.encode_eq_ok_iff.mpr ⟨mt occursIn_text_iff.mp hlistable, rfl⟩

theorem Strands.unlistable (hstrands : Strands standIns tokens path disk cause disk') :
    Unlistable standIns tokens :=
  occursIn_text_iff.mp (Utf8.StandIns.blames_of_encode hstrands.refused).1

theorem Strands.blames (hstrands : Strands standIns tokens path disk cause disk') :
    standIns.Blames 0 (text tokens).toList cause :=
  (Utf8.StandIns.blames_of_encode hstrands.refused).2

theorem Strands.writable (hstrands : Strands standIns tokens path disk cause disk') :
    disk.Writable path :=
  Disk.exists_write_iff.mp ⟨disk', hstrands.opened⟩

/-- Tokens that no response file can list leave an empty one wherever a file can be written. -/
theorem exists_strands_iff : (∃ cause left, Strands standIns tokens path disk cause left) ↔
    disk.Writable path ∧ Unlistable standIns tokens := by
  constructor
  · rintro ⟨cause, left, hstrands⟩
    exact ⟨hstrands.writable, hstrands.unlistable⟩
  · rintro ⟨hwritable, hunlistable⟩
    obtain ⟨left, hopened⟩ := Disk.exists_write_iff.mpr hwritable
    obtain ⟨hfree, -⟩ | ⟨cause, -, -, hencode⟩ := standIns.encode_cases (text tokens)
    · exact absurd (occursIn_text_iff.mpr hunlistable) hfree
    · exact ⟨cause, left, hencode, hopened⟩

theorem fill_of_ok (hwrite : disk.write path.toString bytes = .ok disk') :
    fill path bytes disk = ⟨[], disk', .ok ()⟩ :=
  Step.change_of_ok (by rw [hwrite]; rfl)

theorem fill_of_error (hwrite : disk.write path.toString bytes = .error refusal) :
    fill path bytes disk = ⟨[], disk, .error (refusal.fault path.toString)⟩ :=
  Step.change_of_error (by rw [hwrite]; rfl)

/-- A response file that can be filled is written. -/
theorem write_of_written (hlistable : ¬ Unlistable standIns tokens)
    (hwrite : disk.write path.toString (Utf8.encode (text tokens)) = .ok disk') :
    write standIns tokens path disk = ⟨[], disk', .ok ()⟩ := by
  simp only [write, encode_of_listable hlistable, fill_of_ok hwrite]

/-- A file that cannot be opened is refused before its text matters. -/
theorem write_of_refused (hwrite : disk.write path.toString bytes = .error refusal) :
    write standIns tokens path disk = ⟨[], disk, .error (refusal.fault path.toString)⟩ := by
  have hfill (bytes' : List UInt8) := fill_of_error (Disk.write_refused_congr hwrite bytes')
  rw [write]
  cases standIns.encode (text tokens) with
  | ok bytes' => exact hfill bytes'
  | error cause =>
    have hanswer : (fill path [] disk).answer = .error (refusal.fault path.toString) := by
      rw [hfill]
    exact (Step.bind_of_error hanswer).trans (by rw [hfill])

/-- A response file that cannot be filled is left empty, and the fault is told. -/
theorem write_of_strands (hstrands : Strands standIns tokens path disk cause disk') :
    write standIns tokens path disk = ⟨[], disk', .error (.unencodable cause)⟩ := by
  have hfill := fill_of_ok hstrands.opened
  have hanswer : (fill path [] disk).answer = .ok () := by rw [hfill]
  simp only [write, hstrands.refused, Step.bind_of_ok hanswer, hfill]
  rfl

/-- A response file is written, or refused before it is opened, or left empty. -/
theorem write_cases (standIns : Utf8.StandIns) (tokens : List String) (path : Path) (disk : Disk) :
    (∃ disk', ¬ Unlistable standIns tokens ∧
      disk.write path.toString (Utf8.encode (text tokens)) = .ok disk') ∨
    (∃ refusal, ∀ bytes, disk.write path.toString bytes = .error refusal) ∨
    ∃ cause left, Strands standIns tokens path disk cause left := by
  by_cases hunlistable : Unlistable standIns tokens
  · by_cases hwritable : disk.Writable path
    · exact Or.inr (Or.inr (exists_strands_iff.mpr ⟨hwritable, hunlistable⟩))
    · cases hwrite : disk.write path.toString [] with
      | ok disk' => exact absurd (Disk.exists_write_iff.mp ⟨disk', hwrite⟩) hwritable
      | error refusal => exact Or.inr (Or.inl ⟨refusal, Disk.write_refused_congr hwrite⟩)
  · cases hwrite : disk.write path.toString (Utf8.encode (text tokens)) with
    | ok disk' => exact Or.inl ⟨disk', hunlistable, rfl⟩
    | error refusal => exact Or.inr (Or.inl ⟨refusal, Disk.write_refused_congr hwrite⟩)

end Write

section Within

variable {standIns : Utf8.StandIns} {path : Path} {tokens : List String}
  {disk disk' left : Disk} {bytes : List UInt8} {refusal : Refusal} {cause : Utf8.Unencodable}
  {body : Option Path → Step α} {calls : List Call} {answer : Except Fault α}

/-- With a file that can be written, the step runs with it, and cleaning up changes nothing of what
came of the step but the disk. -/
theorem within_of_written (hlistable : ¬ Unlistable standIns tokens)
    (hwrite : disk.write path.toString (Utf8.encode (text tokens)) = .ok disk') (logger : String)
    (hbody : (body (some path)).Yields disk' calls left answer) :
    (within standIns logger tokens path body).Yields disk calls (left.cleared path) answer := by
  have hzero : Char.ofNat 0 ∉ path.toString.toList := by
    intro hmem
    rw [Disk.write_eq_holdsZero_iff.mpr hmem] at hwrite
    cases hwrite
  have hwritten : (write standIns tokens path).Yields disk [] disk' (.ok ()) := by
    constructor <;> rw [write_of_written hlistable hwrite]
    rfl
  exact hwritten.attempt.silent_bind (.log_bind (hbody.attempt.bind_silent
    ((cleanUp_yields hzero logger left).silent_bind (.ofExcept _ answer))))

theorem write_yields_of_refused (hwrite : disk.write path.toString bytes = .error refusal) :
    (write standIns tokens path).Yields disk [] disk (.error (refusal.fault path.toString)) := by
  constructor <;> rw [write_of_refused hwrite]
  rfl

/-- Where the system refuses to open the file, the step runs without it, on the disk as it was. -/
theorem within_of_refused (hwrite : disk.write path.toString bytes = .error refusal)
    (hrefusal : refusal ≠ .holdsZero) (logger : String)
    (hbody : (body none).Yields disk calls left answer) :
    (within standIns logger tokens path body).Yields disk calls left answer := by
  obtain ⟨cause, hcause⟩ := Refusal.exists_system_fault hrefusal path.toString
  -- What keeps a file from being written keeps it from being removed as well.
  have hremove := Disk.remove_refused_of_write_refused hwrite
  have hkept : disk.cleared path = disk := by rw [Disk.cleared, hremove]
  have hfallback :
      ((remove path).attempt >>= fun _ => body none).Yields disk calls left answer := by
    refine (remove_yields path disk).attempt.silent_bind ?_
    rw [hkept]
    exact hbody
  refine (write_yields_of_refused hwrite).attempt.silent_bind ?_
  rw [hcause]
  exact .log_bind hfallback

/-- Where no file can have the name, the step does not run. -/
theorem within_of_holdsZero (hwrite : disk.write path.toString bytes = .error .holdsZero)
    (logger : String) (body : Option Path → Step α) :
    (within standIns logger tokens path body).Yields disk [] disk
      (.error (.badValue "embedded null byte")) :=
  (write_yields_of_refused hwrite).attempt.silent_bind ⟨rfl, rfl, rfl⟩

/-- Where the file is left empty, the step does not run, and nothing is cleaned up. -/
theorem within_of_strands (hstrands : Strands standIns tokens path disk cause left)
    (logger : String) (body : Option Path → Step α) :
    (within standIns logger tokens path body).Yields disk [] left
      (.error (.unencodable cause)) := by
  have hwritten : (write standIns tokens path).Yields disk [] left
      (.error (.unencodable cause)) := by
    constructor <;> rw [write_of_strands hstrands]
    rfl
  exact hwritten.attempt.silent_bind ⟨rfl, rfl, rfl⟩

end Within

end LinkRelay.ResponseFile
