import LinkRelay.Proofs.Disk.Change
import LinkRelay.Proofs.Invocation.Handing

namespace LinkRelay.Invocation

/-- The disk as the process that was started leaves it, or as it was if none was started. -/
def leftBy (host : Host) (disk : Disk) : List Call → Disk
  | [] => disk
  | call :: _ => (host.runner call.command call.directory call.disk).1

/-- How a disk, the processes started from it, and the disk in the end belong together if nothing of
an invocation stays behind. -/
structure LeavesNothing (s : Settings) (arguments : List String) (disk : Disk)
    (calls : List Call) (final : Disk) : Prop where
  startsAtMostOnce : calls.length ≤ 1
  /-- Everything but the response file is as the process left it. -/
  beside : Disk.SameBeside s.responseFile (leftBy s.host disk calls) final
  noFile : UsesFile s arguments disk → ¬ final.HasFile s.responseFile
  /-- A directory that the process put in the place of the response file stays. -/
  directoryStays : UsesFile s arguments disk →
    (leftBy s.host disk calls).HasDirectory s.responseFile → final = leftBy s.host disk calls
  /-- Where no response file was written, nothing is touched in its place either. -/
  unused : ¬ UsesFile s arguments disk → final = leftBy s.host disk calls
  untouched :
    (∀ call ∈ calls, (s.host.runner call.command call.directory call.disk).1 = call.disk) →
    Disk.SameBeside s.responseFile disk final
  untouchedMissing :
    (∀ call ∈ calls, (s.host.runner call.command call.directory call.disk).1 = call.disk) →
    (∀ node, disk.stat s.responseFile.toString ≠ .ok node) → final = disk

/-- An invocation that clears nothing away leaves nothing if no response file of its own is
there. -/
theorem LeavesNothing.of_kept {s : Settings} {arguments : List String} {disk : Disk}
    {calls : List Call} (honce : calls.length ≤ 1) (hfound : ∀ call ∈ calls, call.disk = disk)
    (hnone : UsesFile s arguments disk → ¬ (leftBy s.host disk calls).HasFile s.responseFile) :
    LeavesNothing s arguments disk calls (leftBy s.host disk calls) := by
  have hsame (huntouched : ∀ call ∈ calls,
      (s.host.runner call.command call.directory call.disk).1 = call.disk) :
      leftBy s.host disk calls = disk := by
    cases calls with
    | nil => rfl
    | cons call calls =>
      exact (huntouched call List.mem_cons_self).trans (hfound call List.mem_cons_self)
  exact {
    startsAtMostOnce := honce
    beside := .refl ..
    noFile := hnone
    directoryStays := fun _ _ => rfl
    unused := fun _ => rfl
    untouched := fun huntouched => by rw [hsame huntouched]; exact .refl ..
    untouchedMissing := fun huntouched _ => hsame huntouched }

/-- An invocation that clears its response file away leaves nothing, whatever the process did to the
file. -/
theorem LeavesNothing.of_written {s : Settings} {arguments : List String} {disk found : Disk}
    {command : List String} {directory : Option String} {bytes : List UInt8}
    (huses : UsesFile s arguments disk)
    (hwrite : disk.write s.responseFile.toString bytes = .ok found) :
    LeavesNothing s arguments disk [⟨command, directory, found⟩]
      ((s.host.runner command directory found).1.cleared s.responseFile) := by
  have hsame (huntouched : ∀ call ∈ [(⟨command, directory, found⟩ : Call)],
      (s.host.runner call.command call.directory call.disk).1 = call.disk) :
      (s.host.runner command directory found).1 = found :=
    huntouched _ List.mem_cons_self
  obtain ⟨hbeside, hmissing⟩ := Disk.cleared_of_write hwrite
  exact {
    startsAtMostOnce := Nat.le_refl 1
    beside := Disk.sameBeside_cleared ..
    noFile := fun _ => Disk.not_hasFile_cleared _ _
    directoryStays := fun _ => Disk.cleared_of_hasDirectory
    unused := fun hunused => absurd huses hunused
    untouched := fun huntouched => by rw [hsame huntouched]; exact hbeside
    untouchedMissing := fun huntouched => by rw [hsame huntouched]; exact hmissing }

/-- What is left of an invocation whose arguments no response file can list: no process was
started, and the response file is there and is empty. -/
structure LeavesEmptyFile (s : Settings) (disk : Disk) (calls : List Call) (final : Disk) :
    Prop where
  startsNothing : calls = []
  changesOnly : Disk.ChangesOnly s.responseFile disk final
  emptyFile : disk.stat s.responseFile.toString ≠ .ok .sink → ∃ executable,
    final.stat s.responseFile.toString = .ok (.file [] executable)

theorem LeavesEmptyFile.of_strands {s : Settings} {arguments : List String} {disk left : Disk}
    {cause : Utf8.Unencodable}
    (hstrands : ResponseFile.Strands s.host.standIns arguments s.responseFile disk cause left) :
    LeavesEmptyFile s disk [] left where
  startsNothing := rfl
  changesOnly := Disk.changesOnly_of_write hstrands.opened
  emptyFile := Disk.stat_of_write hstrands.opened

/-- Nothing of an invocation stays behind, however it ends, but in one case: the disk is as the
process left it, but for the response file, which is gone if it was written and untouched if it was
not. The one case is that of a response file which is opened and cannot be filled, as one of the
arguments holds bytes that are no text: it is left empty, unless a device stands in its place, and
the invocation ends in a fault that blames these bytes. -/
theorem run_leaves_nothing_iff (s : Settings) (linker : String) (arguments : List String)
    (directory : Option String) (disk : Disk) :
    (LeavesNothing s arguments disk (run s linker arguments directory disk).calls
        (run s linker arguments directory disk).disk ↔
      ¬ (StrandsFile s arguments disk ∧ disk.stat s.responseFile.toString ≠ .ok .sink)) ∧
    (StrandsFile s arguments disk →
      LeavesEmptyFile s disk (run s linker arguments directory disk).calls
        (run s linker arguments directory disk).disk ∧
      ∃ cause, s.host.standIns.Blames 0 (ResponseFile.text arguments).toList cause ∧
        (run s linker arguments directory disk).answer = .error (.unencodable cause)) := by
  by_cases hstrands : StrandsFile s arguments disk
  · obtain ⟨cause, left, hstranded, hyields⟩ := run_of_strandsFile hstrands linker directory
    rw [hyields.calls_eq, hyields.disk_eq, hyields.answer_eq]
    have hempty := LeavesEmptyFile.of_strands hstranded
    refine ⟨⟨?_, fun hnot => ?_⟩, fun _ => ⟨hempty, cause, hstranded.blames, rfl⟩⟩
    · rintro hnothing ⟨-, hdevice⟩
      obtain ⟨executable, hfile⟩ := hempty.emptyFile hdevice
      exact hnothing.noFile hstrands.1 ⟨[], executable, hfile⟩
    · have hdevice : disk.stat s.responseFile.toString = .ok .sink := by
        by_contra hfree
        exact hnot ⟨hstrands, hfree⟩
      have hkept : left = disk := Disk.eq_of_write_sink hstranded.opened hdevice
      subst hkept
      refine .of_kept (Nat.zero_le 1) (by simp) fun _ => ?_
      rintro ⟨bytes, executable, hfile⟩
      cases hdevice.symm.trans hfile
  · refine ⟨iff_of_true ?_ fun hboth => hstrands hboth.1, fun hboth => absurd hboth hstrands⟩
    obtain ⟨left, fault, hhalts, hyields⟩ | ⟨path, found, hhanding, hyields⟩ :=
      run_cases s linker arguments directory disk
    · obtain ⟨-, hunused, rfl⟩ | ⟨hboth, -⟩ := hhalts.cases
      · rw [hyields.calls_eq, hyields.disk_eq]
        exact .of_kept (by simp) (by simp) fun huses => absurd huses hunused
      · exact absurd hboth hstrands
    · rw [hyields.calls_eq, hyields.disk_eq]
      cases path with
      | none =>
        obtain ⟨rfl, hunused⟩ := hhanding.of_none
        exact .of_kept (by simp) (by simp) fun huses => absurd huses hunused
      | some path =>
        obtain ⟨rfl, huses, -, hwrite⟩ := hhanding.of_some
        exact .of_written huses hwrite

/-- A process that is interrupted leaves no response file behind. -/
theorem run_leaves_nothing_interrupted :
    UsesFile (scripted (.error (.interrupted ""))) ["-la"] temporaryDisk ∧
      (run (scripted (.error (.interrupted ""))) "ld" ["-la"] none temporaryDisk).disk =
        temporaryDisk := by
  refine ⟨⟨by decide, ["tmp", "ldproxy-1.rsp"], by decide +kernel, by decide +kernel⟩, ?_⟩
  have hplain : ¬ (StrandsFile (scripted (.error (.interrupted ""))) ["-la"] temporaryDisk ∧
      temporaryDisk.stat "tmp/ldproxy-1.rsp" ≠ .ok .sink) := by
    rintro ⟨⟨-, hunlistable⟩, -⟩
    exact ResponseFile.not_unlistable_empty ["-la"] hunlistable
  refine ((run_leaves_nothing_iff ..).1.mpr hplain).untouchedMissing (fun call _ => rfl)
    fun node hnode => ?_
  have hmissing : temporaryDisk.stat "tmp/ldproxy-1.rsp" = .error .missing := by decide +kernel
  cases hmissing.symm.trans hnode

/-- The linker would touch nothing, and a response file that was not there is left and is empty. -/
theorem run_leaves_empty_file :
    temporaryDisk.stat "tmp/ldproxy-1.rsp" = .error .missing ∧
    strandedOutcome.disk.stat "tmp/ldproxy-1.rsp" = .ok (.file [] false) ∧
    ¬ LeavesNothing (unfiltered (.ok ⟨0, [], []⟩)) [ResponseFile.loneByte] temporaryDisk
      strandedOutcome.calls strandedOutcome.disk := by
  have hmissing : temporaryDisk.stat "tmp/ldproxy-1.rsp" = .error .missing := by decide +kernel
  have hfile : strandedOutcome.disk.stat "tmp/ldproxy-1.rsp" = .ok (.file [] false) := by
    decide +kernel
  refine ⟨hmissing, hfile, fun hnothing => ?_⟩
  have hsame := hnothing.untouchedMissing (fun call _ => rfl) fun node hnode => by
    cases hmissing.symm.trans hnode
  rw [hsame, hmissing] at hfile
  cases hfile

end LinkRelay.Invocation
