import LinkRelay.Proofs.Disk.Change
import LinkRelay.Proofs.Disk.Route
import LinkRelay.Proofs.Invocation.Handing

namespace LinkRelay.Invocation

variable {s : Settings} {linker cwd : String} {arguments : List String} {disk : Disk} {call : Call}

/-- From the directory that a process is to run in, a name leads to the place that it leads to from
the current directory. -/
def FoundIn (disk : Disk) (cwd name : String) : Prop :=
  ∃ start loc, disk.walk cwd = .ok start ∧ disk.node? start = some .directory ∧
    disk.walk name = .ok loc ∧ (disk.seenFrom start).walk name = .ok loc

/-- A name is found from a directory if it leads from there to where it led from the current one. -/
theorem foundIn_iff {name : String} {start loc : Location} (hcwd : disk.walk cwd = .ok start)
    (hstart : disk.node? start = some .directory) (hwalk : disk.walk name = .ok loc) :
    FoundIn disk cwd name ↔ (disk.seenFrom start).walk name = .ok loc := by
  simp [FoundIn, hcwd, hstart, hwalk]

/-- A call of a run that uses a response file finds it written. -/
theorem call_of_usesFile {directory : Option String}
    (hcall : call ∈ (run s linker arguments directory disk).calls)
    (huses : UsesFile s arguments disk) :
    call.command = [linker, "@" ++ s.responseFile.toString] ∧ call.directory = directory ∧
      disk.write s.responseFile.toString (Utf8.encode (ResponseFile.text arguments)) =
        .ok call.disk := by
  obtain ⟨left, fault, -, hyields⟩ | ⟨path, found, hhanding, hyields⟩ :=
    run_cases s linker arguments directory disk
  · rw [hyields.calls_eq] at hcall
    cases hcall
  · rw [hyields.calls_eq, List.mem_singleton] at hcall
    subst hcall
    cases path with
    | none =>
      obtain ⟨rfl, hunused⟩ := hhanding.of_none
      exact absurd huses hunused
    | some path =>
      obtain ⟨rfl, -, -, hwrite⟩ := hhanding.of_some
      exact ⟨rfl, rfl, hwrite⟩

/-- A linker that is handed a response file and runs in a directory of its own finds the file there
if the file's name is absolute. It finds the file by a relative name exactly if the way there can be
gone from its directory and this agrees with the current one above the height that the way goes up
to; and by one without double dots only if it runs in the current directory after all. -/
theorem response_file_found_iff {start : Location}
    (hcall : call ∈ (run s linker arguments (some cwd) disk).calls)
    (huses : UsesFile s arguments disk) (hcwd : call.disk.walk cwd = .ok start)
    (hstart : call.disk.node? start = some .directory) :
    call.command = [linker, "@" ++ s.responseFile.toString] ∧ call.directory = some cwd ∧
    (disk.stat s.responseFile.toString ≠ .ok .sink → ∃ executable,
      call.disk.stat s.responseFile.toString =
        .ok (.file (Utf8.encode (ResponseFile.text arguments)) executable)) ∧
    (FoundIn call.disk cwd s.responseFile.toString ↔
      Text.startsWith s.responseFile.toString "/" = true ∨
        ((∃ loc, (call.disk.seenFrom start).walk s.responseFile.toString = .ok loc) ∧
          start.rdrop (Disk.routeOf s.responseFile.toString).up =
            disk.here.rdrop (Disk.routeOf s.responseFile.toString).up)) ∧
    (".." ∉ Text.split '/' s.responseFile.toString →
      (FoundIn call.disk cwd s.responseFile.toString ↔
        Text.startsWith s.responseFile.toString "/" = true ∨ start = disk.here)) := by
  obtain ⟨hcommand, hdirectory, hwrite⟩ := call_of_usesFile hcall huses
  have hhere : call.disk.here = disk.here := (Disk.changesOnly_of_write hwrite).toSameBeside.here
  have hwalk : ∃ loc, call.disk.walk s.responseFile.toString = .ok loc := by
    obtain ⟨loc, hwalk, -⟩ := huses.2
    exact ⟨loc, (Disk.changesOnly_of_write hwrite).toSameWays.walk_iff.mpr hwalk⟩
  obtain ⟨loc, hwalk⟩ := hwalk
  rw [foundIn_iff hcwd hstart hwalk, ← hhere]
  exact ⟨hcommand, hdirectory, Disk.stat_of_write hwrite, Disk.walk_seenFrom_iff hwalk start,
    fun hdown => Disk.walk_seenFrom_iff_of_down hdown hwalk start⟩

/-- Settings under which any argument at all is handed over by a response file in a directory. -/
def filedIn (directory : Path) : Settings :=
  { scripted (.ok ⟨0, [], []⟩) with directory := some directory }

/-- A disk with two directories side by side, one of them the current one, and a third one for
response files. -/
def siblingDisk : Disk where
  nodes := [(["w"], .directory), (["w", "a"], .directory), (["w", "b"], .directory),
    (["w", "rsp"], .directory)]
  here := ["w", "a"]

/-- A relative response file is found from a directory that stands beside the current one, as the
way to it goes up first. -/
theorem response_file_found_iff_sibling :
    ∃ call ∈ (run (filedIn ⟨.relative, ["..", "rsp"]⟩) "ld" ["-la"] (some "../b")
        siblingDisk).calls,
      UsesFile (filedIn ⟨.relative, ["..", "rsp"]⟩) ["-la"] siblingDisk ∧
      call.disk.walk "../b" = .ok ["w", "b"] ∧
      call.disk.node? ["w", "b"] = some .directory ∧
      call.command = ["ld", "@../rsp/ldproxy-1.rsp"] ∧
      FoundIn call.disk "../b" "../rsp/ldproxy-1.rsp" := by
  let call : Call := ⟨["ld", "@../rsp/ldproxy-1.rsp"], some "../b", siblingDisk.put
    ["w", "rsp", "ldproxy-1.rsp"] (.file (Utf8.encode "-la") false)⟩
  have hcall : call ∈ (run (filedIn ⟨.relative, ["..", "rsp"]⟩) "ld" ["-la"] (some "../b")
      siblingDisk).calls := by decide +kernel
  have huses : UsesFile (filedIn ⟨.relative, ["..", "rsp"]⟩) ["-la"] siblingDisk :=
    ⟨by decide, ["w", "rsp", "ldproxy-1.rsp"], by decide +kernel, by decide +kernel⟩
  have hcwd : call.disk.walk "../b" = .ok ["w", "b"] := by decide +kernel
  have hstart : call.disk.node? ["w", "b"] = some .directory := by decide +kernel
  obtain ⟨hcommand, -, -, hfound, -⟩ := response_file_found_iff hcall huses hcwd hstart
  exact ⟨call, hcall, huses, hcwd, hstart, hcommand,
    hfound.mpr (Or.inr ⟨⟨["w", "rsp", "ldproxy-1.rsp"], by decide +kernel⟩, by decide +kernel⟩)⟩

/-- A disk with a directory for response files and one to run in. -/
def apartDisk : Disk where
  nodes := [(["out"], .directory), (["sub"], .directory)]
  here := []

/-- The name of a response file is not changed for a linker that runs in another directory, where it
leads to nothing. -/
theorem response_file_missed :
    ∃ call ∈ (run (filedIn ⟨.relative, ["out"]⟩) "ld" ["-la"] (some "sub") apartDisk).calls,
      call.command = ["ld", "@out/ldproxy-1.rsp"] ∧ call.directory = some "sub" ∧
      call.disk.stat "out/ldproxy-1.rsp" = .ok (.file (Utf8.encode "-la") false) ∧
      call.disk.stat "sub" = .ok .directory ∧
      (call.disk.seenFrom ["sub"]).stat "out/ldproxy-1.rsp" = .error .missing ∧
      ¬ FoundIn call.disk "sub" "out/ldproxy-1.rsp" := by
  let call : Call := ⟨["ld", "@out/ldproxy-1.rsp"], some "sub", apartDisk.put
    ["out", "ldproxy-1.rsp"] (.file (Utf8.encode "-la") false)⟩
  have hwalk : call.disk.walk "out/ldproxy-1.rsp" = .ok ["out", "ldproxy-1.rsp"] := by
    decide +kernel
  have hcwd : call.disk.walk "sub" = .ok ["sub"] := by decide +kernel
  refine ⟨call, by decide +kernel, rfl, rfl, by decide +kernel, by decide +kernel,
    by decide +kernel, ?_⟩
  rw [foundIn_iff hcwd (by decide +kernel) hwalk]
  decide +kernel

end LinkRelay.Invocation
