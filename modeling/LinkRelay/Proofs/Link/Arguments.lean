import LinkRelay.Proofs.Link.Plan

namespace LinkRelay.Link

/-- A token that names no argument file, spells no control flag and implies no target directory. -/
structure Plain (token : String) : Prop where
  noFile : ¬ Text.startsWith token "@" = true
  noFlag : ∀ flag ∈ ControlFlag.flags, ¬ ControlFlag.Spells token flag
  noTarget : ¬ ((∃ before behind, token = before ++ "/target/" ++ behind) ∧
    ∃ before behind, token = before ++ "/deps/" ++ behind)

/-- A plain command line asks for nothing but its arguments. -/
theorem asks_of_plain {argv : List String} (hplain : ∀ token ∈ argv, Plain token) :
    ControlFlag.Asks argv ⟨argv, none, false, none⟩ :=
  ControlFlag.asks_of_not_spells fun token htoken => (hplain token htoken).noFlag

/-- A plain command line is left as it is when its argument files are expanded. -/
theorem answer_expand_of_plain {argv : List String} (hplain : ∀ token ∈ argv, Plain token)
    (disk : Disk) : (ArgumentFile.expand argv disk).answer = .ok argv :=
  ArgumentFile.answer_expand_of_plain (fun token htoken => (hplain token htoken).noFile) disk

/-- A plain command line leads to no build script. -/
theorem answer_infer_of_plain {argv : List String} (hplain : ∀ token ∈ argv, Plain token)
    (disk : Disk) : (TargetDirectory.infer .usual argv disk).answer = .ok none := by
  have hnone : TargetDirectory.candidate? .usual argv = none := by
    rw [TargetDirectory.candidate?_eq_none_iff]
    intro token htoken
    rw [TargetDirectory.Marked, Text.contains_iff, Text.contains_iff]
    exact (hplain token htoken).noTarget
  rw [TargetDirectory.answer_infer, hnone]
  rfl

/-- A plain command line is all that there is to its inputs. -/
theorem Inputs.of_plain {disk : Disk} {argv : List String} {r : ControlFlag.Request}
    {d : BuildScript.Directives} (hinputs : Inputs disk argv r d)
    (hplain : ∀ token ∈ argv, Plain token) :
    r = ⟨argv, none, false, none⟩ ∧ d.arguments = [] := by
  obtain ⟨⟨tokens, htokens, hasks⟩, target, source, htarget, hd⟩ := hinputs
  cases (answer_expand_of_plain hplain disk).symm.trans htokens
  have hr : r = ⟨argv, none, false, none⟩ := hasks.unique (asks_of_plain hplain)
  rw [hr] at htarget
  cases (answer_infer_of_plain hplain disk).symm.trans htarget
  exact ⟨hr, congrArg BuildScript.Directives.arguments hd.eq_of_none⟩

/-- A plain command line is handed to the linker as it is, whichever that is. -/
theorem answer_plan_of_plain {host : Host} {env : Environment} {argv : List String} {disk : Disk}
    {linker : String} (hplain : ∀ token ∈ argv, Plain token)
    (hfound : (Linker.resolve host env .usual none disk).answer = .ok linker) :
    (plan host env argv disk).answer = .ok ⟨linker, argv, none⟩ := by
  have hfree : ¬ BuildScript.Blocked disk none := by
    rintro ⟨target, htarget, -⟩
    cases htarget
  have hunderway : Underway host env argv disk ⟨argv, none, false, none⟩ linker none :=
    ⟨⟨argv, answer_expand_of_plain hplain disk, asks_of_plain hplain⟩, hfound,
      answer_infer_of_plain hplain disk, hfree⟩
  obtain ⟨source, d, hd, hplan⟩ := hunderway.answer_plan
  rw [hplan, hd.eq_of_none, Plan.ofInputs]
  simp

/-- A host on which every process succeeds without a word. -/
def obligingHost : Host where
  environment := []
  processId := 1
  temporary := ⟨.relative, ["tmp"]⟩
  runner _ _ disk := (disk, .ok ⟨0, [], []⟩)

/-- A disk on which a build script has asked for a library, and has tried to pass on a flag. -/
def builtDisk : Disk where
  nodes := [(["t"], .directory), (["t", "target"], .directory),
    (["t", "target", "build"], .directory), (["t", "target", "build", "esp-idf-sys-1"], .directory),
    (["t", "target", "build", "esp-idf-sys-1", "output"], .file (Utf8.encode
      "cargo:rustc-link-arg=--ldproxy\ncargo:rustc-link-arg=-la") false)]
  here := []

/-- A command line that asks for its libraries to be collapsed, and names the one of the script. -/
def builtLine : List String :=
  ["--ldproxy-linker=ld", "--ldproxy-dedup-libs", "-la", "t/target/deps/x.rlib"]

/-- What becomes of these: the script's library is the one that stays. -/
def builtCall : Call where
  command := ["ld", "t/target/deps/x.rlib", "-la"]
  directory := none
  disk := builtDisk

private theorem builtCall_mem : builtCall ∈ (run obligingHost [] builtLine builtDisk).calls := by
  decide +kernel

/-- Where the linker is started, its arguments are what is left of the command line followed by what
the build script contributes, and nothing is lost or added or moved. Only if it is asked for, of
equal library flags the last one alone stays. A plain command line stays as it is. -/
theorem arguments_of_call {host : Host} {env : Environment} {argv : List String} {disk : Disk}
    {call : Call} (hcall : call ∈ (run host env argv disk).calls) :
    ∃ p path r d, (plan host env argv disk).answer = .ok p ∧
      call.command = p.linker :: Invocation.handedOver p.arguments path ∧ Inputs disk argv r d ∧
      (r.collapses = false → p.arguments = r.remaining ++ d.arguments) ∧
      (r.collapses = true →
        p.arguments = Library.keepLast "-l" (r.remaining ++ d.arguments)) ∧
      ((∀ token ∈ argv, Plain token) → p.arguments = argv) := by
  obtain ⟨p, path, hplan, hcommand⟩ := exists_plan_of_call hcall
  obtain ⟨r, d, hinputs, harguments⟩ := arguments_of_plan hplan
  refine ⟨p, path, r, d, hplan, hcommand, hinputs, fun hkeeps => ?_, fun hcollapses => ?_,
    fun hplain => ?_⟩
  · rw [harguments, hkeeps]
    rfl
  · rw [harguments, hcollapses]
    rfl
  · obtain ⟨rfl, hempty⟩ := hinputs.of_plain hplain
    rw [harguments, hempty, List.append_nil]
    rfl

/-- A call with an argument of a build script, for which there is a plan. -/
theorem arguments_of_call_built :
    builtCall ∈ (run obligingHost [] builtLine builtDisk).calls ∧
    ∃ p path r d, (plan obligingHost [] builtLine builtDisk).answer = .ok p ∧
      ["ld", "t/target/deps/x.rlib", "-la"] =
        p.linker :: Invocation.handedOver p.arguments path ∧ Inputs builtDisk builtLine r d ∧
      (r.collapses = false → p.arguments = r.remaining ++ d.arguments) ∧
      (r.collapses = true →
        p.arguments = Library.keepLast "-l" (r.remaining ++ d.arguments)) ∧
      ((∀ token ∈ builtLine, Plain token) → p.arguments = builtLine) :=
  ⟨builtCall_mem, arguments_of_call builtCall_mem⟩

/-- Nothing that is left of the command line, and nothing that the build script contributes, spells
a control flag. -/
theorem Inputs.not_spells {disk : Disk} {argv : List String} {r : ControlFlag.Request}
    {d : BuildScript.Directives} (hinputs : Inputs disk argv r d) :
    ∀ token ∈ r.remaining ++ d.arguments, ∀ flag ∈ ControlFlag.flags,
      ¬ ControlFlag.Spells token flag := by
  obtain ⟨⟨tokens, -, hasks⟩, target, source, -, hd⟩ := hinputs
  intro token htoken flag hflag hspells
  obtain hremaining | hcontributed := List.mem_append.mp htoken
  · exact hasks.not_spells token hremaining flag hflag hspells
  · exact hd.not_startsWith_flagStart token hcontributed
      (ControlFlag.startsWith_flagStart_of_spells hflag hspells)

/-- Where the linker is started, none of its arguments is a control flag: taking the flags out of
them finds none and leaves all of them. What the build script contributes does not even begin like
one. -/
theorem no_flag_in_call {host : Host} {env : Environment} {argv : List String} {disk : Disk}
    {call : Call} (hcall : call ∈ (run host env argv disk).calls) :
    ∃ p path r d, (plan host env argv disk).answer = .ok p ∧
      call.command = p.linker :: Invocation.handedOver p.arguments path ∧ Inputs disk argv r d ∧
      (p.arguments = if r.collapses then Library.keepLast "-l" (r.remaining ++ d.arguments)
        else r.remaining ++ d.arguments) ∧
      (∀ token ∈ p.arguments, ∀ flag ∈ ControlFlag.flags, ¬ ControlFlag.Spells token flag) ∧
      (∀ disk', (ControlFlag.extract .own p.arguments disk').answer =
        .ok ⟨p.arguments, none, false, none⟩) ∧
      ∀ argument ∈ d.arguments, ¬ Text.startsWith argument "--ldproxy" = true := by
  obtain ⟨p, path, hplan, hcommand⟩ := exists_plan_of_call hcall
  obtain ⟨r, d, hinputs, harguments⟩ := arguments_of_plan hplan
  have hflagless : ∀ token ∈ p.arguments, ∀ flag ∈ ControlFlag.flags,
      ¬ ControlFlag.Spells token flag := by
    intro token htoken
    apply hinputs.not_spells
    rw [harguments] at htoken
    split at htoken
    · exact Library.mem_keepLast.mp htoken
    · exact htoken
  refine ⟨p, path, r, d, hplan, hcommand, hinputs, harguments, hflagless, fun disk' => ?_, ?_⟩
  · rw [ControlFlag.answer_extract, ControlFlag.scan_eq_ok_iff]
    exact ControlFlag.asks_of_not_spells hflagless
  · obtain ⟨-, target, source, -, hd⟩ := hinputs
    exact hd.not_startsWith_flagStart

/-- The same call has no control flag. -/
theorem no_flag_in_call_built :
    builtCall ∈ (run obligingHost [] builtLine builtDisk).calls ∧
    ∃ p path r d, (plan obligingHost [] builtLine builtDisk).answer = .ok p ∧
      ["ld", "t/target/deps/x.rlib", "-la"] =
        p.linker :: Invocation.handedOver p.arguments path ∧ Inputs builtDisk builtLine r d ∧
      (p.arguments = if r.collapses then Library.keepLast "-l" (r.remaining ++ d.arguments)
        else r.remaining ++ d.arguments) ∧
      (∀ token ∈ p.arguments, ∀ flag ∈ ControlFlag.flags, ¬ ControlFlag.Spells token flag) ∧
      (∀ disk', (ControlFlag.extract .own p.arguments disk').answer =
        .ok ⟨p.arguments, none, false, none⟩) ∧
      ∀ argument ∈ d.arguments, ¬ Text.startsWith argument "--ldproxy" = true :=
  ⟨builtCall_mem, no_flag_in_call builtCall_mem⟩

end LinkRelay.Link
