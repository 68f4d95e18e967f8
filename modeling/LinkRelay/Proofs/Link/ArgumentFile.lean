import LinkRelay.Proofs.Invocation.Handing
import LinkRelay.Proofs.Link.Plan

namespace LinkRelay.Link

/-- Everything after the expansion of argument files depends on its answer alone. -/
theorem answer_plan_congr {argv argv' : List String} {disk : Disk}
    (hexpand : (ArgumentFile.expand argv disk).answer = (ArgumentFile.expand argv' disk).answer)
    (host : Host) (env : Environment) :
    (plan host env argv disk).answer = (plan host env argv' disk).answer := by
  rw [answer_plan, answer_plan, hexpand]

/-- Command lines that are expanded to the same tokens give the same link. -/
theorem run_congr {argv argv' : List String} {disk : Disk}
    (hexpand : (ArgumentFile.expand argv disk).answer = (ArgumentFile.expand argv' disk).answer)
    (host : Host) (env : Environment) :
    (run host env argv disk).calls = (run host env argv' disk).calls ∧
      (run host env argv disk).answer = (run host env argv' disk).answer := by
  have hplans := answer_plan_congr hexpand host env
  cases hplan : (plan host env argv' disk).answer with
  | error fault =>
    obtain ⟨hcalls, hanswer⟩ := run_of_fault (hplans.trans hplan)
    obtain ⟨hcalls', hanswer'⟩ := run_of_fault hplan
    exact ⟨hcalls.trans hcalls'.symm, hanswer.trans hanswer'.symm⟩
  | ok p =>
    obtain ⟨hcalls, hanswer⟩ := run_of_plan (hplans.trans hplan)
    obtain ⟨hcalls', hanswer'⟩ := run_of_plan hplan
    exact ⟨hcalls.trans hcalls'.symm, hanswer.trans hanswer'.symm⟩

/-- A disk with an argument file of two words. -/
def quotedDisk : Disk where
  nodes := [(["args"], .file (Utf8.encode "'ld'\n'it'\"'\"'s'") false)]
  here := []

/-- A host on which every process succeeds. -/
def readyHost : Host :=
  (Invocation.scripted (.ok ⟨0, [], []⟩)).host

/-- A link whose command line names a file of words in quotes starts the same processes and comes to
the same answer as with these words in place of the file's name. -/
theorem run_of_argument_file {pre words post : List String} {name : String} {disk : Disk}
    {chars : List Char} {executable : Bool}
    (hplain : ∀ word ∈ words, ¬ Text.startsWith word "@" = true)
    (hreturn : ∀ word ∈ words, '\r' ∉ word.toList) (hwritten : Words.Written words chars)
    (hfile : disk.stat name = .ok (.file (Utf8.encode (String.ofList chars)) executable))
    (host : Host) (env : Environment) :
    (run host env (pre ++ ["@" ++ name] ++ post) disk).calls =
        (run host env (pre ++ words ++ post) disk).calls ∧
      (run host env (pre ++ ["@" ++ name] ++ post) disk).answer =
        (run host env (pre ++ words ++ post) disk).answer := by
  apply run_congr
  rw [ArgumentFile.answer_expand_append, ArgumentFile.answer_expand_append,
    ArgumentFile.answer_expand_of_written hwritten hreturn hfile,
    ArgumentFile.answer_expand_append, ArgumentFile.answer_expand_append,
    ArgumentFile.answer_expand_of_plain hplain]

/-- The first word of the file is the value of the flag before it. -/
theorem run_of_argument_file_straddling :
    Words.Written ["ld", "it's"] "'ld'\n'it'\"'\"'s'".toList ∧
    ⟨["ld", "it's", "-lc"], none, quotedDisk⟩ ∈
      (run readyHost [] (["--ldproxy-linker"] ++ ["@" ++ "args"] ++ ["-lc"]) quotedDisk).calls ∧
    (run readyHost [] (["--ldproxy-linker"] ++ ["@" ++ "args"] ++ ["-lc"]) quotedDisk).calls =
      (run readyHost [] (["--ldproxy-linker"] ++ ["ld", "it's"] ++ ["-lc"]) quotedDisk).calls ∧
    (run readyHost [] (["--ldproxy-linker"] ++ ["@" ++ "args"] ++ ["-lc"]) quotedDisk).answer =
      (run readyHost [] (["--ldproxy-linker"] ++ ["ld", "it's"] ++ ["-lc"]) quotedDisk).answer := by
  have hnoGap : Words.IsGap [] := by simp [Words.IsGap]
  have hlineFeed : Words.IsGap ['\n'] := by simp [Words.IsGap]
  have hlisted : Words.Listed ["ld", "it's"] "'ld'\n'it'\"'\"'s'".toList :=
    .cons hlineFeed (by simp) (.cons hnoGap (by simp) .nil)
  have hwritten : Words.Written ["ld", "it's"] "'ld'\n'it'\"'\"'s'".toList :=
    ⟨[], _, hnoGap, hlisted, rfl⟩
  have hfile : quotedDisk.stat "args" =
      .ok (.file (Utf8.encode (String.ofList "'ld'\n'it'\"'\"'s'".toList)) false) := by
    decide +kernel
  exact ⟨hwritten, by decide +kernel,
    run_of_argument_file (by decide) (by decide) hwritten hfile readyHost []⟩

end LinkRelay.Link
