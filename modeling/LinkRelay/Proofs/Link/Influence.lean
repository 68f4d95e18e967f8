import LinkRelay.Proofs.Disk.Contents
import LinkRelay.Proofs.Link.Arguments

namespace LinkRelay

open Disk (SameShape SameButBytes)

namespace BuildScript

variable {disk disk' : Disk}

theorem Layout.candidate_iff (hsame : SameShape disk disk') (layout : Layout) (target : Path)
    (name : String) : layout.Candidate disk' target name ↔ layout.Candidate disk target name := by
  rw [Candidate, Candidate, hsame.exists_names_mem]

theorem Layout.asked_iff (hsame : SameShape disk disk') (layout : Layout) (target : Path)
    (name : String) : layout.Asked disk' target name ↔ layout.Asked disk target name := by
  simp only [Asked, candidate_iff hsame, hsame.hasDirectory_iff]

/-- The companion is the same on disks of one shape. -/
theorem Layout.companion_iff (hsame : SameShape disk disk') (layout : Layout) (target : Path)
    (name : String) : layout.Companion disk' target name ↔ layout.Companion disk target name := by
  rw [Companion, Companion, asked_iff hsame, hsame.hasDirectory_iff]

/-- What files hold does not stand in the way of a lookup, nor clears it. -/
theorem blocked_iff (hsame : SameShape disk disk') (target : Option Path) :
    Blocked disk' target ↔ Blocked disk target := by
  simp only [Blocked, Layout.MeetsOverlong, hsame.overlong_iff, Layout.asked_iff hsame,
    Layout.companion_iff hsame]

end BuildScript

/-- The linker is found without any file being read. -/
theorem Linker.answer_resolve_congr {disk disk' : Disk} (hsame : SameShape disk disk') (host : Host)
    (env : Environment) (sources : Sources) (asked : Option String) :
    (resolve host env sources asked disk').answer =
      (resolve host env sources asked disk).answer := by
  have hfound (path : String) : isFound disk' path = isFound disk path := by
    funext name
    rw [isFound, isFound, hsame.isExecutable_eq]
  rw [answer_resolve, answer_resolve, hfound]

namespace ArgumentFile

variable {path : Path} {disk disk' : Disk}

/-- A token that does not name the file stands for what it stood for. -/
theorem answer_expandToken_congr (hsame : SameButBytes path disk disk') {token : String}
    (hunnamed : ∀ name, "@" ++ name = token → disk.walk name ≠ disk.walk path.toString) :
    (expandToken token disk').answer = (expandToken token disk).answer := by
  rw [expandToken]
  cases hname : Text.after? "@" token with
  | none => rfl
  | some name =>
    have hother := hunnamed name (Text.after?_eq_some_iff.mp hname).symm
    simp only [Step.answer_look_bind, hsame.sameShape.exists?_eq, Answer.ok_bind]
    cases hthere : disk.exists? name with
    | false => rfl
    | true =>
      obtain ⟨node, hstat⟩ := Disk.exists?_iff.mp hthere
      obtain ⟨loc, hwalk, -⟩ := Disk.stat_eq_ok_iff.mp hstat
      -- The file is read by the path that its name spells, and this leads where the name leads.
      have hfile : disk.walk (Path.ofString name).toString ≠ disk.walk path.toString := by
        rw [Disk.walk_ofString hwalk, ← hwalk]
        exact hother
      rw [if_pos rfl, answer_read, answer_read, hsame.readText_eq hfile]

/-- A file that no token names shows in no expansion. -/
theorem answer_expand_congr (hsame : SameButBytes path disk disk') {argv : List String}
    (hunnamed : ∀ name, "@" ++ name ∈ argv → disk.walk name ≠ disk.walk path.toString) :
    (expand argv disk').answer = (expand argv disk).answer := by
  induction argv with
  | nil => rfl
  | cons token rest ih =>
    have htoken : ∀ name, "@" ++ name = token → disk.walk name ≠ disk.walk path.toString := by
      rintro name rfl
      exact hunnamed name List.mem_cons_self
    rw [answer_expand_cons, answer_expand_cons, answer_expandToken_congr hsame htoken,
      ih fun name hname => hunnamed name (List.mem_cons_of_mem _ hname)]

end ArgumentFile

namespace Link

variable {host : Host} {env : Environment} {argv : List String} {path : Path} {disk disk' : Disk}
  {r : ControlFlag.Request} {linker : String} {target : Option Path}

/-- What a file holds that no argument file names does not keep a link from its build script, nor
show before it. -/
theorem Underway.congr (hunderway : Underway host env argv disk r linker target)
    (hsame : SameButBytes path disk disk')
    (hunnamed : ∀ name, "@" ++ name ∈ argv → disk.walk name ≠ disk.walk path.toString) :
    Underway host env argv disk' r linker target where
  asked := by
    rw [ArgumentFile.answer_expand_congr hsame hunnamed]
    exact hunderway.asked
  found := by
    rw [Linker.answer_resolve_congr hsame.sameShape]
    exact hunderway.found
  implied := by
    rw [TargetDirectory.answer_infer, ← TargetDirectory.answer_infer _ _ disk]
    exact hunderway.implied
  free := by
    rw [BuildScript.blocked_iff hsame.sameShape]
    exact hunderway.free

/-- A disk with an argument file and the given output of a build script. -/
def scriptedDisk (output : String) : Disk :=
  (builtDisk.put ["args"] (.file (Utf8.encode "-la -lb") false)).put
    ["t", "target", "build", "esp-idf-sys-1", "output"] (.file (Utf8.encode output) false)

/-- The path of that output. -/
def scriptedPath : Path :=
  ⟨.relative, ["t", "target", "build", "esp-idf-sys-1", "output"]⟩

/-- An output that asks for a library. -/
def modestOutput : String :=
  "cargo:rustc-link-arg=-la\n"

/-- An output that asks for a linker, for its libraries to be collapsed, and for a directory. -/
def graspingOutput : String :=
  "cargo:rustc-link-arg=--ldproxy-linker\ncargo:rustc-link-arg=other-ld\n" ++
  "cargo:rustc-link-arg=--ldproxy-dedup-libs\ncargo:rustc-link-arg=--ldproxy-linker=other-ld\n" ++
  "cargo:rustc-link-arg=--ldproxy-cwd\ncargo:rustc-link-arg=/w\ncargo:rustc-link-arg=-lb\n"

/-- Where a plan is reached, it is also reached with anything else in a file that no argument file
names, such as the output of a build script. Both plans are made of one linker and one request:
their arguments begin with the same tokens, and lose the libraries that come again or keep them.
What differs is what the build script contributes, the arguments behind these and the working
directory. -/
theorem plan_of_bytes_changed {p : Plan} (hsame : SameButBytes path disk disk')
    (hunnamed : ∀ name, "@" ++ name ∈ argv → disk.walk name ≠ disk.walk path.toString)
    (hplan : (plan host env argv disk).answer = .ok p) :
    ∃ r linker d d', Inputs disk argv r d ∧ Inputs disk' argv r d' ∧
      p = Plan.ofInputs linker r d ∧
      (plan host env argv disk').answer = .ok (Plan.ofInputs linker r d') := by
  obtain ⟨r, linker, target, source, d, hunderway, hd, hp⟩ := exists_underway_of_plan hplan
  have hunderway' := hunderway.congr hsame hunnamed
  obtain ⟨source', d', hd', hplan'⟩ := hunderway'.answer_plan
  exact ⟨r, linker, d, d', hunderway.inputs hd, hunderway'.inputs hd', hp, hplan'⟩

/-- The linker of the environment stays, and no library goes, whatever the second output asks. -/
theorem plan_of_bytes_changed_grasping :
    (plan obligingHost [("CC", "cc")] ["@args", "t/target/deps/x.rlib"]
      (scriptedDisk modestOutput)).answer =
        .ok ⟨"cc", ["-la", "-lb", "t/target/deps/x.rlib", "-la"], none⟩ ∧
    SameButBytes scriptedPath (scriptedDisk modestOutput) (scriptedDisk graspingOutput) ∧
    (∀ name, "@" ++ name ∈ ["@args", "t/target/deps/x.rlib"] →
      (scriptedDisk modestOutput).walk name ≠
        (scriptedDisk modestOutput).walk scriptedPath.toString) ∧
    ∃ r linker d d', Inputs (scriptedDisk modestOutput) ["@args", "t/target/deps/x.rlib"] r d ∧
      Inputs (scriptedDisk graspingOutput) ["@args", "t/target/deps/x.rlib"] r d' ∧
      ⟨"cc", ["-la", "-lb", "t/target/deps/x.rlib", "-la"], none⟩ = Plan.ofInputs linker r d ∧
      (plan obligingHost [("CC", "cc")] ["@args", "t/target/deps/x.rlib"]
        (scriptedDisk graspingOutput)).answer = .ok (Plan.ofInputs linker r d') := by
  have hplan : (plan obligingHost [("CC", "cc")] ["@args", "t/target/deps/x.rlib"]
      (scriptedDisk modestOutput)).answer =
        .ok ⟨"cc", ["-la", "-lb", "t/target/deps/x.rlib", "-la"], none⟩ := by
    decide +kernel
  have hsame : SameButBytes scriptedPath (scriptedDisk modestOutput)
      (scriptedDisk graspingOutput) :=
    .put (by decide) (by decide +kernel) _
  have hunnamed : ∀ name, "@" ++ name ∈ ["@args", "t/target/deps/x.rlib"] →
      (scriptedDisk modestOutput).walk name ≠
        (scriptedDisk modestOutput).walk scriptedPath.toString := by
    intro name hname
    have hargs : name = "args" := by
      obtain hname | hname := List.mem_pair.mp hname
      · have hafter := congrArg (Text.after? "@") hname
        rw [Text.after?_append] at hafter
        exact Option.some.inj hafter
      · have hafter := congrArg (Text.after? "@") hname
        rw [Text.after?_append] at hafter
        cases hafter
    subst hargs
    decide +kernel
  exact ⟨hplan, hsame, hunnamed, plan_of_bytes_changed hsame hunnamed hplan⟩

end Link

end LinkRelay
