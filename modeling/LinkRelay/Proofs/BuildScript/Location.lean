import LinkRelay.BuildScript.Location
import LinkRelay.Proofs.Disk
import LinkRelay.Proofs.Step

namespace LinkRelay.BuildScript

/-- An entry that is asked about: no lesser one leads to a directory. -/
def Tried (disk : Disk) (directory : Path) (names : List String) (name : String) : Prop :=
  name ∈ names ∧ ∀ m ∈ names, m < name → ¬ disk.HasDirectory (directory.child m)

/-- Asking one entry after the other, in order, finds the first directory, or finds none, or meets
a name that is too long. -/
theorem firstDirectory_cases (disk : Disk) (directory : Path) {names : List String}
    (hsorted : names.Pairwise (· ≤ ·)) :
    (∃ name, Tried disk directory names name ∧ disk.HasDirectory (directory.child name) ∧
      (∀ m ∈ names, m < name → ¬ disk.Overlong (directory.child m)) ∧
      firstDirectory disk (names.map directory.child) = .ok (some (directory.child name))) ∨
    ((∀ name ∈ names, ¬ disk.HasDirectory (directory.child name) ∧
      ¬ disk.Overlong (directory.child name)) ∧
      firstDirectory disk (names.map directory.child) = .ok none) ∨
    ∃ name, Tried disk directory names name ∧ disk.Overlong (directory.child name) ∧
      firstDirectory disk (names.map directory.child) =
        .error (Refusal.nameTooLong.fault (directory.child name).toString) := by
  induction names with
  | nil => exact Or.inr (Or.inl ⟨by simp, rfl⟩)
  | cons first rest ih =>
    obtain ⟨hleast, hsorted⟩ := List.pairwise_cons.mp hsorted
    have hnothingBefore : ∀ m ∈ first :: rest, ¬ m < first := by
      intro m hm
      rw [String.not_lt]
      obtain rfl | hm := List.mem_cons.mp hm
      · exact String.le_refl m
      · exact hleast m hm
    have htried : Tried disk directory (first :: rest) first :=
      ⟨List.mem_cons_self, fun m hm hlt => absurd hlt (hnothingBefore m hm)⟩
    rw [List.map_cons, firstDirectory]
    obtain ⟨hlong, hfirst⟩ | ⟨hdirectory, hfirst⟩ | ⟨hlong, hnone, hfirst⟩ :=
      disk.isDirectory_cases (directory.child first)
    · exact Or.inr (Or.inr ⟨first, htried, hlong, by rw [hfirst]; rfl⟩)
    · exact Or.inl ⟨first, htried, hdirectory, fun m hm hlt => absurd hlt (hnothingBefore m hm),
        by rw [hfirst]; rfl⟩
    · have hlater {name : String} (hname : Tried disk directory rest name) :
          Tried disk directory (first :: rest) name := by
        refine ⟨List.mem_cons_of_mem _ hname.1, fun m hm hlt => ?_⟩
        obtain rfl | hm := List.mem_cons.mp hm
        · exact hnone
        · exact hname.2 m hm hlt
      rw [hfirst]
      obtain ⟨name, hname, hdirectory, hshort, hrest⟩ | ⟨hall, hrest⟩ |
        ⟨name, hname, hover, hrest⟩ := ih hsorted
      · refine Or.inl ⟨name, hlater hname, hdirectory, fun m hm hlt => ?_, hrest⟩
        obtain rfl | hm := List.mem_cons.mp hm
        · exact hlong
        · exact hshort m hm hlt
      · exact Or.inr (Or.inl ⟨List.forall_mem_cons.mpr ⟨⟨hnone, hlong⟩, hall⟩, hrest⟩)
      · exact Or.inr (Or.inr ⟨name, hlater hname, hover, hrest⟩)

/-- The entries that may be companions, sorted by name. -/
def sortedCandidates (start : String) (names : List String) : List String :=
  (names.mergeSort fun a b => decide (a ≤ b)).filter fun name => Text.startsWith name start

/-- Candidates are tried in the order of their names. -/
theorem pairwise_sortedCandidates (start : String) (names : List String) :
    (sortedCandidates start names).Pairwise (· ≤ ·) := by
  have hsorted : (names.mergeSort fun a b => decide (a ≤ b)).Pairwise
      (fun a b => decide (a ≤ b) = true) := by
    apply List.pairwise_mergeSort
    · intro a b c hab hbc
      simp only [decide_eq_true_eq] at hab hbc ⊢
      exact String.le_trans hab hbc
    · intro a b
      simpa using String.le_total a b
  exact (hsorted.imp of_decide_eq_true).filter _

/-- A candidate is listed and starts in the given way. -/
theorem mem_sortedCandidates {start name : String} {names : List String} :
    name ∈ sortedCandidates start names ↔ name ∈ names ∧ Text.startsWith name start = true := by
  rw [sortedCandidates, List.mem_filter, List.mem_mergeSort]

/-- The companion is the first directory among the candidates in order. -/
theorem companionAmong_eq (disk : Disk) (directory : Path) (start : String) (names : List String) :
    companionAmong disk directory start names =
      firstDirectory disk ((sortedCandidates start names).map directory.child) :=
  rfl

namespace Layout

/-- The companions' place below a target directory. -/
def buildPath (layout : Layout) (target : Path) : Path :=
  target.join layout.build

/-- The path of a candidate below a target directory. -/
def companionPath (layout : Layout) (target : Path) (name : String) : Path :=
  (layout.buildPath target).child name

/-- The output file below a candidate. -/
def outputPath (layout : Layout) (target : Path) (name : String) : Path :=
  (layout.companionPath target name).join layout.file

/-- An entry of the build directory whose name starts as a companion's does. -/
def Candidate (layout : Layout) (disk : Disk) (target : Path) (name : String) : Prop :=
  (∃ names, disk.names (layout.buildPath target).toString = .ok names ∧ name ∈ names) ∧
    Text.startsWith name layout.companionStart = true

/-- A candidate that the disk is asked about: none before it, by name, is a directory. -/
def Asked (layout : Layout) (disk : Disk) (target : Path) (name : String) : Prop :=
  layout.Candidate disk target name ∧
    ∀ m < name, layout.Candidate disk target m → ¬ disk.HasDirectory (layout.companionPath target m)

/-- The companion: the first candidate, by name, that is a directory. -/
def Companion (layout : Layout) (disk : Disk) (target : Path) (name : String) : Prop :=
  layout.Asked disk target name ∧ disk.HasDirectory (layout.companionPath target name)

/-- A path that is asked about on the way to the output file has a name that is too long. -/
def MeetsOverlong (layout : Layout) (disk : Disk) (target : Path) : Prop :=
  disk.Overlong (layout.buildPath target) ∨
  (∃ name, layout.Asked disk target name ∧ disk.Overlong (layout.companionPath target name)) ∨
  ∃ name, layout.Companion disk target name ∧ disk.Overlong (layout.outputPath target name)

/-- The output file: the one below the companion. -/
def OutputFile (layout : Layout) (disk : Disk) (target source : Path) : Prop :=
  ∃ name, layout.Companion disk target name ∧ source = layout.outputPath target name ∧
    disk.HasFile source

variable {layout : Layout} {disk : Disk} {target : Path}

/-- There is one companion at most. -/
theorem Companion.unique {name other : String} (hname : layout.Companion disk target name)
    (hother : layout.Companion disk target other) : name = other := by
  apply String.le_antisymm <;> rw [← String.not_lt] <;> intro hlt
  · exact hname.1.2 other hlt hother.1.1 hother.2
  · exact hother.1.2 name hlt hname.1.1 hname.2

theorem OutputFile.hasFile {source : Path} (hsource : layout.OutputFile disk target source) :
    disk.HasFile source := by
  obtain ⟨name, -, -, hfile⟩ := hsource
  exact hfile

theorem OutputFile.unique {source other : Path} (hsource : layout.OutputFile disk target source)
    (hother : layout.OutputFile disk target other) : source = other := by
  obtain ⟨name, hname, rfl, -⟩ := hsource
  obtain ⟨name', hname', rfl, -⟩ := hother
  rw [hname.unique hname']

theorem mem_sortedCandidates_iff {names : List String}
    (hnames : disk.names (layout.buildPath target).toString = .ok names) (name : String) :
    name ∈ sortedCandidates layout.companionStart names ↔ layout.Candidate disk target name := by
  rw [mem_sortedCandidates, Candidate]
  simp [hnames]

/-- The names that are asked about are those up to the first directory among them. -/
theorem tried_iff_asked {names : List String}
    (hnames : disk.names (layout.buildPath target).toString = .ok names) (name : String) :
    Tried disk (layout.buildPath target) (sortedCandidates layout.companionStart names) name ↔
      layout.Asked disk target name := by
  simp only [Tried, Asked, mem_sortedCandidates_iff hnames, companionPath]
  refine and_congr_right fun _ => forall_congr' fun m => ?_
  exact ⟨fun h hlt hm => h hm hlt, fun h hm hlt => h hlt hm⟩

/-- Without the build directory there are no candidates. -/
theorem Candidate.hasDirectory {name : String} (hname : layout.Candidate disk target name) :
    disk.HasDirectory (layout.buildPath target) := by
  obtain ⟨⟨names, hnames, -⟩, -⟩ := hname
  exact Disk.exists_names_iff.mp ⟨names, hnames⟩

end Layout

theorem companionAmong_regular {disk : Disk} {directory : Path} {start : String}
    {names : List String} {fault : Fault}
    (hfault : companionAmong disk directory start names = .error fault) : fault.Regular := by
  rw [companionAmong_eq] at hfault
  obtain ⟨name, -, -, -, hanswer⟩ | ⟨-, hanswer⟩ | ⟨name, -, -, hanswer⟩ :=
    firstDirectory_cases disk directory (pairwise_sortedCandidates start names) <;>
    rw [hanswer] at hfault <;> cases hfault
  exact Refusal.regular_fault _ _

theorem names_regular {disk : Disk} {directory : String} {fault : Fault}
    (hfault : (disk.names directory).mapError (Refusal.fault directory) = .error fault) :
    fault.Regular := by
  obtain ⟨refusal, -, rfl⟩ := Answer.mapError_eq_error_iff.mp hfault
  exact refusal.regular_fault directory

theorem findCompanion_quiet (directory : Path) (start : String) :
    (findCompanion directory start).Quiet := by
  refine .attempt_bind (.look fun _ _ => names_regular) (fun names => ?_) (fun fault hfault => ?_)
  · exact .look fun _ _ => companionAmong_regular
  · cases fault with
    | system cause => exact .bind (.log ..) fun _ => .pure _
    | _ => exact .fail hfault

/-- Looking for the companion tells no more than what it skips. -/
theorem findCompanion_logs {p : Log.Record → Prop}
    (hdebug : ∀ text, p ⟨.debug, "ldproxy.discovery.target", text⟩) (directory : Path)
    (start : String) : (findCompanion directory start).Logs p := by
  refine .bind (.attempt (.look _)) fun names => ?_
  split
  · exact .look _
  · exact .bind (.log (hdebug _)) fun _ => .pure _
  · exact .fail _

/-- A directory that can be listed is searched among its names. -/
theorem answer_findCompanion {disk : Disk} {directory : Path} {names : List String}
    (hnames : disk.names directory.toString = .ok names) (start : String) :
    (findCompanion directory start disk).answer = companionAmong disk directory start names := by
  rw [findCompanion, (Step.Quiet.attempt (.look fun _ _ => names_regular)).answer_bind]
  simp only [Step.answer_attempt, Step.answer_look, hnames, Answer.mapError_ok, Answer.ok_bind]

namespace Layout

variable {layout : Layout} {disk : Disk} {target : Path}

/-- Among the entries of the build directory the companion is found, or there is none, or a
candidate's name is too long. -/
theorem answer_findCompanion_cases (hbuild : disk.HasDirectory (layout.buildPath target)) :
    (∃ name, layout.Companion disk target name ∧
      (∀ m, layout.Asked disk target m → ¬ disk.Overlong (layout.companionPath target m)) ∧
      (findCompanion (layout.buildPath target) layout.companionStart disk).answer =
        .ok (some (layout.companionPath target name))) ∨
    ((∀ name, layout.Asked disk target name →
        ¬ disk.HasDirectory (layout.companionPath target name) ∧
        ¬ disk.Overlong (layout.companionPath target name)) ∧
      (findCompanion (layout.buildPath target) layout.companionStart disk).answer = .ok none) ∨
    ∃ name, layout.Asked disk target name ∧ disk.Overlong (layout.companionPath target name) ∧
      (findCompanion (layout.buildPath target) layout.companionStart disk).answer =
        .error (Refusal.nameTooLong.fault (layout.companionPath target name).toString) := by
  obtain ⟨names, hnames⟩ := Disk.exists_names_iff.mpr hbuild
  have hmem (name : String) : name ∈ sortedCandidates layout.companionStart names ↔
      layout.Candidate disk target name := mem_sortedCandidates_iff hnames name
  have htried (name : String) : Tried disk (layout.buildPath target)
      (sortedCandidates layout.companionStart names) name ↔ layout.Asked disk target name :=
    tried_iff_asked hnames name
  rw [answer_findCompanion hnames, companionAmong_eq]
  obtain ⟨name, hname, hdirectory, hshort, hanswer⟩ | ⟨hall, hanswer⟩ |
    ⟨name, hname, hlong, hanswer⟩ := firstDirectory_cases disk (layout.buildPath target)
      (pairwise_sortedCandidates layout.companionStart names)
  · have hcompanion : layout.Companion disk target name := ⟨(htried name).mp hname, hdirectory⟩
    refine Or.inl ⟨name, hcompanion, fun m hm hlong => ?_, hanswer⟩
    -- A later candidate is not asked about, and the companion itself is a directory.
    by_cases hlt : m < name
    · exact hshort m ((hmem m).mpr hm.1) hlt hlong
    · by_cases heq : m = name
      · exact hdirectory.not_overlong (heq ▸ hlong)
      · have hgt : name < m := by
          rw [← String.not_le]
          intro hle
          exact heq (String.le_antisymm hle (String.not_lt.mp hlt))
        exact hm.2 name hgt hcompanion.1.1 hdirectory
  · exact Or.inr (Or.inl ⟨fun name hname => hall name ((hmem name).mpr hname.1), hanswer⟩)
  · exact Or.inr (Or.inr ⟨name, (htried name).mp hname, hlong, hanswer⟩)

theorem locate_quiet (layout : Layout) (logger : String) (target : Path) :
    (layout.locate logger target).Quiet := by
  refine .bind (.look fun _ _ => Disk.ask_regular) fun isBuild => ?_
  split
  · refine .bind (findCompanion_quiet _ _) fun companion => ?_
    cases companion with
    | none => exact .bind (.log ..) fun _ => .pure _
    | some companion =>
      refine .bind (.look fun _ _ => Disk.ask_regular) fun isFile => ?_
      split
      · exact .pure _
      · exact .bind (.log ..) fun _ => .pure _
  · exact .bind (.log ..) fun _ => .pure _

/-- The output file is looked for below the companion, if there is one, and only where there is a
build directory. -/
theorem answer_locate (layout : Layout) (logger : String) (target : Path) (disk : Disk) :
    (layout.locate logger target disk).answer = (do
      if ← disk.isDirectory (layout.buildPath target) then
        match ← (findCompanion (layout.buildPath target) layout.companionStart disk).answer with
        | some companion =>
          if ← disk.isFile (companion.join layout.file) then
            return some (companion.join layout.file)
          else return none
        | none => return none
      else return none) := by
  rw [locate, Step.answer_look_bind]
  refine congrArg _ (funext fun isBuild => ?_)
  cases isBuild with
  | false => rfl
  | true =>
    simp only [if_true]
    rw [(findCompanion_quiet _ _).answer_bind]
    refine congrArg _ (funext fun companion => ?_)
    cases companion with
    | none => rfl
    | some companion =>
      simp only [Step.answer_look_bind]
      refine congrArg _ (funext fun isFile => ?_)
      cases isFile <;> rfl

/-- The lookup finds the output file, or finds none, unless it meets a name that is too long. -/
theorem answer_locate_cases (layout : Layout) (logger : String) (target : Path) (disk : Disk) :
    (layout.MeetsOverlong disk target ∧ ∃ path : Path, (layout.locate logger target disk).answer =
      .error (Refusal.nameTooLong.fault path.toString)) ∨
    (¬ layout.MeetsOverlong disk target ∧ ∃ source, layout.OutputFile disk target source ∧
      (layout.locate logger target disk).answer = .ok (some source)) ∨
    (¬ layout.MeetsOverlong disk target ∧ (∀ source, ¬ layout.OutputFile disk target source) ∧
      (layout.locate logger target disk).answer = .ok none) := by
  rw [answer_locate]
  obtain ⟨hlong, hbuild⟩ | ⟨hdirectory, hbuild⟩ | ⟨hshort, hnone, hbuild⟩ :=
    disk.isDirectory_cases (layout.buildPath target)
  · exact Or.inl ⟨Or.inl hlong, layout.buildPath target, by rw [hbuild]; rfl⟩
  · rw [hbuild, Answer.ok_bind, if_pos rfl]
    obtain ⟨name, hname, hcandidates, hfound⟩ | ⟨hcandidates, hfound⟩ |
      ⟨name, hname, hlong, hfound⟩ := answer_findCompanion_cases hdirectory
    · have houtput : (layout.companionPath target name).join layout.file =
          layout.outputPath target name := rfl
      simp only [hfound, Answer.ok_bind, houtput]
      have hoverlong : layout.MeetsOverlong disk target ↔
          disk.Overlong (layout.outputPath target name) := by
        constructor
        · rintro (hlong | ⟨m, hm, hlong⟩ | ⟨m, hm, hlong⟩)
          · exact absurd hlong hdirectory.not_overlong
          · exact absurd hlong (hcandidates m hm)
          · rwa [hname.unique hm]
        · exact fun hlong => Or.inr (Or.inr ⟨name, hname, hlong⟩)
      obtain ⟨hlong, hfile⟩ | ⟨hfile, hanswer⟩ | ⟨hshort, hnone, hfile⟩ :=
        disk.isFile_cases (layout.outputPath target name)
      · exact Or.inl ⟨hoverlong.mpr hlong, _, by rw [hfile]; rfl⟩
      · exact Or.inr (Or.inl ⟨mt hoverlong.mp hfile.not_overlong, _, ⟨name, hname, rfl, hfile⟩,
          by rw [hanswer]; rfl⟩)
      · refine Or.inr (Or.inr ⟨mt hoverlong.mp hshort, ?_, by rw [hfile]; rfl⟩)
        rintro source ⟨m, hm, rfl, hsource⟩
        exact hnone (hname.unique hm ▸ hsource)
    · refine Or.inr (Or.inr ⟨?_, ?_, by rw [hfound]; rfl⟩)
      · rintro (hlong | ⟨m, hm, hlong⟩ | ⟨m, hm, hlong⟩)
        · exact hdirectory.not_overlong hlong
        · exact (hcandidates m hm).2 hlong
        · exact (hcandidates m hm.1).1 hm.2
      · rintro source ⟨m, hm, -⟩
        exact (hcandidates m hm.1).1 hm.2
    · exact Or.inl ⟨Or.inr (Or.inl ⟨name, hname, hlong⟩), _, by rw [hfound]; rfl⟩
  · refine Or.inr (Or.inr ⟨?_, ?_, by rw [hbuild]; rfl⟩)
    · rintro (hlong | ⟨m, hm, -⟩ | ⟨m, hm, -⟩)
      · exact hshort hlong
      · exact hnone hm.1.hasDirectory
      · exact hnone hm.1.1.hasDirectory
    · rintro source ⟨m, hm, -⟩
      exact hnone hm.1.1.hasDirectory

end Layout

end LinkRelay.BuildScript
