import LinkRelay.Proofs.BuildScript.Location
import LinkRelay.Proofs.Disk.Entry
import Mathlib.Order.Bounds.Basic

namespace LinkRelay.BuildScript

variable {disk disk' : Disk} {directory : Path} {start : String}

/-- The names of the companions: a directory stands under each of them where a path leads. -/
def companions (disk : Disk) (directory : Path) (start : String) : Set String :=
  {name | Text.startsWith name start = true ∧ ∃ loc, disk.walk directory.toString = .ok loc ∧
    disk.node? loc = some .directory ∧ disk.node? (loc ++ [name]) = some .directory}

/-- A directory in which the paths of the candidates are not too long to be asked about. -/
structure Askable (disk : Disk) (directory : Path) (start : String) : Prop where
  nameable : disk.Nameable
  short : ∀ names, disk.names directory.toString = .ok names → ∀ name ∈ names,
    Text.startsWith name start = true → ¬ disk.Overlong (directory.child name)

/-- Only a directory has companions in it. -/
theorem hasDirectory_of_companion {name : String} (hname : name ∈ companions disk directory start) :
    disk.HasDirectory directory := by
  obtain ⟨-, loc, hwalk, hloc, -⟩ := hname
  exact Disk.stat_eq_ok_iff.mpr ⟨loc, hwalk, hloc⟩

/-- The companions are the candidates whose paths lead to directories. -/
theorem Askable.mem_companions_iff (hask : Askable disk directory start) {names : List String}
    (hnames : disk.names directory.toString = .ok names) (name : String) :
    name ∈ companions disk directory start ↔
      name ∈ sortedCandidates start names ∧ disk.HasDirectory (directory.child name) := by
  have hlisted : name ∈ names ↔ ∃ loc, disk.walk directory.toString = .ok loc ∧
      disk.node? loc = some .directory ∧ (disk.node? (loc ++ [name])).isSome = true := by
    rw [← Disk.exists_names_mem_iff]
    simp [hnames]
  rw [mem_sortedCandidates]
  constructor
  · rintro ⟨hstart, loc, hwalk, hloc, hnode⟩
    have hsome : (disk.node? (loc ++ [name])).isSome = true := by rw [hnode]; rfl
    have hmem := hlisted.mpr ⟨loc, hwalk, hloc, hsome⟩
    exact ⟨⟨hmem, hstart⟩, (Disk.stat_child (hask.nameable.entryName hsome)
      (hask.short names hnames name hmem hstart) hwalk hloc _).mpr hnode⟩
  · rintro ⟨⟨hmem, hstart⟩, hdirectory⟩
    obtain ⟨loc, hwalk, hloc, hsome⟩ := hlisted.mp hmem
    exact ⟨hstart, loc, hwalk, hloc, (Disk.stat_child (hask.nameable.entryName hsome)
      (hask.short names hnames name hmem hstart) hwalk hloc _).mp hdirectory⟩

/-- Among the entries of a directory the least companion is found, or there is none. -/
theorem Askable.companionAmong_cases (hask : Askable disk directory start) {names : List String}
    (hnames : disk.names directory.toString = .ok names) :
    (∃ name, IsLeast (companions disk directory start) name ∧
      companionAmong disk directory start names = .ok (some (directory.child name))) ∨
    (companions disk directory start = ∅ ∧
      companionAmong disk directory start names = .ok none) := by
  have hmem := hask.mem_companions_iff hnames
  rw [companionAmong_eq]
  obtain ⟨name, hname, hdirectory, -, hanswer⟩ | ⟨hall, hanswer⟩ | ⟨name, hname, hlong, -⟩ :=
    firstDirectory_cases disk directory (pairwise_sortedCandidates start names)
  · refine Or.inl ⟨name, ⟨(hmem name).mpr ⟨hname.1, hdirectory⟩, fun m hm => ?_⟩, hanswer⟩
    obtain ⟨hcandidate, hother⟩ := (hmem m).mp hm
    rw [← String.not_lt]
    exact fun hlt => hname.2 m hcandidate hlt hother
  · refine Or.inr ⟨Set.eq_empty_of_forall_notMem fun m hm => ?_, hanswer⟩
    obtain ⟨hcandidate, hother⟩ := (hmem m).mp hm
    exact (hall m hcandidate).1 hother
  · obtain ⟨hlisted, hstart⟩ := mem_sortedCandidates.mp hname.1
    exact absurd hlong (hask.short names hnames name hlisted hstart)

/-- Sorting undoes any reordering of the entries. -/
theorem companionAmong_perm {names names' : List String} (hperm : names'.Perm names) :
    companionAmong disk directory start names' = companionAmong disk directory start names := by
  have hcandidates : sortedCandidates start names' = sortedCandidates start names := by
    refine List.Perm.eq_of_pairwise (fun a b _ _ => String.le_antisymm)
      (pairwise_sortedCandidates start names') (pairwise_sortedCandidates start names) ?_
    exact (((List.mergeSort_perm ..).trans hperm).trans (List.mergeSort_perm ..).symm).filter _
  rw [companionAmong_eq, companionAmong_eq, hcandidates]

/-- A directory that cannot be listed has no companion, unless it has no name at all. -/
theorem answer_findCompanion_of_refused {refusal : Refusal}
    (hnames : disk.names directory.toString = .error refusal) (start : String) :
    (findCompanion directory start disk).answer =
      if refusal = .holdsZero then .error (refusal.fault directory.toString) else .ok none := by
  rw [findCompanion, (Step.Quiet.attempt (.look fun _ _ => names_regular)).answer_bind]
  simp only [Step.answer_attempt, Step.answer_look, hnames, Answer.mapError_error, Answer.ok_bind]
  cases refusal <;> rfl

/-- A search finds the least companion, or there is none, unless the directory has a name that
nothing can have. -/
theorem Askable.findCompanion_cases (hask : Askable disk directory start) :
    (Char.ofNat 0 ∉ directory.toString.toList ∧
      ∃ name, IsLeast (companions disk directory start) name ∧
        (findCompanion directory start disk).answer = .ok (some (directory.child name))) ∨
    (Char.ofNat 0 ∉ directory.toString.toList ∧ companions disk directory start = ∅ ∧
      (findCompanion directory start disk).answer = .ok none) ∨
    (Char.ofNat 0 ∈ directory.toString.toList ∧ companions disk directory start = ∅ ∧
      (findCompanion directory start disk).answer = .error (.badValue "embedded null byte")) := by
  have hzero : disk.names directory.toString = .error .holdsZero ↔
      Char.ofNat 0 ∈ directory.toString.toList := Disk.names_eq_holdsZero_iff
  cases hnames : disk.names directory.toString with
  | ok names =>
    have hfree : Char.ofNat 0 ∉ directory.toString.toList := by simp [← hzero, hnames]
    rw [answer_findCompanion hnames]
    obtain hfound | hnone := hask.companionAmong_cases hnames
    · exact Or.inl ⟨hfree, hfound⟩
    · exact Or.inr (Or.inl ⟨hfree, hnone⟩)
  | error refusal =>
    have hnone : companions disk directory start = ∅ :=
      Set.eq_empty_of_forall_notMem fun name hname => by
        obtain ⟨names, hlisted⟩ := Disk.exists_names_iff.mpr (hasDirectory_of_companion hname)
        cases hnames.symm.trans hlisted
    rw [hnames, Except.error.injEq] at hzero
    rw [answer_findCompanion_of_refused hnames, ← hzero]
    by_cases hrefusal : refusal = .holdsZero
    · subst hrefusal
      exact Or.inr (Or.inr ⟨rfl, hnone, rfl⟩)
    · exact Or.inr (Or.inl ⟨hrefusal, hnone, if_neg hrefusal⟩)

/-- The least companion is found. -/
theorem Askable.answer_of_isLeast (hask : Askable disk directory start) {name : String}
    (hleast : IsLeast (companions disk directory start) name) :
    (findCompanion directory start disk).answer = .ok (some (directory.child name)) := by
  obtain ⟨-, other, hother, hanswer⟩ | ⟨-, hnone, -⟩ | ⟨-, hnone, -⟩ := hask.findCompanion_cases
  · rw [hanswer, String.le_antisymm (hleast.2 hother.1) (hother.2 hleast.1)]
  · exact absurd hleast.1 (by simp [hnone])
  · exact absurd hleast.1 (by simp [hnone])

theorem Askable.answer_of_empty (hask : Askable disk directory start)
    (hfree : Char.ofNat 0 ∉ directory.toString.toList)
    (hnone : companions disk directory start = ∅) :
    (findCompanion directory start disk).answer = .ok none := by
  obtain ⟨-, name, hleast, -⟩ | ⟨-, -, hanswer⟩ | ⟨hzero, -⟩ := hask.findCompanion_cases
  · exact absurd hleast.1 (by simp [hnone])
  · exact hanswer
  · exact absurd hzero hfree

/-- What is found is the least companion, and nothing else. -/
theorem Askable.answer_eq_some_iff (hask : Askable disk directory start) {path : Path} :
    (findCompanion directory start disk).answer = .ok (some path) ↔
      ∃ name, IsLeast (companions disk directory start) name ∧ path = directory.child name := by
  constructor
  · intro hanswer
    obtain ⟨-, name, hleast, hother⟩ | ⟨-, -, hother⟩ | ⟨-, -, hother⟩ := hask.findCompanion_cases
    · cases hanswer.symm.trans hother
      exact ⟨name, hleast, rfl⟩
    · cases hanswer.symm.trans hother
    · cases hanswer.symm.trans hother
  · rintro ⟨name, hleast, rfl⟩
    exact hask.answer_of_isLeast hleast

/-- Two disks with a directory in one place and the same companions in it, as far as a search looks
that ends at the least one. Files, entries of other names, and what comes after the least companion
may differ. -/
def SameSearched (directory : Path) (start : String) (disk disk' : Disk) : Prop :=
  ∃ loc, disk.walk directory.toString = .ok loc ∧ disk'.walk directory.toString = .ok loc ∧
    disk.node? loc = some .directory ∧ disk'.node? loc = some .directory ∧
    ∀ name, Text.startsWith name start = true →
      (∀ least, IsLeast (companions disk directory start) least → name ≤ least) →
      (disk'.node? (loc ++ [name]) = some .directory ↔
        disk.node? (loc ++ [name]) = some .directory)

/-- Up to the least companion, two disks have the same ones. -/
theorem SameSearched.mem_companions_iff (hsame : SameSearched directory start disk disk')
    {name : String}
    (hname : ∀ least, IsLeast (companions disk directory start) least → name ≤ least) :
    name ∈ companions disk' directory start ↔ name ∈ companions disk directory start := by
  obtain ⟨loc, hwalk, hwalk', hloc, hloc', hentries⟩ := hsame
  simp only [companions, Set.mem_ofPred_eq, hwalk, hwalk', Except.ok.injEq, exists_eq_left', hloc,
    hloc', true_and]
  exact and_congr_right fun hstart => hentries name hstart hname

/-- What is after the least companion does not make it less. -/
theorem SameSearched.isLeast (hsame : SameSearched directory start disk disk') {name : String}
    (hleast : IsLeast (companions disk directory start) name) :
    IsLeast (companions disk' directory start) name := by
  have hbelow {m : String} (hm : m ≤ name) : ∀ least,
      IsLeast (companions disk directory start) least → m ≤ least :=
    fun least hother => String.le_trans hm (hleast.2 hother.1)
  refine ⟨(hsame.mem_companions_iff (hbelow (String.le_refl name))).mpr hleast.1, fun m hm => ?_⟩
  obtain hle | hle := String.le_total name m
  · exact hle
  · exact hleast.2 ((hsame.mem_companions_iff (hbelow hle)).mp hm)

theorem SameSearched.eq_empty (hsame : SameSearched directory start disk disk')
    (hnone : companions disk directory start = ∅) : companions disk' directory start = ∅ := by
  refine Set.eq_empty_of_forall_notMem fun name hname => ?_
  rw [hsame.mem_companions_iff (by simp [hnone, IsLeast]), hnone] at hname
  exact hname

/-- What a search does not look at does not change its answer. -/
theorem SameSearched.answer_eq (hsame : SameSearched directory start disk disk')
    (hask : Askable disk directory start) (hask' : Askable disk' directory start) :
    (findCompanion directory start disk').answer = (findCompanion directory start disk).answer := by
  obtain ⟨-, name, hleast, hanswer⟩ | ⟨hfree, hnone, hanswer⟩ | ⟨hzero, -⟩ :=
    hask.findCompanion_cases
  · rw [hanswer, hask'.answer_of_isLeast (hsame.isLeast hleast)]
  · rw [hanswer, hask'.answer_of_empty hfree (hsame.eq_empty hnone)]
  · obtain ⟨loc, hwalk, -⟩ := hsame
    exact absurd hzero (Disk.walk_eq_ok_iff.mp hwalk).1

/-- A target directory below which no path that the lookup asks about is too long. -/
structure Layout.Askable (layout : Layout) (disk : Disk) (target : Path) : Prop extends
    BuildScript.Askable disk (layout.buildPath target) layout.companionStart where
  build : ¬ disk.Overlong (layout.buildPath target)
  output : ∀ name ∈ companions disk (layout.buildPath target) layout.companionStart,
    ¬ disk.Overlong (layout.outputPath target name)

/-- The lookup answers with the file below the companion that the search finds, and with nothing if
no companion is found or it has no such file. -/
theorem Layout.Askable.locate_cases {layout : Layout} {target : Path}
    (hask : layout.Askable disk target) (logger : String) :
    ∃ found, (layout.locate logger target disk).answer = .ok found ∧ ∀ source,
      found = some source ↔ ∃ companion,
        (findCompanion (layout.buildPath target) layout.companionStart disk).answer =
          .ok (some companion) ∧
        source = companion.join layout.file ∧ disk.HasFile source := by
  rw [answer_locate]
  obtain ⟨hlong, -⟩ | ⟨hdirectory, hbuild⟩ | ⟨-, hnone, hbuild⟩ :=
    disk.isDirectory_cases (layout.buildPath target)
  · exact absurd hlong hask.build
  · rw [hbuild, Answer.ok_bind, if_pos rfl]
    obtain ⟨-, name, hleast, hfound⟩ | ⟨-, -, hfound⟩ | ⟨hzero, -⟩ := hask.findCompanion_cases
    · rw [hfound]
      simp only [Answer.ok_bind]
      obtain ⟨hlong, -⟩ | ⟨hfile, hanswer⟩ | ⟨-, hmissing, hanswer⟩ :=
        disk.isFile_cases (layout.outputPath target name)
      · exact absurd hlong (hask.output name hleast.1)
      · refine ⟨some (layout.outputPath target name), ?_, fun source => ?_⟩
        · change (disk.isFile (layout.outputPath target name) >>= _) = _
          rw [hanswer]
          rfl
        · constructor
          · rintro ⟨⟩
            exact ⟨_, rfl, rfl, hfile⟩
          · rintro ⟨companion, hcompanion, rfl, -⟩
            cases hcompanion
            rfl
      · refine ⟨none, ?_, fun source => iff_of_false (by simp) ?_⟩
        · change (disk.isFile (layout.outputPath target name) >>= _) = _
          rw [hanswer]
          rfl
        · rintro ⟨companion, hcompanion, rfl, hfile⟩
          cases hcompanion
          exact hmissing hfile
    · exact ⟨none, by rw [hfound]; rfl, by simp [hfound]⟩
    · rw [← Disk.stat_eq_holdsZero_iff, hdirectory] at hzero
      cases hzero
  · refine ⟨none, by rw [hbuild]; rfl, fun source => iff_of_false (by simp) ?_⟩
    rintro ⟨companion, hcompanion, -⟩
    obtain ⟨name, hleast, -⟩ := hask.answer_eq_some_iff.mp hcompanion
    exact hnone (hasDirectory_of_companion hleast.1)

/-- A search finds exactly the least companion. It finds nothing exactly if there is none, be it
that the directory cannot be listed, and fails exactly if the directory has a name that nothing can
have. The order in which the entries are enumerated does not matter, nor does anything that is no
companion or comes after the least one; and the lookup of the output file ends at the companion that
the search finds, whatever the later ones hold. -/
theorem companion_isLeast (hask : Askable disk directory start) :
    (∀ path, (findCompanion directory start disk).answer = .ok (some path) ↔
      ∃ name, IsLeast (companions disk directory start) name ∧ path = directory.child name) ∧
    ((findCompanion directory start disk).answer = .ok none ↔
      Char.ofNat 0 ∉ directory.toString.toList ∧
        (¬ disk.HasDirectory directory ∨ companions disk directory start = ∅)) ∧
    (∀ fault, (findCompanion directory start disk).answer = .error fault ↔
      Char.ofNat 0 ∈ directory.toString.toList ∧ fault = .badValue "embedded null byte") ∧
    (∀ names names', disk.names directory.toString = .ok names → names'.Perm names →
      companionAmong disk directory start names' =
        (findCompanion directory start disk).answer) ∧
    (∀ disk', Askable disk' directory start → SameSearched directory start disk disk' →
      (findCompanion directory start disk').answer =
        (findCompanion directory start disk).answer) ∧
    ∀ (layout : Layout) (target : Path) (logger : String), layout.buildPath target = directory →
      layout.companionStart = start → layout.Askable disk target →
      ∃ found, (layout.locate logger target disk).answer = .ok found ∧ ∀ source,
        found = some source ↔ ∃ companion,
          (findCompanion directory start disk).answer = .ok (some companion) ∧
          source = companion.join layout.file ∧ disk.HasFile source := by
  refine ⟨fun path => hask.answer_eq_some_iff, ?_, ?_, ?_, ?_, ?_⟩
  · constructor
    · intro hanswer
      obtain ⟨-, name, -, hother⟩ | ⟨hfree, hnone, -⟩ | ⟨-, -, hother⟩ := hask.findCompanion_cases
      · cases hanswer.symm.trans hother
      · exact ⟨hfree, Or.inr hnone⟩
      · cases hanswer.symm.trans hother
    · rintro ⟨hfree, hmissing | hnone⟩
      · refine hask.answer_of_empty hfree (Set.eq_empty_of_forall_notMem fun name hname => ?_)
        exact hmissing (hasDirectory_of_companion hname)
      · exact hask.answer_of_empty hfree hnone
  · intro fault
    obtain ⟨hfree, name, -, hanswer⟩ | ⟨hfree, -, hanswer⟩ | ⟨hzero, -, hanswer⟩ :=
      hask.findCompanion_cases
    · simp [hanswer, hfree]
    · simp [hanswer, hfree]
    · simp [hanswer, hzero, eq_comm]
  · intro names names' hnames hperm
    rw [answer_findCompanion hnames, companionAmong_perm hperm]
  · exact fun disk' hask' hsame => hsame.answer_eq hask hask'
  · rintro layout target logger rfl rfl hlayout
    exact hlayout.locate_cases logger

/-- A directory with two companions, a file whose name starts as theirs do, and a stranger. -/
def crowded : Disk where
  nodes := [(["b", "esp-idf-sys-b"], .directory), (["b", "esp-idf-sys-0"], .file [] false),
    (["b", "anyhow-1"], .directory), (["b", "esp-idf-sys-a"], .directory), (["b"], .directory)]
  here := []

/-- The same directory with the first companion alone. -/
def cleaned : Disk where
  nodes := [(["b", "esp-idf-sys-a"], .directory), (["b"], .directory)]
  here := []

/-- A directory whose names are all short can be asked about. -/
private theorem askable_of_listed {names : List String}
    (hnameable : disk.Nameable) (hnames : disk.names directory.toString = .ok names)
    (hshort : ∀ name ∈ names, disk.stat (directory.child name).toString ≠ .error .nameTooLong) :
    Askable disk directory start := by
  refine ⟨hnameable, fun others hothers name hname _ => ?_⟩
  cases hnames.symm.trans hothers
  exact hshort name hname

private theorem isLeast_crowded (hask : Askable crowded ⟨.relative, ["b"]⟩ "esp-idf-sys-") :
    IsLeast (companions crowded ⟨.relative, ["b"]⟩ "esp-idf-sys-") "esp-idf-sys-a" := by
  refine ⟨⟨by decide, ["b"], by decide, by decide, by decide⟩, fun name hname => ?_⟩
  have hentries : ∀ name ∈ ["esp-idf-sys-b", "esp-idf-sys-0", "anyhow-1", "esp-idf-sys-a"],
      Text.startsWith name "esp-idf-sys-" = true →
      crowded.stat (Path.child ⟨.relative, ["b"]⟩ name).toString = .ok .directory →
      "esp-idf-sys-a" ≤ name := by
    decide
  obtain ⟨hcandidate, hdirectory⟩ :=
    (hask.mem_companions_iff (show crowded.names _ = .ok _ by rfl) name).mp hname
  obtain ⟨hlisted, hstart⟩ := mem_sortedCandidates.mp hcandidate
  exact hentries name hlisted hstart hdirectory

private theorem sameSearched_crowded
    (hask : Askable crowded ⟨.relative, ["b"]⟩ "esp-idf-sys-") :
    SameSearched ⟨.relative, ["b"]⟩ "esp-idf-sys-" crowded cleaned := by
  have hleast := isLeast_crowded hask
  refine ⟨["b"], by decide, by decide, by decide, by decide, fun name hstart hname => ?_⟩
  constructor
  · intro hnode
    have hsome : (cleaned.node? (["b"] ++ [name])).isSome = true := by rw [hnode]; rfl
    obtain ⟨names, hnames, hmem⟩ :=
      Disk.exists_names_mem_iff.mpr ⟨["b"], show cleaned.walk "b" = _ by decide, by decide, hsome⟩
    cases hnames.symm.trans (show cleaned.names "b" = .ok ["esp-idf-sys-a"] by decide)
    rw [List.mem_singleton.mp hmem]
    decide
  · intro hnode
    have hle := hleast.2 ⟨hstart, ["b"], by decide, by decide, hnode⟩
    rw [String.le_antisymm (hname _ hleast) hle]
    decide

/-- Of two companions the lesser is found, past a file and a stranger, and again once these are
gone. -/
theorem companion_isLeast_crowded :
    Askable crowded ⟨.relative, ["b"]⟩ "esp-idf-sys-" ∧
    (findCompanion ⟨.relative, ["b"]⟩ "esp-idf-sys-" crowded).answer =
      .ok (some ⟨.relative, ["b", "esp-idf-sys-a"]⟩) ∧
    (findCompanion ⟨.relative, ["b"]⟩ "esp-idf-sys-" cleaned).answer =
      .ok (some ⟨.relative, ["b", "esp-idf-sys-a"]⟩) := by
  have hcrowded : Askable crowded ⟨.relative, ["b"]⟩ "esp-idf-sys-" :=
    askable_of_listed (by decide) (show crowded.names _ = .ok _ by rfl) (by decide)
  have hcleaned : Askable cleaned ⟨.relative, ["b"]⟩ "esp-idf-sys-" :=
    askable_of_listed (by decide) (show cleaned.names _ = .ok _ by rfl) (by decide)
  obtain ⟨hfound, -, -, -, hsame, -⟩ := companion_isLeast hcrowded
  have hanswer := (hfound _).mpr ⟨_, isLeast_crowded hcrowded, rfl⟩
  exact ⟨hcrowded, hanswer, (hsame cleaned hcleaned (sameSearched_crowded hcrowded)).trans hanswer⟩

/-- A directory that is missing as nothing can have its name makes the search fail. -/
theorem findCompanion_of_zero :
    ¬ Disk.HasDirectory ⟨[], []⟩ ⟨.relative, ["b\x00"]⟩ ∧
    (findCompanion ⟨.relative, ["b\x00"]⟩ "esp-idf-sys-" ⟨[], []⟩).answer =
      .error (.badValue "embedded null byte") := by
  rw [Disk.HasDirectory]
  decide

end LinkRelay.BuildScript
