import LinkRelay.Proofs.Disk

namespace LinkRelay.Disk

@[simp]
theorem here_put (disk : Disk) (loc : Location) (node : Node) :
    (disk.put loc node).here = disk.here :=
  rfl

@[simp]
theorem here_erase (disk : Disk) (loc : Location) : (disk.erase loc).here = disk.here :=
  rfl

theorem lookup_filter_ne {loc other : Location} (hne : other ≠ loc)
    (nodes : List (Location × Node)) :
    List.lookup other (nodes.filter fun e => e.1 ≠ loc) = List.lookup other nodes := by
  induction nodes with
  | nil => rfl
  | cons e nodes ih =>
    by_cases hloc : e.1 = loc
    · have hother : (other == e.1) = false := by simpa [hloc] using hne
      rw [List.filter_cons_of_neg (by simpa using hloc), ih, List.lookup_cons, hother]
    · rw [List.filter_cons_of_pos (by simpa using hloc), List.lookup_cons, List.lookup_cons, ih]

theorem node?_put_self {disk : Disk} {loc : Location} (hroot : loc ≠ []) (node : Node) :
    (disk.put loc node).node? loc = some node := by
  simp [node?, put, hroot]

/-- A node that is put at one location leaves every other location alone. -/
theorem node?_put_of_ne {disk : Disk} {loc other : Location} (hne : other ≠ loc) (node : Node) :
    (disk.put loc node).node? other = disk.node? other := by
  have hother : (other == loc) = false := by simpa using hne
  simp only [node?, put, List.lookup_cons, hother, lookup_filter_ne hne]

theorem node?_erase_self {disk : Disk} {loc : Location} (hroot : loc ≠ []) :
    (disk.erase loc).node? loc = none := by
  rw [node?, if_neg hroot, List.lookup_eq_none_iff]
  intro e he
  have hne : e.1 ≠ loc := by simpa using (List.mem_filter.mp he).2
  simpa using Ne.symm hne

theorem node?_erase_of_ne {disk : Disk} {loc other : Location} (hne : other ≠ loc) :
    (disk.erase loc).node? other = disk.node? other := by
  simp only [node?, erase, lookup_filter_ne hne]

theorem node?_root (disk : Disk) : disk.node? [] = some .directory :=
  rfl

theorem ne_root_of_not_directory {disk : Disk} {loc : Location}
    (hloc : disk.node? loc ≠ some .directory) : loc ≠ [] := by
  rintro rfl
  exact hloc (node?_root disk)

/-- Putting a file where nothing stood, and erasing it, leaves the disk as it was. -/
theorem erase_put_of_missing {disk : Disk} {loc : Location} (hmissing : disk.node? loc = none)
    (node : Node) : (disk.put loc node).erase loc = disk := by
  have hroot : loc ≠ [] := ne_root_of_not_directory (by rw [hmissing]; simp)
  have hfree : ∀ e ∈ disk.nodes, e.1 ≠ loc := by
    rw [node?, if_neg hroot, List.lookup_eq_none_iff] at hmissing
    intro e he
    simpa using Ne.symm (bne_iff_ne.mp (hmissing e he))
  have hfilter : disk.nodes.filter (fun e => e.1 ≠ loc) = disk.nodes :=
    List.filter_eq_self.mpr fun e he => by simpa using hfree e he
  simp only [erase, put, hfilter, List.filter_cons, ne_eq, not_true_eq_false, decide_false,
    Bool.false_eq_true, if_false]

/-- A component leads where it led as long as no directory is lost. -/
theorem enter_of_directories {disk disk' : Disk}
    (hkept : ∀ loc, disk.node? loc = some .directory → disk'.node? loc = some .directory)
    {loc loc' : Location} {part : String} (henter : disk.enter loc part = .ok loc') :
    disk'.enter loc part = .ok loc' := by
  rw [enter] at henter ⊢
  cases hnode : disk.node? loc with
  | none => rw [hnode] at henter; cases henter
  | some node =>
    cases node with
    | directory => rw [hnode] at henter; rw [hkept loc hnode]; exact henter
    | file | sink => rw [hnode] at henter; cases henter

/-- A name leads somewhere if no check refuses it and each of its components leads on. -/
theorem walk_eq_ok_iff {disk : Disk} {name : String} {loc : Location} :
    disk.walk name = .ok loc ↔ Char.ofNat 0 ∉ name.toList ∧ name.utf8ByteSize < nameLimit ∧
      name ≠ "" ∧ (Text.split '/' name).foldlM disk.enter
        (if Text.startsWith name "/" then [] else disk.here) = .ok loc := by
  rw [walk]
  by_cases hzero : Char.ofNat 0 ∈ name.toList
  · simp [hzero]
  · rw [if_neg (by simpa using hzero)]
    by_cases hlong : nameLimit ≤ name.utf8ByteSize
    · simp [hlong, Nat.not_lt.mpr hlong]
    · rw [if_neg hlong]
      by_cases hempty : name = ""
      · simp [hempty]
      · simp [hzero, Nat.not_le.mp hlong, hempty]

/-- A name leads where it led as long as no directory goes away. -/
theorem walk_of_directories {disk disk' : Disk} (hhere : disk'.here = disk.here)
    (hkept : ∀ loc, disk.node? loc = some .directory → disk'.node? loc = some .directory)
    {name : String} {loc : Location} (hwalk : disk.walk name = .ok loc) :
    disk'.walk name = .ok loc := by
  -- Every component but the last is a directory that was entered, and stayed one.
  have hfold (parts : List String) (start : Location)
      (hparts : parts.foldlM disk.enter start = .ok loc) :
      parts.foldlM disk'.enter start = .ok loc := by
    induction parts generalizing start with
    | nil => exact hparts
    | cons part parts ih =>
      rw [List.foldlM_cons] at hparts ⊢
      obtain ⟨next, henter, hparts⟩ := Answer.bind_eq_ok_iff.mp hparts
      rw [enter_of_directories hkept henter]
      exact ih next hparts
  rw [walk_eq_ok_iff] at hwalk ⊢
  obtain ⟨hzero, hlong, hempty, hparts⟩ := hwalk
  rw [hhere]
  exact ⟨hzero, hlong, hempty, hfold _ _ hparts⟩

/-- A file that is put somewhere stands in nobody's way, as it takes no directory's place. -/
theorem walk_put {disk : Disk} {loc target : Location} {name : String}
    (hloc : disk.node? loc ≠ some .directory) (hwalk : disk.walk name = .ok target) (node : Node) :
    (disk.put loc node).walk name = .ok target := by
  refine walk_of_directories (here_put ..) (fun other hother => ?_) hwalk
  have hne : other ≠ loc := by
    rintro rfl
    exact hloc hother
  rw [node?_put_of_ne hne, hother]

/-- A file that is taken away was in nobody's way. -/
theorem walk_erase {disk : Disk} {loc target : Location} {name : String}
    (hloc : disk.node? loc ≠ some .directory) (hwalk : disk.walk name = .ok target) :
    (disk.erase loc).walk name = .ok target := by
  refine walk_of_directories (here_erase ..) (fun other hother => ?_) hwalk
  have hne : other ≠ loc := by
    rintro rfl
    exact hloc hother
  rw [node?_erase_of_ne hne, hother]

/-- A path at which a file can be written: it leads somewhere, and to no directory. -/
def Writable (disk : Disk) (path : Path) : Prop :=
  ∃ loc, disk.walk path.toString = .ok loc ∧ disk.node? loc ≠ some .directory

/-- No file can be written under a name that holds the character zero. -/
theorem not_writable_of_zero {disk : Disk} {path : Path}
    (hzero : Char.ofNat 0 ∈ path.toString.toList) : ¬ disk.Writable path := by
  rintro ⟨loc, hwalk, -⟩
  rw [walk_eq_holdsZero_iff.mpr hzero] at hwalk
  cases hwalk

/-- A device can be written to. -/
theorem writable_of_sink {disk : Disk} {path : Path}
    (hdevice : disk.stat path.toString = .ok .sink) : disk.Writable path := by
  obtain ⟨loc, hwalk, hnode⟩ := stat_eq_ok_iff.mp hdevice
  exact ⟨loc, hwalk, by simp [hnode]⟩

/-- A file can be written anew. -/
theorem HasFile.writable {disk : Disk} {path : Path} (hfile : disk.HasFile path) :
    disk.Writable path := by
  obtain ⟨bytes, executable, hstat⟩ := hfile
  obtain ⟨loc, hwalk, hnode⟩ := stat_eq_ok_iff.mp hstat
  exact ⟨loc, hwalk, by simp [hnode]⟩

/-- What is written is a file at the one location, unless a device stands there. -/
theorem write_cases {disk disk' : Disk} {path : Path} {bytes : List UInt8}
    (hwrite : disk.write path.toString bytes = .ok disk') :
    ∃ loc, disk.walk path.toString = .ok loc ∧
      ((disk.node? loc = some .sink ∧ disk' = disk) ∨
        disk.node? loc ≠ some .sink ∧ disk.node? loc ≠ some .directory ∧
          ∃ executable, disk' = disk.put loc (.file bytes executable)) := by
  obtain ⟨loc, hwalk, hwrite⟩ := Answer.bind_eq_ok_iff.mp hwrite
  refine ⟨loc, hwalk, ?_⟩
  split at hwrite
  · rename_i hnode
    exact Or.inr ⟨by simp [hnode], by simp [hnode], false, (Except.ok.inj hwrite).symm⟩
  · rename_i old executable hnode
    exact Or.inr ⟨by simp [hnode], by simp [hnode], executable, (Except.ok.inj hwrite).symm⟩
  · rename_i hnode
    exact Or.inl ⟨hnode, (Except.ok.inj hwrite).symm⟩
  · cases hwrite

/-- A file can be written if its path leads to a place where no directory stands, whatever its
bytes. -/
theorem exists_write_iff {disk : Disk} {path : Path} {bytes : List UInt8} :
    (∃ disk', disk.write path.toString bytes = .ok disk') ↔ disk.Writable path := by
  constructor
  · rintro ⟨disk', hwrite⟩
    obtain ⟨loc, hwalk, ⟨hsink, -⟩ | ⟨-, hdirectory, -⟩⟩ := write_cases hwrite
    · exact ⟨loc, hwalk, by rw [hsink]; simp⟩
    · exact ⟨loc, hwalk, hdirectory⟩
  · rintro ⟨loc, hwalk, hdirectory⟩
    rw [write, hwalk, Answer.ok_bind]
    split
    · exact ⟨_, rfl⟩
    · exact ⟨_, rfl⟩
    · exact ⟨_, rfl⟩
    · rename_i hnode
      exact absurd hnode hdirectory

theorem not_writable_of_refused {disk : Disk} {path : Path} {bytes : List UInt8}
    {refusal : Refusal} (hwrite : disk.write path.toString bytes = .error refusal) :
    ¬ disk.Writable path := by
  intro hwritable
  obtain ⟨disk', hok⟩ := exists_write_iff.mpr hwritable
  cases hok.symm.trans hwrite

/-- The path of a file that was just written leads to it. -/
theorem stat_of_write {disk disk' : Disk} {path : Path} {bytes : List UInt8}
    (hwrite : disk.write path.toString bytes = .ok disk')
    (hdevice : disk.stat path.toString ≠ .ok .sink) :
    ∃ executable, disk'.stat path.toString = .ok (.file bytes executable) := by
  obtain ⟨loc, hwalk, ⟨hsink, -⟩ | ⟨-, hdirectory, executable, rfl⟩⟩ := write_cases hwrite
  · exact absurd (stat_eq_ok_iff.mpr ⟨loc, hwalk, hsink⟩) hdevice
  · exact ⟨executable, stat_eq_ok_iff.mpr ⟨loc, walk_put hdirectory hwalk _,
      node?_put_self (ne_root_of_not_directory hdirectory) _⟩⟩

/-- A device takes what is written to it, and the disk stays as it is. -/
theorem eq_of_write_sink {disk disk' : Disk} {path : Path} {bytes : List UInt8}
    (hwrite : disk.write path.toString bytes = .ok disk')
    (hdevice : disk.stat path.toString = .ok .sink) : disk' = disk := by
  obtain ⟨loc, hwalk, ⟨-, hsame⟩ | ⟨hnot, -⟩⟩ := write_cases hwrite
  · exact hsame
  · obtain ⟨loc', hwalk', hnode⟩ := stat_eq_ok_iff.mp hdevice
    cases hwalk.symm.trans hwalk'
    exact absurd hnode hnot

/-- A disk after an attempt to remove a file from it, be the attempt refused or not. -/
def cleared (disk : Disk) (path : Path) : Disk :=
  match disk.remove path.toString with
  | .ok disk' => disk'
  | .error _ => disk

/-- What is no directory can be removed. -/
theorem remove_of_walk {disk : Disk} {path : Path} {loc : Location} {node : Node}
    (hwalk : disk.walk path.toString = .ok loc) (hnode : disk.node? loc = some node)
    (hdirectory : node ≠ .directory) : disk.remove path.toString = .ok (disk.erase loc) := by
  rw [remove, stat_eq_ok_iff.mpr ⟨loc, hwalk, hnode⟩, Answer.ok_bind]
  cases node with
  | directory => exact absurd rfl hdirectory
  | file | sink => simp only [hwalk]; rfl

/-- The attempt takes away what stands there, if this is no directory, and else nothing. -/
theorem cleared_cases (disk : Disk) (path : Path) :
    (∃ loc node, disk.walk path.toString = .ok loc ∧ disk.node? loc = some node ∧
      node ≠ .directory ∧ disk.cleared path = disk.erase loc) ∨
    ((∀ node, disk.stat path.toString = .ok node → node = .directory) ∧
      disk.cleared path = disk) := by
  cases hstat : disk.stat path.toString with
  | error refusal =>
    refine Or.inr ⟨fun node hnode => (by cases hnode), ?_⟩
    rw [cleared, remove, hstat]
    rfl
  | ok node =>
    obtain ⟨loc, hwalk, hnode⟩ := stat_eq_ok_iff.mp hstat
    by_cases hdirectory : node = .directory
    · subst hdirectory
      refine Or.inr ⟨fun node hnode => (Except.ok.inj hnode).symm, ?_⟩
      rw [cleared, remove, hstat]
      rfl
    · refine Or.inl ⟨loc, node, hwalk, hnode, hdirectory, ?_⟩
      rw [cleared, remove_of_walk hwalk hnode hdirectory]

/-- Two disks that agree on everything but what a path leads to on the first one. -/
structure SameBeside (path : Path) (disk disk' : Disk) : Prop where
  here : disk'.here = disk.here
  node? : ∀ loc, disk.walk path.toString ≠ .ok loc → disk'.node? loc = disk.node? loc

theorem SameBeside.refl (path : Path) (disk : Disk) : SameBeside path disk disk :=
  ⟨rfl, fun _ _ => rfl⟩

/-- Clearing a file away leaves everything beside it alone. -/
theorem sameBeside_cleared (disk : Disk) (path : Path) :
    SameBeside path disk (disk.cleared path) := by
  obtain ⟨loc, node, hwalk, -, -, hcleared⟩ | ⟨-, hcleared⟩ := cleared_cases disk path
  · rw [hcleared]
    refine ⟨here_erase .., fun other hother => node?_erase_of_ne ?_⟩
    rintro rfl
    exact hother hwalk
  · rw [hcleared]
    exact .refl path disk

/-- After the attempt no file stands there. -/
theorem not_hasFile_cleared (disk : Disk) (path : Path) : ¬ (disk.cleared path).HasFile path := by
  rintro ⟨bytes, executable, hstat⟩
  obtain ⟨loc, node, hwalk, hnode, hdirectory, hcleared⟩ | ⟨hnone, hcleared⟩ :=
    cleared_cases disk path
  · have hloc : disk.node? loc ≠ some .directory := by simpa [hnode] using hdirectory
    rw [hcleared] at hstat
    obtain ⟨loc', hwalk', hnode'⟩ := stat_eq_ok_iff.mp hstat
    rw [walk_erase hloc hwalk] at hwalk'
    cases hwalk'
    rw [node?_erase_self (ne_root_of_not_directory hloc)] at hnode'
    cases hnode'
  · rw [hcleared] at hstat
    cases hnone _ hstat

/-- A directory is not cleared away. -/
theorem cleared_of_hasDirectory {disk : Disk} {path : Path}
    (hdirectory : disk.HasDirectory path) : disk.cleared path = disk := by
  obtain ⟨loc, node, hwalk, hnode, hnot, -⟩ | ⟨-, hcleared⟩ := cleared_cases disk path
  · have hstat := stat_eq_ok_iff.mpr ⟨loc, hwalk, hnode⟩
    rw [hdirectory] at hstat
    exact absurd (Except.ok.inj hstat).symm hnot
  · exact hcleared

/-- Writing a file and removing it touches nothing else, and nothing at all where nothing stood. -/
theorem cleared_of_write {disk disk' : Disk} {path : Path} {bytes : List UInt8}
    (hwrite : disk.write path.toString bytes = .ok disk') :
    SameBeside path disk (disk'.cleared path) ∧
      ((∀ node, disk.stat path.toString ≠ .ok node) → disk'.cleared path = disk) := by
  obtain ⟨loc, hwalk, ⟨hsink, rfl⟩ | ⟨-, hdirectory, executable, rfl⟩⟩ := write_cases hwrite
  · exact ⟨sameBeside_cleared disk' path,
      fun hmissing => absurd (stat_eq_ok_iff.mpr ⟨loc, hwalk, hsink⟩) (hmissing _)⟩
  · have hcleared : (disk.put loc (.file bytes executable)).cleared path =
        (disk.put loc (.file bytes executable)).erase loc := by
      rw [cleared, remove_of_walk (walk_put hdirectory hwalk _)
        (node?_put_self (ne_root_of_not_directory hdirectory) _) (by simp)]
    rw [hcleared]
    refine ⟨⟨rfl, fun other hother => ?_⟩, fun hmissing => erase_put_of_missing ?_ _⟩
    · have hne : other ≠ loc := by
        rintro rfl
        exact hother hwalk
      rw [node?_erase_of_ne hne, node?_put_of_ne hne]
    · exact Option.eq_none_iff_forall_ne_some.mpr fun node hnode =>
        hmissing node (stat_eq_ok_iff.mpr ⟨loc, hwalk, hnode⟩)

end LinkRelay.Disk
