import LinkRelay.Proofs.Disk.Contents

namespace LinkRelay.Disk

/-- A name that one component of a path says, and that leads down. -/
structure EntryName (name : String) : Prop where
  slash : '/' ∉ name.toList
  zero : Char.ofNat 0 ∉ name.toList
  idle : ¬ Path.IsIdle name
  up : name ≠ ".."

instance (name : String) : Decidable (EntryName name) :=
  decidable_of_iff (('/' ∉ name.toList ∧ Char.ofNat 0 ∉ name.toList) ∧
      (¬ (name = "" ∨ name = ".") ∧ name ≠ ".."))
    ⟨fun h => ⟨h.1.1, h.1.2, h.2.1, h.2.2⟩, fun h => ⟨⟨h.slash, h.zero⟩, h.idle, h.up⟩⟩

theorem EntryName.ne_empty {name : String} (hname : EntryName name) : name ≠ "" :=
  fun hempty => hname.idle (Or.inl hempty)

/-- A disk on which everything stands under names that paths can say. -/
def Nameable (disk : Disk) : Prop :=
  ∀ entry ∈ disk.nodes, ∀ name ∈ entry.1, EntryName name

instance (disk : Disk) : Decidable disk.Nameable :=
  inferInstanceAs (Decidable (∀ entry ∈ disk.nodes, ∀ name ∈ entry.1, EntryName name))

/-- What stands in a directory of such a disk stands there under a name that a path can say. -/
theorem Nameable.entryName {disk : Disk} (hdisk : disk.Nameable) {loc : Location} {name : String}
    (hsome : (disk.node? (loc ++ [name])).isSome = true) : EntryName name := by
  obtain ⟨node, hbelow⟩ := isSome_node?_child_iff.mp hsome
  obtain ⟨-, hentry⟩ := mem_below_iff.mp hbelow
  exact hdisk _ hentry name (by simp)

/-- A name that no check refuses is walked component by component. -/
theorem walk_eq_foldlM (disk : Disk) {name : String} (hzero : Char.ofNat 0 ∉ name.toList)
    (hshort : name.utf8ByteSize < nameLimit) (hempty : name ≠ "") :
    disk.walk name = (Text.split '/' name).foldlM disk.enter
      (if Text.startsWith name "/" then [] else disk.here) := by
  rw [walk, if_neg (by simpa using hzero), if_neg (Nat.not_le.mpr hshort), if_neg hempty]

/-- Components that say nothing, at the end, ask for no more than that a directory is reached. -/
theorem foldlM_enter_append_idle_iff {disk : Disk} {start loc : Location}
    {front idle : List String} (hidle : ∀ part ∈ idle, Path.IsIdle part) :
    (front ++ idle).foldlM disk.enter start = .ok loc ↔
      front.foldlM disk.enter start = .ok loc ∧
        (idle = [] ∨ disk.node? loc = some .directory) := by
  have hstays (next : Location) : idle.foldlM disk.enter next = .ok loc ↔
      next = loc ∧ (idle = [] ∨ disk.node? loc = some .directory) := by
    cases idle with
    | nil => simp [Pure.pure, Except.pure]
    | cons part rest =>
      have hpart := hidle part List.mem_cons_self
      constructor
      · intro hparts
        have hnext : disk.node? next = some .directory := by
          rw [List.foldlM_cons] at hparts
          obtain ⟨_, henter, -⟩ := Answer.bind_eq_ok_iff.mp hparts
          exact directory_of_enter henter
        have hback := foldlM_enter_idle hnext hidle []
        rw [List.append_nil, hparts] at hback
        cases hback
        exact ⟨rfl, Or.inr hnext⟩
      · rintro ⟨rfl, hnone | hnext⟩
        · cases hnone
        · have hback := foldlM_enter_idle hnext hidle []
          rw [List.append_nil] at hback
          exact hback
  rw [List.foldlM_append, Answer.bind_eq_ok_iff]
  simp only [hstays]
  exact ⟨fun ⟨next, hfront, hnext, hloc⟩ => ⟨hnext ▸ hfront, hloc⟩,
    fun ⟨hfront, hloc⟩ => ⟨loc, hfront, rfl, hloc⟩⟩

/-- A name that ends in a slash leads to a directory, if anywhere. -/
theorem directory_of_stat_slash {disk : Disk} {text : String} {node : Node}
    (hstat : disk.stat (text ++ "/") = .ok node) : node = .directory := by
  obtain ⟨loc, hwalk, hnode⟩ := stat_eq_ok_iff.mp hstat
  obtain ⟨-, -, -, hparts⟩ := walk_eq_ok_iff.mp hwalk
  rw [Text.split_append_slash, foldlM_enter_append_idle_iff (by simp [Path.IsIdle])] at hparts
  obtain ⟨-, hempty | hdirectory⟩ := hparts
  · cases hempty
  · exact Option.some.inj (hnode.symm.trans hdirectory)

/-- The name of an entry leads to the entry, unless it is too long for any disk. -/
theorem enter_entryName {disk : Disk} {loc : Location} {name : String} (hname : EntryName name)
    (hloc : disk.node? loc = some .directory) :
    disk.enter loc name = .ok (loc ++ [name]) ∨ disk.enter loc name = .error .nameTooLong := by
  have hempty : name ≠ "" := hname.ne_empty
  have hdot : name ≠ "." := fun hdot => hname.idle (Or.inr hdot)
  rw [enter, hloc]
  by_cases hlong : componentLimit < name.utf8ByteSize
  · exact Or.inr (by simp [hempty, hdot, hname.up, hlong])
  · exact Or.inl (by simp [hempty, hdot, hname.up, hlong])

/-- A name that continues the name of a directory by one component. -/
structure Continues (directory part name : String) : Prop where
  nonempty : directory ≠ ""
  parts : ∃ front idle, Text.split '/' directory = front ++ idle ∧
    (∀ p ∈ idle, Path.IsIdle p) ∧ Text.split '/' name = front ++ [part]
  start : Text.startsWith name "/" = Text.startsWith directory "/"
  zero : Char.ofNat 0 ∈ name.toList ↔
    Char.ofNat 0 ∈ directory.toList ∨ Char.ofNat 0 ∈ part.toList
  size : directory.utf8ByteSize ≤ name.utf8ByteSize

/-- A name that is not too long leads on from where the directory's leads, and only from there. -/
theorem Continues.walk_iff {disk : Disk} {directory part name : String} {loc : Location}
    (hcontinues : Continues directory part name) (hpart : EntryName part)
    (hshort : disk.walk name ≠ .error .nameTooLong) :
    disk.walk name = .ok loc ↔ ∃ parent, disk.walk directory = .ok parent ∧
      disk.node? parent = some .directory ∧ loc = parent ++ [part] := by
  obtain ⟨front, idle, hdirectory, hidle, hname⟩ := hcontinues.parts
  have henter {parent : Location} (hparent : disk.node? parent = some .directory)
      (hlong : disk.enter parent part ≠ .error .nameTooLong) :
      disk.enter parent part = .ok (parent ++ [part]) :=
    (enter_entryName hpart hparent).resolve_right hlong
  constructor
  · intro hwalk
    obtain ⟨hzero, hsize, -, hparts⟩ := walk_eq_ok_iff.mp hwalk
    rw [hname, hcontinues.start, List.foldlM_append] at hparts
    obtain ⟨parent, hfront, hparts⟩ := Answer.bind_eq_ok_iff.mp hparts
    rw [List.foldlM_cons] at hparts
    obtain ⟨last, hlast, hloc⟩ := Answer.bind_eq_ok_iff.mp hparts
    have hparent := directory_of_enter hlast
    rw [henter hparent (by simp [hlast])] at hlast
    cases hlast
    cases hloc
    refine ⟨parent, walk_eq_ok_iff.mpr ⟨fun hmem => hzero (hcontinues.zero.mpr (Or.inl hmem)),
      Nat.lt_of_le_of_lt hcontinues.size hsize, hcontinues.nonempty, ?_⟩, hparent, rfl⟩
    rw [hdirectory, foldlM_enter_append_idle_iff hidle]
    exact ⟨hfront, Or.inr hparent⟩
  · rintro ⟨parent, hwalk, hparent, rfl⟩
    obtain ⟨hzero, -, -, hparts⟩ := walk_eq_ok_iff.mp hwalk
    have hzero' : Char.ofNat 0 ∉ name.toList := by
      rw [hcontinues.zero]
      exact not_or.mpr ⟨hzero, hpart.zero⟩
    have hempty : name ≠ "" := by
      rintro rfl
      have hlast : [""] = front ++ [part] := hname
      exact hpart.ne_empty (by simpa [eq_comm] using congrArg List.getLast? hlast)
    have hsize : name.utf8ByteSize < nameLimit := by
      rw [← Nat.not_le]
      intro hlong
      exact hshort (by rw [walk, if_neg (by simpa using hzero'), if_pos hlong])
    rw [hdirectory, foldlM_enter_append_idle_iff hidle] at hparts
    have hfold : disk.walk name = disk.enter parent part := by
      rw [walk_eq_foldlM disk hzero' hsize hempty, hname, hcontinues.start, List.foldlM_append,
        hparts.1, Answer.ok_bind]
      simp
    rw [hfold] at hshort ⊢
    exact henter hparent hshort

/-- What has a name that is not too long is what stands under its last component in the
directory. -/
theorem Continues.stat_iff {disk : Disk} {directory part name : String}
    (hcontinues : Continues directory part name) (hpart : EntryName part)
    (hshort : disk.stat name ≠ .error .nameTooLong) (node : Node) :
    disk.stat name = .ok node ↔ ∃ parent, disk.walk directory = .ok parent ∧
      disk.node? parent = some .directory ∧ disk.node? (parent ++ [part]) = some node := by
  have hwalk : disk.walk name ≠ .error .nameTooLong := by
    intro hlong
    exact hshort (by rw [stat, hlong]; rfl)
  simp only [stat_eq_ok_iff, hcontinues.walk_iff hpart hwalk]
  constructor
  · rintro ⟨_, ⟨parent, hparent, hdirectory, rfl⟩, hnode⟩
    exact ⟨parent, hparent, hdirectory, hnode⟩
  · rintro ⟨parent, hparent, hdirectory, hnode⟩
    exact ⟨_, ⟨parent, hparent, hdirectory, rfl⟩, hnode⟩

/-- The dot leads to the current directory, if this is one. -/
theorem walk_dot_iff {disk : Disk} {loc : Location} :
    disk.walk "." = .ok loc ↔ loc = disk.here ∧ disk.node? loc = some .directory := by
  rw [walk_eq_foldlM disk (by decide) (by decide) (by decide),
    show Text.split '/' "." = [] ++ ["."] by rfl,
    foldlM_enter_append_idle_iff (by simp [Path.IsIdle]), if_neg (by decide)]
  constructor
  · rintro ⟨hhere, hnone | hdirectory⟩
    · cases hnone
    · exact ⟨(Except.ok.inj hhere).symm, hdirectory⟩
  · rintro ⟨rfl, hdirectory⟩
    exact ⟨rfl, Or.inr hdirectory⟩

/-- A name alone continues the dot. -/
theorem continues_dot {name : String} (hname : EntryName name) : Continues "." name name where
  nonempty := by decide
  parts := ⟨[], ["."], rfl, by simp [Path.IsIdle], Text.split_of_not_mem hname.slash⟩
  start := by
    rw [Bool.eq_iff_iff]
    exact iff_of_false (Text.not_startsWith_slash hname.slash) (by decide)
  zero := by simp
  size := by
    have hsize : name.utf8ByteSize ≠ 0 := by simpa using hname.ne_empty
    exact Nat.one_le_iff_ne_zero.mpr hsize

/-- A name behind a directory and a slash leads to the entry of the directory. -/
theorem continues_slash {directory name : String} (hdirectory : directory ≠ "")
    (hname : EntryName name) : Continues directory name (directory ++ "/" ++ name) where
  nonempty := hdirectory
  parts := ⟨Text.split '/' directory, [], by simp, by simp, Text.split_append_name _ hname.slash⟩
  start := by
    rw [String.append_assoc, Text.startsWith_slash_append hdirectory]
  zero := by simp
  size := by
    rw [String.append_assoc, String.utf8ByteSize_append]
    exact Nat.le_add_right ..

/-- A name that ends in a slash needs no further one. -/
theorem continues_after_slash (text : String) {name : String} (hname : EntryName name) :
    Continues (text ++ "/") name (text ++ "/" ++ name) where
  nonempty := by simp
  parts := ⟨Text.split '/' text, [""], Text.split_append_slash text, by simp [Path.IsIdle],
    Text.split_append_name _ hname.slash⟩
  start := Text.startsWith_slash_append (by simp) name
  zero := by simp
  size := by
    rw [@String.utf8ByteSize_append (text ++ "/")]
    exact Nat.le_add_right ..

/-- The path of an entry continues the path of the directory. -/
theorem continues_child {directory : Path} (hdirectory : directory.toString ≠ "") {name : String}
    (hname : EntryName name) :
    Continues directory.toString name (directory.child name).toString := by
  by_cases hparts : directory.parts = []
  · obtain ⟨root, parts⟩ := directory
    subst hparts
    cases root with
    | relative => exact continues_dot hname
    | slash => exact continues_after_slash "" hname
    | doubleSlash => exact continues_after_slash "/" hname
  · rw [Path.toString_child_of_ne_nil hparts]
    exact continues_slash hdirectory hname

/-- What has a path that can be asked about is what stands under its name in the directory. -/
theorem stat_child {disk : Disk} {directory : Path} {loc : Location} {name : String}
    (hname : EntryName name) (hshort : ¬ disk.Overlong (directory.child name))
    (hwalk : disk.walk directory.toString = .ok loc) (hloc : disk.node? loc = some .directory)
    (node : Node) :
    disk.stat (directory.child name).toString = .ok node ↔
      disk.node? (loc ++ [name]) = some node := by
  obtain ⟨-, -, hempty, -⟩ := walk_eq_ok_iff.mp hwalk
  rw [(continues_child hempty hname).stat_iff hname hshort]
  simp [hwalk, hloc]

end LinkRelay.Disk
