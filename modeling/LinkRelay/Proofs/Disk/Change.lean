import LinkRelay.Proofs.Disk.File
import LinkRelay.Proofs.Path

namespace LinkRelay.Disk

/-- Two disks on which every name leads to the same place, as the same directories are there. -/
structure SameWays (disk disk' : Disk) : Prop where
  here : disk'.here = disk.here
  directory : ∀ loc, disk'.node? loc = some .directory ↔ disk.node? loc = some .directory

theorem SameWays.refl (disk : Disk) : SameWays disk disk :=
  ⟨rfl, fun _ => Iff.rfl⟩

theorem SameWays.trans {first second third : Disk} (hfirst : SameWays first second)
    (hsecond : SameWays second third) : SameWays first third :=
  ⟨hsecond.here.trans hfirst.here, fun loc => (hsecond.directory loc).trans (hfirst.directory loc)⟩

/-- Names are looked up by way of directories and of nothing else. -/
theorem SameWays.walk_iff {disk disk' : Disk} (hways : SameWays disk disk') {name : String}
    {loc : Location} : disk'.walk name = .ok loc ↔ disk.walk name = .ok loc :=
  ⟨walk_of_directories hways.here.symm fun loc => (hways.directory loc).mp,
    walk_of_directories hways.here fun loc => (hways.directory loc).mpr⟩

/-- Whether a file can be written depends on the directories alone. -/
theorem SameWays.writable_iff {disk disk' : Disk} (hways : SameWays disk disk') {path : Path} :
    disk'.Writable path ↔ disk.Writable path := by
  simp only [Writable, hways.walk_iff, ne_eq, hways.directory]

/-- A file that takes the place of a file changes no way. -/
theorem sameWays_put {disk : Disk} {loc : Location} {node : Node}
    (hloc : disk.node? loc ≠ some .directory) (hnode : node ≠ .directory) :
    SameWays disk (disk.put loc node) := by
  refine ⟨here_put .., fun other => ?_⟩
  by_cases hother : other = loc
  · subst hother
    rw [node?_put_self (ne_root_of_not_directory hloc)]
    exact iff_of_false (by simpa using hnode) hloc
  · rw [node?_put_of_ne hother]

/-- A file that is gone changes no way. -/
theorem sameWays_erase {disk : Disk} {loc : Location}
    (hloc : disk.node? loc ≠ some .directory) : SameWays disk (disk.erase loc) := by
  refine ⟨here_erase .., fun other => ?_⟩
  by_cases hother : other = loc
  · subst hother
    rw [node?_erase_self (ne_root_of_not_directory hloc)]
    exact iff_of_false (by simp) hloc
  · rw [node?_erase_of_ne hother]

/-- A change to the file at a path: everything else stays as it is, and no directory comes or
goes. -/
structure ChangesOnly (path : Path) (disk disk' : Disk) : Prop extends
  SameBeside path disk disk', SameWays disk disk'

theorem ChangesOnly.refl (path : Path) (disk : Disk) : ChangesOnly path disk disk where
  toSameBeside := .refl path disk
  directory _ := Iff.rfl

/-- Writing a file changes what its path leads to and nothing else. -/
theorem changesOnly_of_write {disk disk' : Disk} {path : Path} {bytes : List UInt8}
    (hwrite : disk.write path.toString bytes = .ok disk') : ChangesOnly path disk disk' := by
  obtain ⟨loc, hwalk, ⟨-, rfl⟩ | ⟨-, hdirectory, executable, rfl⟩⟩ := write_cases hwrite
  · exact .refl path disk'
  · refine { sameWays_put hdirectory (by simp) with node? := fun other hother => ?_ }
    refine node?_put_of_ne ?_ _
    rintro rfl
    exact hother hwalk

/-- Clearing a file away changes what its path leads to and nothing else. -/
theorem changesOnly_cleared (disk : Disk) (path : Path) :
    ChangesOnly path disk (disk.cleared path) := by
  refine { sameBeside_cleared disk path with directory := ?_ }
  obtain ⟨loc, node, -, hnode, hdirectory, hcleared⟩ | ⟨-, hcleared⟩ := cleared_cases disk path
  · rw [hcleared]
    exact (sameWays_erase (by simpa [hnode] using hdirectory)).directory
  · rw [hcleared]
    exact fun _ => Iff.rfl

/-- Two paths that never lead to the same place, whatever disk they are looked up on. -/
def Apart (path other : Path) : Prop :=
  ∀ (disk : Disk) (loc : Location),
    disk.walk path.toString = .ok loc → disk.walk other.toString ≠ .ok loc

/-- A change at one path cannot be noticed at the other. -/
theorem ChangesOnly.stat_iff {path other : Path} {disk disk' : Disk}
    (hchange : ChangesOnly path disk disk') (hapart : Apart path other) (node : Node) :
    disk'.stat other.toString = .ok node ↔ disk.stat other.toString = .ok node := by
  rw [stat_eq_ok_iff, stat_eq_ok_iff]
  refine exists_congr fun loc => ?_
  rw [hchange.toSameWays.walk_iff]
  refine and_congr_right fun hwalk => ?_
  rw [hchange.node? loc fun hpath => hapart disk loc hpath hwalk]

/-- A component that leads down is the last one of the location that it leads to. -/
theorem getLast?_of_enter {disk : Disk} {loc loc' : Location} {part : String}
    (henter : disk.enter loc part = .ok loc') (hidle : ¬ Path.IsIdle part) (hup : part ≠ "..") :
    loc'.getLast? = some part := by
  simp only [Path.IsIdle, not_or] at hidle
  rw [enter] at henter
  split at henter
  · cases henter
  · split at henter
    · simp_all
    · split at henter
      · cases henter
      · cases henter
        simp
  · cases henter

/-- A path that is continued by a name leads to a place of that name. -/
theorem getLast?_of_walk_child {disk : Disk} {path : Path} {name : String} {loc : Location}
    (hslash : '/' ∉ name.toList) (hidle : ¬ Path.IsIdle name) (hup : name ≠ "..")
    (hwalk : disk.walk (path.child name).toString = .ok loc) : loc.getLast? = some name := by
  obtain ⟨front, hfront⟩ := Path.exists_split_child path hslash
  obtain ⟨-, -, -, hparts⟩ := walk_eq_ok_iff.mp hwalk
  rw [hfront, List.foldlM_append] at hparts
  obtain ⟨parent, -, hparts⟩ := Answer.bind_eq_ok_iff.mp hparts
  rw [List.foldlM_cons] at hparts
  obtain ⟨child, henter, hparts⟩ := Answer.bind_eq_ok_iff.mp hparts
  cases hparts
  exact getLast?_of_enter henter hidle hup

end LinkRelay.Disk
