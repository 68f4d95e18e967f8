import LinkRelay.Proofs.Disk.Naming

namespace LinkRelay

/-- A node without the bytes that it holds. -/
def Node.shape : Node → Node
  | .file _ executable => .file [] executable
  | node => node

theorem Node.shape_eq_directory_iff {node : Node} :
    node.shape = .directory ↔ node = .directory := by
  cases node <;> simp [shape]

namespace Disk

/-- Two disks on which the same kinds of nodes stand in the same places. Everything but the reading
of files is the same on both. -/
structure SameShape (disk disk' : Disk) : Prop where
  here : disk'.here = disk.here
  shape : ∀ loc, (disk'.node? loc).map Node.shape = (disk.node? loc).map Node.shape

/-- What is below a location is what stands at a longer one that begins with it. -/
theorem mem_below_iff {disk : Disk} {loc : Location} {rest : List String} {node : Node} :
    (rest, node) ∈ disk.below loc ↔ rest ≠ [] ∧ (loc ++ rest, node) ∈ disk.nodes := by
  simp only [below, List.mem_filterMap, Prod.exists]
  constructor
  · rintro ⟨l, node', hmem, hbelow⟩
    split at hbelow
    · rename_i hbeyond
      obtain ⟨hbegins, hne⟩ := Bool.and_eq_true_iff.mp hbeyond
      obtain ⟨rest', rfl⟩ := List.isPrefixOf_iff_prefix.mp hbegins
      rw [List.drop_left] at hbelow
      cases hbelow
      exact ⟨by simpa using hne, hmem⟩
    · cases hbelow
  · rintro ⟨hrest, hmem⟩
    exact ⟨loc ++ rest, node, hmem, by simp [hrest]⟩

theorem isSome_node?_child_iff {disk : Disk} {loc : Location} {name : String} :
    (disk.node? (loc ++ [name])).isSome = true ↔ ∃ node, ([name], node) ∈ disk.below loc := by
  simp [node?, List.lookup_isSome_iff, mem_below_iff]

/-- The names in a directory are those of its entries, of which a disk may have several for one
location. -/
theorem exists_names_mem_iff {disk : Disk} {path name : String} :
    (∃ names, disk.names path = .ok names ∧ name ∈ names) ↔
      ∃ loc, disk.walk path = .ok loc ∧ disk.node? loc = some .directory ∧
        (disk.node? (loc ++ [name])).isSome = true := by
  constructor
  · rintro ⟨names, hnames, hmem⟩
    obtain ⟨loc, hwalk, hlisted⟩ := Answer.bind_eq_ok_iff.mp hnames
    refine ⟨loc, hwalk, ?_⟩
    split at hlisted
    · cases hlisted
    · rename_i hdirectory
      cases hlisted
      obtain ⟨⟨rest, node⟩, hbelow, hname⟩ := List.mem_filterMap.mp hmem
      change (if rest.length = 1 then rest.head? else none) = some name at hname
      split at hname
      · rename_i hlength
        obtain ⟨part, rfl⟩ := List.length_eq_one_iff.mp hlength
        cases hname
        exact ⟨hdirectory, isSome_node?_child_iff.mpr ⟨node, hbelow⟩⟩
      · cases hname
    · cases hlisted
  · rintro ⟨loc, hwalk, hdirectory, hsome⟩
    obtain ⟨node, hbelow⟩ := isSome_node?_child_iff.mp hsome
    rw [names, hwalk, Answer.ok_bind, hdirectory]
    exact ⟨_, rfl, List.mem_filterMap.mpr ⟨_, hbelow, rfl⟩⟩

namespace SameShape

variable {disk disk' : Disk}

/-- Where nothing stands on one of two disks of one shape, nothing stands on the other one. -/
theorem node?_cases (hsame : SameShape disk disk') (loc : Location) :
    (disk.node? loc = none ∧ disk'.node? loc = none) ∨
    ∃ node node', disk.node? loc = some node ∧ disk'.node? loc = some node' ∧
      node'.shape = node.shape := by
  have hshape := hsame.shape loc
  cases hnode : disk.node? loc with
  | none =>
    rw [hnode] at hshape
    exact Or.inl ⟨rfl, Option.map_eq_none_iff.mp hshape⟩
  | some node =>
    rw [hnode] at hshape
    obtain ⟨node', hnode', hshape⟩ := Option.map_eq_some_iff.mp hshape
    exact Or.inr ⟨node, node', rfl, hnode', hshape⟩

theorem isSome_node? (hsame : SameShape disk disk') (loc : Location) :
    (disk'.node? loc).isSome = (disk.node? loc).isSome := by
  obtain ⟨hnode, hnode'⟩ | ⟨node, node', hnode, hnode', -⟩ := hsame.node?_cases loc
  · rw [hnode, hnode']
  · rw [hnode, hnode']
    rfl

theorem directory_iff (hsame : SameShape disk disk') (loc : Location) :
    disk'.node? loc = some .directory ↔ disk.node? loc = some .directory := by
  obtain ⟨hnode, hnode'⟩ | ⟨node, node', hnode, hnode', hshape⟩ := hsame.node?_cases loc
  · rw [hnode, hnode']
  · rw [hnode, hnode', Option.some_inj, Option.some_inj, ← Node.shape_eq_directory_iff, hshape,
      Node.shape_eq_directory_iff]

theorem enter_eq (hsame : SameShape disk disk') : disk'.enter = disk.enter := by
  funext loc part
  obtain ⟨hnode, hnode'⟩ | ⟨node, node', hnode, hnode', hshape⟩ := hsame.node?_cases loc
  · rw [enter, enter, hnode, hnode']
  · rw [enter, enter, hnode, hnode']
    cases node <;> cases node' <;> first | rfl | cases hshape

/-- Names lead to the same places on disks of one shape, as they are looked up without reading a
file. -/
theorem walk_eq (hsame : SameShape disk disk') : disk'.walk = disk.walk := by
  funext name
  rw [walk, walk, hsame.enter_eq, hsame.here]

/-- A name is refused as before, or leads to a node of the same kind. -/
theorem stat_cases (hsame : SameShape disk disk') (name : String) :
    (∃ refusal, disk.stat name = .error refusal ∧ disk'.stat name = .error refusal) ∨
    ∃ node node', disk.stat name = .ok node ∧ disk'.stat name = .ok node' ∧
      node'.shape = node.shape := by
  rw [stat, stat, hsame.walk_eq]
  cases disk.walk name with
  | error refusal => exact Or.inl ⟨refusal, rfl, rfl⟩
  | ok loc =>
    simp only [Answer.ok_bind]
    obtain ⟨hnode, hnode'⟩ | ⟨node, node', hnode, hnode', hshape⟩ := hsame.node?_cases loc
    · rw [hnode, hnode']
      exact Or.inl ⟨.missing, rfl, rfl⟩
    · rw [hnode, hnode']
      exact Or.inr ⟨node, node', rfl, rfl, hshape⟩

theorem exists?_eq (hsame : SameShape disk disk') : disk'.exists? = disk.exists? := by
  funext name
  obtain ⟨refusal, hstat, hstat'⟩ | ⟨node, node', hstat, hstat', -⟩ := hsame.stat_cases name
  · rw [exists?, exists?, hstat, hstat']
  · rw [exists?, exists?, hstat, hstat']
    rfl

/-- Whether a program can be started shows in its node and not in its bytes. -/
theorem isExecutable_eq (hsame : SameShape disk disk') :
    disk'.isExecutable = disk.isExecutable := by
  funext name
  obtain ⟨refusal, hstat, hstat'⟩ | ⟨node, node', hstat, hstat', hshape⟩ := hsame.stat_cases name
  · rw [isExecutable, isExecutable, hstat, hstat']
  · rw [isExecutable, isExecutable, hstat, hstat']
    cases node <;> cases node' <;> cases hshape <;> rfl

theorem overlong_iff (hsame : SameShape disk disk') (path : Path) :
    disk'.Overlong path ↔ disk.Overlong path := by
  rw [Overlong, Overlong]
  obtain ⟨refusal, hstat, hstat'⟩ | ⟨node, node', hstat, hstat', -⟩ :=
    hsame.stat_cases path.toString
  · rw [hstat, hstat']
  · rw [hstat, hstat']
    simp

theorem hasDirectory_iff (hsame : SameShape disk disk') (path : Path) :
    disk'.HasDirectory path ↔ disk.HasDirectory path := by
  rw [HasDirectory, HasDirectory, stat_eq_ok_iff, stat_eq_ok_iff, hsame.walk_eq]
  exact exists_congr fun loc => and_congr_right fun _ => hsame.directory_iff loc

theorem exists_names_mem (hsame : SameShape disk disk') (path name : String) :
    (∃ names, disk'.names path = .ok names ∧ name ∈ names) ↔
      ∃ names, disk.names path = .ok names ∧ name ∈ names := by
  rw [exists_names_mem_iff, exists_names_mem_iff, hsame.walk_eq]
  refine exists_congr fun loc => and_congr_right fun _ => ?_
  rw [hsame.directory_iff, hsame.isSome_node?]

end SameShape

/-- Two disks that agree on everything but the bytes of the one file that a path leads to. -/
structure SameButBytes (path : Path) (disk disk' : Disk) : Prop extends
    SameBeside path disk disk' where
  refilled : ∃ loc bytes bytes' executable, disk.walk path.toString = .ok loc ∧
    disk.node? loc = some (.file bytes executable) ∧
    disk'.node? loc = some (.file bytes' executable)

namespace SameButBytes

variable {path : Path} {disk disk' : Disk}

/-- Other bytes in one file leave the shape of the disk as it was. -/
theorem sameShape (hsame : SameButBytes path disk disk') : SameShape disk disk' where
  here := hsame.here
  shape loc := by
    obtain ⟨file, bytes, bytes', executable, hwalk, hnode, hnode'⟩ := hsame.refilled
    by_cases hloc : loc = file
    · rw [hloc, hnode, hnode']
      rfl
    · rw [hsame.node? loc fun hother => hloc (Except.ok.inj (hother.symm.trans hwalk))]

/-- Every other file is read as before. -/
theorem readText_eq (hsame : SameButBytes path disk disk') {other : Path}
    (hother : disk.walk other.toString ≠ disk.walk path.toString) :
    disk'.readText other = disk.readText other := by
  have hstat : disk'.stat other.toString = disk.stat other.toString := by
    rw [stat, stat, hsame.sameShape.walk_eq]
    cases hwalk : disk.walk other.toString with
    | error refusal => rfl
    | ok loc =>
      have hbeside : disk.walk path.toString ≠ .ok loc := by
        rw [← hwalk]
        exact hother.symm
      rw [Answer.ok_bind, Answer.ok_bind, hsame.node? loc hbeside]
  simp only [readText, read, hstat]

/-- A file is filled anew. -/
theorem put {loc : Location} {bytes : List UInt8} {executable : Bool} (hroot : loc ≠ [])
    (hwalk : (disk.put loc (.file bytes executable)).walk path.toString = .ok loc)
    (bytes' : List UInt8) :
    SameButBytes path (disk.put loc (.file bytes executable))
      (disk.put loc (.file bytes' executable)) where
  here := rfl
  node? other hother := by
    have hne : other ≠ loc := by
      rintro rfl
      exact hother hwalk
    rw [node?_put_of_ne hne, node?_put_of_ne hne]
  refilled := ⟨loc, bytes, bytes', executable, hwalk, node?_put_self hroot _,
    node?_put_self hroot _⟩

end SameButBytes

end Disk

end LinkRelay
