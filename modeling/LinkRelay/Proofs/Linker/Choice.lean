import LinkRelay.Proofs.Disk.Entry
import LinkRelay.Proofs.Linker
import Mathlib.Data.List.Find

namespace LinkRelay.Linker

/-- A directory of the search path holds a program: its name there leads to a file that may be
executed. -/
def Holds (disk : Disk) (directory name : String) : Prop :=
  ∃ bytes, disk.stat (inDirectory directory name) = .ok (.file bytes true)

/-- A program that one of the directories of a search path holds. -/
def OnPath (disk : Disk) (path name : String) : Prop :=
  path ≠ "" ∧ ∃ directory ∈ Text.split ':' path, Holds disk directory name

/-- A file that may be executed and stands under a program's name in a directory of a search path,
the current one for an empty entry. -/
def StandsOnPath (disk : Disk) (path name : String) : Prop :=
  path ≠ "" ∧ ∃ directory ∈ Text.split ':' path, ∃ loc bytes,
    disk.node? loc = some .directory ∧
    (if directory = "" then loc = disk.here else disk.walk directory = .ok loc) ∧
    disk.node? (loc ++ [name]) = some (.file bytes true)

/-- A variable without a value; the empty text is none. -/
def Unset (env : Environment) (name : String) : Prop :=
  ∀ value, env.get? name = some value → value = ""

/-- The first of some variables that has a value, and the value. -/
def FirstSet (env : Environment) (names : List String) (name value : String) : Prop :=
  ∃ before after, names = before ++ name :: after ∧ (∀ other ∈ before, Unset env other) ∧
    env.get? name = some value ∧ value ≠ ""

/-- The first of some programs that is on a search path. -/
def FirstOnPath (disk : Disk) (path : String) (candidates : List String) (name : String) : Prop :=
  ∃ before after, candidates = before ++ name :: after ∧
    (∀ other ∈ before, ¬ OnPath disk path other) ∧ OnPath disk path name

/-- The linker that a request, the variables and the search path decide for, in this order. -/
inductive Chooses (env : Environment) (path : String) (sources : Sources) (disk : Disk) :
    Option String → String → Prop where
  | asked {linker : String} (hlinker : linker ≠ "") :
    Chooses env path sources disk (some linker) linker
  | named {asked : Option String} {name value : String} (hasked : asked.getD "" = "")
    (hnamed : FirstSet env sources.variableNames name value) :
    Chooses env path sources disk asked value
  | found {asked : Option String} {name : String} (hasked : asked.getD "" = "")
    (hunset : ∀ other ∈ sources.variableNames, Unset env other)
    (hfound : FirstOnPath disk path sources.candidates name) :
    Chooses env path sources disk asked name

/-- In a directory with a name, a program's name stands after one slash, the directory's own if it
ends in one. -/
theorem inDirectory_cases {directory : String} (hdirectory : directory ≠ "") (name : String) :
    (∃ text, directory = text ++ "/" ∧ inDirectory directory name = text ++ "/" ++ name) ∨
      inDirectory directory name = directory ++ "/" ++ name := by
  rw [inDirectory, if_neg hdirectory]
  split
  · rename_i hlast
    obtain ⟨chars, hchars⟩ := List.getLast?_eq_some_iff.mp hlast
    have htext : directory = String.ofList chars ++ "/" := String.toList_inj.mp (by simp [hchars])
    exact Or.inl ⟨String.ofList chars, htext, by rw [htext]⟩
  · exact Or.inr rfl

/-- The name of a program continues the directory's, the dot standing for the empty one. -/
theorem continues_inDirectory {name : String} (hname : Disk.EntryName name) (directory : String) :
    Disk.Continues (if directory = "" then "." else directory) name
      (inDirectory directory name) := by
  by_cases hempty : directory = ""
  · rw [inDirectory, if_pos hempty, if_pos hempty]
    exact Disk.continues_dot hname
  · rw [if_neg hempty]
    obtain ⟨text, rfl, hprogram⟩ | hprogram := inDirectory_cases hempty name
    · rw [hprogram]
      exact Disk.continues_after_slash text hname
    · rw [hprogram]
      exact Disk.continues_slash hempty hname

/-- A directory of the search path, or the current one for an empty entry, holds a program if a file
that may be executed stands there under the program's name. -/
theorem holds_iff {disk : Disk} {directory name : String} (hname : Disk.EntryName name)
    (hshort : disk.stat (inDirectory directory name) ≠ .error .nameTooLong) :
    Holds disk directory name ↔ ∃ loc bytes, disk.node? loc = some .directory ∧
      (if directory = "" then loc = disk.here else disk.walk directory = .ok loc) ∧
      disk.node? (loc ++ [name]) = some (.file bytes true) := by
  simp only [Holds, (continues_inDirectory hname directory).stat_iff hname hshort]
  have hleads (loc : Location) :
      (disk.walk (if directory = "" then "." else directory) = .ok loc ∧
          disk.node? loc = some .directory) ↔
        disk.node? loc = some .directory ∧
          (if directory = "" then loc = disk.here else disk.walk directory = .ok loc) := by
    by_cases hempty : directory = ""
    · simp [hempty, Disk.walk_dot_iff, and_comm]
    · simp [hempty, and_comm]
  constructor
  · rintro ⟨bytes, loc, hwalk, hloc, hnode⟩
    obtain ⟨hdirectory, hleads⟩ := (hleads loc).mp ⟨hwalk, hloc⟩
    exact ⟨loc, bytes, hdirectory, hleads, hnode⟩
  · rintro ⟨loc, bytes, hdirectory, hloc, hnode⟩
    obtain ⟨hwalk, hloc⟩ := (hleads loc).mpr ⟨hdirectory, hloc⟩
    exact ⟨bytes, loc, hwalk, hloc, hnode⟩

/-- A program is found on a search path exactly if it stands in one of the directories, unless its
name in one of them is too long to be asked about. -/
theorem onPath_iff_standsOnPath {disk : Disk} {path name : String} (hname : Disk.EntryName name)
    (hshort : ∀ directory ∈ Text.split ':' path,
      disk.stat (inDirectory directory name) ≠ .error .nameTooLong) :
    OnPath disk path name ↔ StandsOnPath disk path name := by
  refine and_congr_right fun _ => exists_congr fun directory => and_congr_right fun hmem => ?_
  exact holds_iff hname (hshort directory hmem)

theorem isExecutable_iff {disk : Disk} {name : String} :
    disk.isExecutable name = true ↔ ∃ bytes, disk.stat name = .ok (.file bytes true) := by
  rw [Disk.isExecutable]
  split
  · rename_i hstat
    simp [hstat]
  · rename_i hother
    simp only [Bool.false_eq_true, false_iff, not_exists]
    exact fun bytes hstat => hother _ _ hstat

/-- A name without a slash is looked for on the search path and nowhere else. -/
theorem isFound_iff {disk : Disk} {path name : String} (hslash : '/' ∉ name.toList) :
    isFound disk path name = true ↔ OnPath disk path name := by
  have hcontains : ¬ Text.contains name "/" = true := by
    rw [Text.contains_iff]
    rintro ⟨before, behind, rfl⟩
    exact hslash (by simp)
  rw [isFound, searchNames, if_neg hcontains, OnPath]
  by_cases hpath : path = ""
  · simp [hpath]
  · simp [hpath, List.any_eq_true, isExecutable_iff, Holds]

/-- The value of a variable that may name a linker, with the name of the variable. -/
def valued? (env : Environment) (name : String) : Option (String × String) :=
  ((env.get? name).filter (· ≠ "")).map (name, ·)

theorem named?_eq_findSome? (env : Environment) (names : List String) :
    named? env names = names.findSome? (valued? env) := by
  rw [named?]
  congr 1
  funext name
  rw [valued?]
  cases env.get? name with
  | none => rfl
  | some value => by_cases hvalue : value = "" <;> simp [hvalue, Option.filter]

theorem valued?_eq_none_iff {env : Environment} {name : String} :
    valued? env name = none ↔ Unset env name := by
  simp [valued?, Unset, Option.filter_eq_none_iff]

theorem valued?_eq_some_iff {env : Environment} {name other value : String} :
    valued? env other = some (name, value) ↔
      other = name ∧ env.get? name = some value ∧ value ≠ "" := by
  simp only [valued?, Option.map_eq_some_iff, Option.filter_eq_some_iff, Prod.mk.injEq]
  constructor
  · rintro ⟨_, ⟨hget, hvalue⟩, rfl, rfl⟩
    exact ⟨rfl, hget, by simpa using hvalue⟩
  · rintro ⟨rfl, hget, hvalue⟩
    exact ⟨value, ⟨hget, by simpa using hvalue⟩, rfl, rfl⟩

/-- The first variable with a value names the linker. -/
theorem named?_eq_some_iff {env : Environment} {names : List String} {name value : String} :
    named? env names = some (name, value) ↔ FirstSet env names name value := by
  rw [named?_eq_findSome?, List.findSome?_eq_some_iff, FirstSet]
  simp only [valued?_eq_none_iff, valued?_eq_some_iff]
  constructor
  · rintro ⟨before, name, after, rfl, ⟨rfl, hvalue⟩, hbefore⟩
    exact ⟨before, after, rfl, hbefore, hvalue⟩
  · rintro ⟨before, after, rfl, hbefore, hvalue⟩
    exact ⟨before, name, after, rfl, ⟨rfl, hvalue⟩, hbefore⟩

theorem named?_eq_none_iff_unset {env : Environment} {sources : Sources} :
    named? env sources.variableNames = none ↔
      ∀ name ∈ sources.variableNames, Unset env name := by
  rw [named?_eq_none_iff]
  simp only [Names, Unset]
  grind

/-- The first candidate on the search path is found, wherever on the path it stands. -/
theorem find?_isFound_eq_some_iff {disk : Disk} {path : String} {candidates : List String}
    (hslash : ∀ name ∈ candidates, '/' ∉ name.toList) {name : String} :
    candidates.find? (isFound disk path) = some name ↔ FirstOnPath disk path candidates name := by
  rw [List.find?_eq_some_iff_append, FirstOnPath]
  constructor
  · rintro ⟨hfound, before, after, rfl, hbefore⟩
    refine ⟨before, after, rfl, fun other hother hpath => ?_, ?_⟩
    · have hfree := hslash other (by simp [hother])
      simpa [(isFound_iff hfree).mpr hpath] using hbefore other hother
    · exact (isFound_iff (hslash name (by simp))).mp hfound
  · rintro ⟨before, after, rfl, hbefore, hpath⟩
    refine ⟨(isFound_iff (hslash name (by simp))).mpr hpath, before, after, rfl,
      fun other hother => ?_⟩
    have hfree := hslash other (by simp [hother])
    simpa [← isFound_iff hfree] using hbefore other hother

/-- No directory holds anything without a name. -/
theorem not_holds_empty (disk : Disk) (directory : String) : ¬ Holds disk directory "" := by
  rintro ⟨bytes, hstat⟩
  by_cases hempty : directory = ""
  · obtain ⟨loc, hwalk, -⟩ := Disk.stat_eq_ok_iff.mp hstat
    rw [inDirectory, if_pos hempty] at hwalk
    exact (Disk.walk_eq_ok_iff.mp hwalk).2.2.1 rfl
  · obtain ⟨text, rfl, hprogram⟩ | hprogram := inDirectory_cases hempty "" <;>
      rw [hprogram, String.append_empty] at hstat <;>
      cases Disk.directory_of_stat_slash hstat

section Resolve

variable {env : Environment} {path : String} {sources : Sources} {disk : Disk}
  {asked : Option String} {linker : String}

/-- An environment with a search path is not given another one. -/
theorem searchPath_of_get? (hpath : env.get? "PATH" = some path) (host : Host) :
    searchPath host env = path := by
  rw [searchPath, hpath, Option.getD_some]

theorem filter_eq_none_iff : asked.filter (· ≠ "") = none ↔ asked.getD "" = "" := by
  cases asked <;> simp [Option.filter_eq_none_iff]

/-- What is chosen is what is resolved. -/
theorem Chooses.answer_eq (hchooses : Chooses env path sources disk asked linker)
    (hpath : env.get? "PATH" = some path)
    (hslash : ∀ name ∈ sources.candidates, '/' ∉ name.toList) (host : Host) :
    (resolve host env sources asked disk).answer = .ok linker := by
  cases hchooses with
  | asked hlinker =>
    rw [resolve_of_asked hlinker]
    rfl
  | named hasked hnamed =>
    rw [answer_resolve, filter_eq_none_iff.mpr hasked, named?_eq_some_iff.mpr hnamed]
    rfl
  | found hasked hunset hfound =>
    rw [answer_resolve, filter_eq_none_iff.mpr hasked, named?_eq_none_iff_unset.mpr hunset,
      searchPath_of_get? hpath, (find?_isFound_eq_some_iff hslash).mpr hfound]
    rfl

/-- Where nothing is resolved, there is nothing to choose. -/
theorem resolve_cases (hpath : env.get? "PATH" = some path)
    (hslash : ∀ name ∈ sources.candidates, '/' ∉ name.toList) (host : Host)
    (asked : Option String) :
    (∃ linker, Chooses env path sources disk asked linker) ∨
      (resolve host env sources asked disk).answer = .error (.link .linkerNotFound) := by
  cases hasked : asked.filter (· ≠ "") with
  | some linker =>
    obtain ⟨rfl, hlinker⟩ := Option.filter_eq_some_iff.mp hasked
    exact Or.inl ⟨linker, .asked (by simpa using hlinker)⟩
  | none =>
    have hfree := filter_eq_none_iff.mp hasked
    cases hnamed : named? env sources.variableNames with
    | some named =>
      obtain ⟨name, value⟩ := named
      exact Or.inl ⟨value, .named hfree (named?_eq_some_iff.mp hnamed)⟩
    | none =>
      cases hfound : sources.candidates.find? (isFound disk path) with
      | some name =>
        exact Or.inl ⟨name, .found hfree (named?_eq_none_iff_unset.mp hnamed)
          ((find?_isFound_eq_some_iff hslash).mp hfound)⟩
      | none =>
        refine Or.inr ?_
        rw [answer_resolve, hasked, hnamed, searchPath_of_get? hpath, hfound]
        rfl

/-- No linker without a name is ever chosen. -/
theorem Chooses.ne_empty (hchooses : Chooses env path sources disk asked linker) :
    linker ≠ "" := by
  cases hchooses with
  | asked hlinker => exact hlinker
  | named _ hnamed =>
    obtain ⟨before, after, -, -, -, hvalue⟩ := hnamed
    exact hvalue
  | found _ _ hfound =>
    rintro rfl
    obtain ⟨before, after, -, -, -, directory, -, hholds⟩ := hfound
    exact not_holds_empty disk directory hholds

/-- What a variable says decides whatever is behind it among the variables and after them. -/
theorem answer_of_named {named : String × String}
    (hnamed : named? env sources.variableNames = some named) (host : Host) (asked : Option String)
    (disk : Disk) : (resolve host env sources asked disk).answer =
      .ok ((asked.filter (· ≠ "")).getD named.2) := by
  rw [answer_resolve, hnamed]
  cases asked.filter (· ≠ "") <;> rfl

/-- Variables behind one that has a value do not matter. -/
theorem named?_append_cons {before : List String} {name value : String}
    (hget : env.get? name = some value) (hvalue : value ≠ "") (after : List String) :
    named? env (before ++ name :: after) = some ((named? env before).getD (name, value)) := by
  have hname := valued?_eq_some_iff.mpr ⟨rfl, hget, hvalue⟩
  rw [named?_eq_findSome?, named?_eq_findSome?, List.findSome?_append, List.findSome?_cons, hname]
  cases before.findSome? (valued? env) <;> rfl

/-- Of two lists of variables that begin alike with one that is set, the rest does not matter. -/
theorem answer_of_named_alike {env' : Environment} {before after after' candidates' : List String}
    {name value : String} (hnames : sources.variableNames = before ++ name :: after)
    (hget : env.get? name = some value) (hvalue : value ≠ "")
    (hsame : ∀ other ∈ before ++ [name], env'.get? other = env.get? other) (host host' : Host)
    (asked : Option String) (disk disk' : Disk) :
    (resolve host' env' ⟨before ++ name :: after', candidates'⟩ asked disk').answer =
      (resolve host env sources asked disk).answer := by
  have hget' : env'.get? name = some value := by rw [hsame name (by simp), hget]
  have hbefore : named? env' before = named? env before :=
    named?_congr fun other hother => hsame other (List.mem_append_left _ hother)
  have hnamed : named? env sources.variableNames =
      some ((named? env before).getD (name, value)) := by
    rw [hnames, named?_append_cons hget hvalue]
  have hnamed' : named? env' (before ++ name :: after') =
      some ((named? env before).getD (name, value)) := by
    rw [named?_append_cons hget' hvalue, hbefore]
  rw [answer_of_named hnamed, answer_of_named hnamed']

theorem isFound_eq_of_iff {path' name : String} {disk' : Disk} (hslash : '/' ∉ name.toList)
    (honPath : OnPath disk' path' name ↔ OnPath disk path name) :
    isFound disk' path' name = isFound disk path name := by
  rw [Bool.eq_iff_iff, isFound_iff hslash, isFound_iff hslash, honPath]

/-- Of two lists of candidates that begin alike with one that is found, the rest does not matter. -/
theorem answer_of_found_alike {disk' : Disk} {before after after' : List String} {name : String}
    (hpath : env.get? "PATH" = some path)
    (hslash : ∀ other ∈ sources.candidates, '/' ∉ other.toList)
    (hcandidates : sources.candidates = before ++ name :: after) (hfound : OnPath disk path name)
    (hsame : ∀ other ∈ before ++ [name], OnPath disk' path other ↔ OnPath disk path other)
    (host : Host) (asked : Option String) :
    (resolve host env ⟨sources.variableNames, before ++ name :: after'⟩ asked disk').answer =
      (resolve host env sources asked disk).answer := by
  rw [hcandidates] at hslash
  have hequal : ∀ other ∈ before ++ [name],
      isFound disk' path other = isFound disk path other := by
    intro other hother
    refine isFound_eq_of_iff (hslash other ?_) (hsame other hother)
    exact ((List.singleton_sublist.mpr List.mem_cons_self).append_left before).subset hother
  have hname : isFound disk path name = true := (isFound_iff (hslash name (by simp))).mpr hfound
  have hname' : isFound disk' path name = true := by rw [hequal name (by simp), hname]
  have hbefore : before.find? (isFound disk' path) = before.find? (isFound disk path) :=
    List.find?_congr fun other hother => hequal other (List.mem_append_left _ hother)
  rw [answer_resolve, answer_resolve, searchPath_of_get? hpath, hcandidates]
  simp only [List.find?_append, List.find?_cons_of_pos hname, List.find?_cons_of_pos hname',
    hbefore]

/-- Two environments that differ in the order of the directories of their search paths. -/
structure Reordered (env env' : Environment) : Prop where
  beside : ∀ name ≠ "PATH", env'.get? name = env.get? name
  path : ∃ path path', env.get? "PATH" = some path ∧ env'.get? "PATH" = some path' ∧
    (Text.split ':' path').Perm (Text.split ':' path)

theorem eq_empty_iff_of_perm {path' : String}
    (hperm : (Text.split ':' path').Perm (Text.split ':' path)) : path' = "" ↔ path = "" := by
  have hempty (text : String) : text = "" ↔ Text.split ':' text = [""] :=
    Text.split_eq_empty_iff.symm
  rw [hempty path', hempty path]
  constructor
  · intro hsplit
    exact List.perm_singleton.mp (hsplit ▸ hperm).symm
  · intro hsplit
    exact List.perm_singleton.mp (hsplit ▸ hperm)

/-- The order of the directories does not matter. -/
theorem onPath_iff_of_perm {path' : String}
    (hperm : (Text.split ':' path').Perm (Text.split ':' path)) (name : String) :
    OnPath disk path' name ↔ OnPath disk path name := by
  simp only [OnPath, ne_eq, eq_empty_iff_of_perm hperm, hperm.mem_iff]

theorem Reordered.unset_iff {env' : Environment} (horder : Reordered env env') (name : String) :
    Unset env' name ↔ Unset env name := by
  by_cases hname : name = "PATH"
  · obtain ⟨path, path', hpath, hpath', hperm⟩ := horder.path
    subst hname
    simp only [Unset, hpath, hpath', Option.some.injEq, forall_eq', eq_empty_iff_of_perm hperm]
  · rw [Unset, Unset, horder.beside name hname]

/-- A search path in another order leaves the other variables alone. -/
theorem Reordered.firstSet {env' : Environment} (horder : Reordered env env')
    {names : List String} {name value : String} (hname : name ≠ "PATH")
    (hfirst : FirstSet env names name value) : FirstSet env' names name value := by
  obtain ⟨before, after, hnames, hbefore, hget, hvalue⟩ := hfirst
  refine ⟨before, after, hnames, fun other hother => ?_, ?_, hvalue⟩
  · exact (horder.unset_iff other).mpr (hbefore other hother)
  · rw [horder.beside name hname, hget]

/-- The order of the directories does not matter, unless the whole search path is what a variable
names as the linker. -/
theorem answer_of_reordered {env' : Environment} (horder : Reordered env env')
    (hslash : ∀ other ∈ sources.candidates, '/' ∉ other.toList)
    (hname : asked.getD "" = "" → ∀ value, ¬ FirstSet env sources.variableNames "PATH" value)
    (host host' : Host) : (resolve host' env' sources asked disk).answer =
      (resolve host env sources asked disk).answer := by
  obtain ⟨path, path', hpath, hpath', hperm⟩ := horder.path
  rw [answer_resolve, answer_resolve, searchPath_of_get? hpath, searchPath_of_get? hpath']
  cases hasked : asked.filter (· ≠ "") with
  | some linker => rfl
  | none =>
    have hfree := hname (filter_eq_none_iff.mp hasked)
    cases hnamed : named? env sources.variableNames with
    | some named =>
      obtain ⟨name, value⟩ := named
      have hfirst := named?_eq_some_iff.mp hnamed
      have hother : name ≠ "PATH" := by
        rintro rfl
        exact hfree value hfirst
      rw [named?_eq_some_iff.mpr (horder.firstSet hother hfirst)]
      rfl
    | none =>
      have hunset := named?_eq_none_iff_unset.mp hnamed
      have hnamed' : named? env' sources.variableNames = none :=
        named?_eq_none_iff_unset.mpr fun name hmem => (horder.unset_iff name).mpr (hunset name hmem)
      rw [hnamed', List.find?_congr fun name hmem =>
        isFound_eq_of_iff (hslash name hmem) (onPath_iff_of_perm hperm name)]

/-- A linker is resolved exactly if the request, the variables and the search path decide for it in
this order, and none is found exactly if there is nothing to decide for. It is never the empty text.
A candidate is found where a file that may be executed stands under its name in a directory of the
search path. What decides leaves no say to what stands lower: a request to anything else, a variable
to those behind it, to the candidates and the disk, a candidate to those behind it. The order of the
directories has no say, unless the search path itself is what a variable names as the linker. -/
theorem resolve_in_order (hpath : env.get? "PATH" = some path)
    (hslash : ∀ name ∈ sources.candidates, '/' ∉ name.toList) (host : Host)
    (asked : Option String) (disk : Disk) :
    (∀ linker, (resolve host env sources asked disk).answer = .ok linker ↔
      Chooses env path sources disk asked linker) ∧
    (∀ fault, (resolve host env sources asked disk).answer = .error fault ↔
      fault = .link .linkerNotFound ∧ ∀ linker, ¬ Chooses env path sources disk asked linker) ∧
    (resolve host env sources asked disk).answer ≠ .ok "" ∧
    (∀ name, Disk.EntryName name → (∀ directory ∈ Text.split ':' path,
        disk.stat (inDirectory directory name) ≠ .error .nameTooLong) →
      (OnPath disk path name ↔ StandsOnPath disk path name)) ∧
    (∀ linker, asked = some linker → linker ≠ "" → ∀ host' env' sources' disk',
      (resolve host' env' sources' asked disk').answer =
        (resolve host env sources asked disk).answer) ∧
    (∀ before name after value, sources.variableNames = before ++ name :: after →
      env.get? name = some value → value ≠ "" → ∀ host' env' after' candidates' disk',
      (∀ other ∈ before ++ [name], env'.get? other = env.get? other) →
      (resolve host' env' ⟨before ++ name :: after', candidates'⟩ asked disk').answer =
        (resolve host env sources asked disk).answer) ∧
    (∀ before name after, sources.candidates = before ++ name :: after →
      OnPath disk path name → ∀ after' disk',
      (∀ other ∈ before ++ [name], OnPath disk' path other ↔ OnPath disk path other) →
      (resolve host env ⟨sources.variableNames, before ++ name :: after'⟩ asked disk').answer =
        (resolve host env sources asked disk).answer) ∧
    ∀ host' env', Reordered env env' →
      (asked.getD "" = "" → ∀ value, ¬ FirstSet env sources.variableNames "PATH" value) →
      (resolve host' env' sources asked disk).answer =
        (resolve host env sources asked disk).answer := by
  have hanswer {linker : String} (hchooses : Chooses env path sources disk asked linker) :
      (resolve host env sources asked disk).answer = .ok linker :=
    hchooses.answer_eq hpath hslash host
  have hchosen (linker : String) : (resolve host env sources asked disk).answer = .ok linker ↔
      Chooses env path sources disk asked linker := by
    refine ⟨fun hlinker => ?_, hanswer⟩
    obtain ⟨other, hchooses⟩ | hnone := resolve_cases hpath hslash host asked
    · cases hlinker.symm.trans (hanswer hchooses)
      exact hchooses
    · cases hlinker.symm.trans hnone
  refine ⟨hchosen, fun fault => ?_, fun hempty => ?_,
    fun name hname hshort => onPath_iff_standsOnPath hname hshort, ?_, ?_, ?_, ?_⟩
  · constructor
    · intro hfault
      obtain ⟨linker, hchooses⟩ | hnone := resolve_cases hpath hslash host asked
      · cases hfault.symm.trans (hanswer hchooses)
      · cases hfault.symm.trans hnone
        exact ⟨rfl, fun linker hchooses => by cases hnone.symm.trans (hanswer hchooses)⟩
    · rintro ⟨rfl, hnothing⟩
      obtain ⟨linker, hchooses⟩ | hnone := resolve_cases hpath hslash host asked
      · exact absurd hchooses (hnothing linker)
      · exact hnone
  · exact ((hchosen "").mp hempty).ne_empty rfl
  · rintro linker rfl hlinker host' env' sources' disk'
    rw [resolve_of_asked hlinker, resolve_of_asked hlinker]
    rfl
  · intro before name after value hnames hget hvalue host' env' after' candidates' disk' hsame
    exact answer_of_named_alike hnames hget hvalue hsame host host' asked disk disk'
  · intro before name after hcandidates hfound after' disk' hsame
    exact answer_of_found_alike hpath hslash hcandidates hfound hsame host asked
  · intro host' env' horder hname
    exact answer_of_reordered horder hslash hname host host'

end Resolve

/-- A host whose own environment is empty. -/
def bareHost : Host where
  environment := []
  processId := 1
  temporary := ⟨.relative, ["tmp"]⟩
  runner _ _ disk := (disk, .ok ⟨0, [], []⟩)

/-- A disk with a compiler in one directory, and a directory of the compiler's name in another. -/
def compilerDisk : Disk where
  nodes := [(["x"], .directory), (["x", "gcc"], .directory), (["t"], .directory),
    (["t", "gcc"], .file [] true)]
  here := []

/-- An environment with an empty variable and a search path of two directories. -/
def compilerEnvironment : Environment :=
  [("CC", ""), ("PATH", "x:t")]

def compilerSources : Sources :=
  ⟨["CC"], ["ld", "gcc"]⟩

/-- The compiler is found on the path, in either order of its directories, also beside a variable
without a value. -/
theorem resolve_in_order_of_compiler :
    compilerEnvironment.get? "PATH" = some "x:t" ∧
    (∀ name ∈ compilerSources.candidates, '/' ∉ name.toList) ∧
    (resolve bareHost compilerEnvironment compilerSources none compilerDisk).answer = .ok "gcc" ∧
    (resolve bareHost [("CC", ""), ("PATH", "t:x")] compilerSources none compilerDisk).answer =
      .ok "gcc" := by
  have hpath : compilerEnvironment.get? "PATH" = some "x:t" := by decide
  have hslash : ∀ name ∈ compilerSources.candidates, '/' ∉ name.toList := by decide
  obtain ⟨hchosen, -, -, -, -, -, -, horder⟩ :=
    resolve_in_order hpath hslash bareHost none compilerDisk
  have hunset : ∀ name ∈ compilerSources.variableNames, Unset compilerEnvironment name := by
    intro name hname value hvalue
    rw [List.mem_singleton.mp hname] at hvalue
    exact (Option.some.inj hvalue).symm
  have hfound : FirstOnPath compilerDisk "x:t" compilerSources.candidates "gcc" := by
    refine ⟨["ld"], [], rfl, ?_, by decide, "t", by decide, [], by decide⟩
    intro other hother
    rw [List.mem_singleton.mp hother, ← isFound_iff (by decide)]
    decide
  have hgcc := (hchosen "gcc").mpr (.found rfl hunset hfound)
  have hreordered : Reordered compilerEnvironment [("CC", ""), ("PATH", "t:x")] := by
    refine ⟨fun name hname => ?_, "x:t", "t:x", by decide, by decide, by decide⟩
    have hother : (name == "PATH") = false := by simpa using hname
    simp [Environment.get?, compilerEnvironment, List.lookup_cons, hother]
  have hsame := horder bareHost _ hreordered fun _ value hfirst => ?_
  · exact ⟨hpath, hslash, hgcc, hsame.trans hgcc⟩
  · obtain ⟨before, after, hnames, -⟩ := hfirst
    have hmem : "PATH" ∈ compilerSources.variableNames := by rw [hnames]; simp
    exact absurd hmem (by decide)

/-- The variable of the search path may be one of those that name the linker; then the linker is the
search path, and the order of its directories is part of it. -/
theorem reordered_path_named :
    Reordered [("PATH", "a:b")] [("PATH", "b:a")] ∧
    (resolve bareHost [("PATH", "a:b")] ⟨["PATH"], []⟩ none ⟨[], []⟩).answer = .ok "a:b" ∧
    (resolve bareHost [("PATH", "b:a")] ⟨["PATH"], []⟩ none ⟨[], []⟩).answer = .ok "b:a" := by
  refine ⟨⟨fun name hname => ?_, "a:b", "b:a", by decide, by decide, by decide⟩, by decide,
    by decide⟩
  have hother : (name == "PATH") = false := by simpa using hname
  simp [Environment.get?, List.lookup_cons, hother]

end LinkRelay.Linker
