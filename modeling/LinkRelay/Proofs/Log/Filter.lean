import LinkRelay.Log.Filter
import LinkRelay.Proofs.Text.Blank
import LinkRelay.Proofs.Text.Pieces

namespace LinkRelay.Log.Filter

/-- The words that name levels. -/
def levelNames : List (String × Level) :=
  [("off", .off), ("error", .error), ("warn", .warning), ("warning", .warning), ("info", .info),
    ("debug", .debug), ("trace", .trace)]

/-- A word names a level if the table has the two together. -/
theorem levelNamed?_eq_some_iff {word : String} {level : Level} :
    levelNamed? word = some level ↔ (word, level) ∈ levelNames := by
  rw [levelNamed?.eq_def]
  split <;> simp_all [levelNames, eq_comm]

/-- A word names a level, in capitals or not and with any blanks around it. -/
def Names (word : String) (level : Level) : Prop :=
  (Text.lower (Text.trim word), level) ∈ levelNames

theorem names_iff {word : String} {level : Level} :
    levelNamed? (Text.lower (Text.trim word)) = some level ↔ Names word level :=
  levelNamed?_eq_some_iff

/-- A target is the base logger or something below it, with any blanks around it. -/
def Concerned (target : String) : Prop :=
  Text.trim target = baseName ∨ (∃ rest, Text.trim target = baseName ++ "::" ++ rest) ∨
    ∃ rest, Text.trim target = baseName ++ "." ++ rest

/-- A target concerns this program if it is one of its names, whatever blanks stand around it. -/
theorem concerns_iff {target : String} :
    concerns (Text.trim target) = true ↔ Concerned target := by
  simp [concerns, Concerned, Text.startsWith_iff, or_assoc]

/-- An entry sets a level: for all loggers, or for a target that concerns the base logger. -/
inductive Sets : String → Level → Prop
  | plain {entry : String} {level : Level} : '=' ∉ entry.toList → Names entry level →
      Sets entry level
  | targeted {target value : String} {level : Level} : '=' ∉ target.toList → Concerned target →
      Names value level → Sets (target ++ "=" ++ value) level

/-- An entry sets nothing: it is blank, names no level, or is for something else. -/
inductive Idle : String → Prop
  | blank {entry : String} : (∀ c ∈ entry.toList, Text.isBlank c = true) → Idle entry
  | unknown {entry : String} : '=' ∉ entry.toList → (∀ level, ¬ Names entry level) → Idle entry
  | unknownValue {target value : String} : '=' ∉ target.toList → (∀ level, ¬ Names value level) →
      Idle (target ++ "=" ++ value)
  | foreign {target value : String} : '=' ∉ target.toList → ¬ Concerned target →
      Idle (target ++ "=" ++ value)

section Entry

variable {entry target : String} {level : Level}

theorem entryLevel?_of_plain (hplain : '=' ∉ entry.toList) :
    entryLevel? entry = levelNamed? (Text.lower (Text.trim entry)) := by
  rw [entryLevel?, Text.cutAt?_eq_none_iff.mpr (Text.not_mem_trim hplain)]

/-- The blanks that trimming the whole entry takes away would go with those around its parts. -/
theorem entryLevel?_of_targeted (htarget : '=' ∉ target.toList) (value : String) :
    entryLevel? (target ++ "=" ++ value) =
      if concerns (Text.trim target) then levelNamed? (Text.lower (Text.trim value)) else none := by
  have hcut : Text.cutAt? '=' (Text.trim (target ++ "=" ++ value)).toList =
      some (target.toList.dropWhile Text.isBlank, value.toList.rdropWhile Text.isBlank) := by
    rw [Text.toList_trim_append rfl (by decide), Text.cutAt?_eq_some_iff]
    exact ⟨rfl, fun hmem => htarget ((List.dropWhile_suffix _).subset hmem)⟩
  rw [entryLevel?, hcut]
  simp only [Text.trim_dropWhile, Text.trim_rdropWhile]

/-- An entry is a level alone, or falls apart at its first equals sign. -/
theorem plain_or_targeted (entry : String) : '=' ∉ entry.toList ∨
    ∃ target value, entry = target ++ "=" ++ value ∧ '=' ∉ target.toList := by
  cases hcut : Text.cutAt? '=' entry.toList with
  | none => exact Or.inl (Text.cutAt?_eq_none_iff.mp hcut)
  | some parts =>
    obtain ⟨target, value⟩ := parts
    obtain ⟨hentry, htarget⟩ := Text.cutAt?_eq_some_iff.mp hcut
    exact Or.inr ⟨String.ofList target, String.ofList value,
      String.toList_inj.mp (by simp [hentry]), by simpa using htarget⟩

/-- An entry that sets a level is read as this level. -/
theorem entryLevel?_of_sets (hsets : Sets entry level) : entryLevel? entry = some level := by
  cases hsets with
  | plain hplain hlevel => rw [entryLevel?_of_plain hplain, names_iff.mpr hlevel]
  | targeted htarget hconcerned hlevel =>
    rw [entryLevel?_of_targeted htarget, if_pos (concerns_iff.mpr hconcerned), names_iff.mpr hlevel]

theorem levelNamed?_eq_none {word : String} (hunknown : ∀ level, ¬ Names word level) :
    levelNamed? (Text.lower (Text.trim word)) = none :=
  Option.eq_none_iff_forall_ne_some.mpr fun level hlevel => hunknown level (names_iff.mp hlevel)

/-- An idle entry is read as nothing. -/
theorem entryLevel?_of_idle (hidle : Idle entry) : entryLevel? entry = none := by
  cases hidle with
  | blank hblank =>
    have hplain : '=' ∉ entry.toList := fun hmem => absurd (hblank _ hmem) (by decide)
    have hunnamed : levelNamed? (Text.lower "") = none := by decide
    rw [entryLevel?_of_plain hplain, Text.trim_of_blank hblank, hunnamed]
  | unknown hplain hunknown => rw [entryLevel?_of_plain hplain, levelNamed?_eq_none hunknown]
  | unknownValue htarget hunknown =>
    rw [entryLevel?_of_targeted htarget, levelNamed?_eq_none hunknown, ite_self]
  | foreign htarget hforeign =>
    rw [entryLevel?_of_targeted htarget, if_neg (mt concerns_iff.mp hforeign)]

/-- Every entry either is idle or sets a level. -/
theorem idle_or_sets (entry : String) : Idle entry ∨ ∃ level, Sets entry level := by
  obtain hplain | ⟨target, value, rfl, htarget⟩ := plain_or_targeted entry
  · by_cases hlevel : ∃ level, Names entry level
    · exact Or.inr (hlevel.imp fun _ => .plain hplain)
    · exact Or.inl (.unknown hplain (not_exists.mp hlevel))
  · by_cases hconcerned : Concerned target
    · by_cases hlevel : ∃ level, Names value level
      · exact Or.inr (hlevel.imp fun _ => .targeted htarget hconcerned)
      · exact Or.inl (.unknownValue htarget (not_exists.mp hlevel))
    · exact Or.inl (.foreign htarget hconcerned)

/-- What an entry sets is one of the levels with a name. -/
theorem Sets.exists_name (hsets : Sets entry level) : ∃ word, (word, level) ∈ levelNames := by
  cases hsets with
  | plain _ hlevel => exact ⟨_, hlevel⟩
  | targeted _ _ hlevel => exact ⟨_, hlevel⟩

end Entry

section Texts

variable {entry spec : String} {entries : List String} {level : Level}

/-- A text with a comma in it is followed up to there, and from there on with what comes out. -/
theorem level_append (text rest : String) (default : Level) :
    Filter.level (text ++ "," ++ rest) default = Filter.level rest (Filter.level text default) := by
  have hsplit : Text.split ',' (text ++ "," ++ rest) = Text.split ',' text ++ Text.split ',' rest :=
    Text.split_append_mark rfl text rest
  simp only [Filter.level, hsplit, List.foldl_append]

theorem level_of_entry (hentry : ',' ∉ entry.toList) (default : Level) :
    Filter.level entry default = (entryLevel? entry).getD default := by
  rw [Filter.level, Text.split_of_not_mem hentry, List.foldl_cons, List.foldl_nil]

theorem level_of_idle (hentry : ',' ∉ entry.toList) (hidle : Idle entry) (default : Level) :
    Filter.level entry default = default := by
  rw [level_of_entry hentry, entryLevel?_of_idle hidle, Option.getD_none]

/-- A text is followed part by part, wherever it is taken apart at commas. -/
theorem level_intercalate (parts : List String) (default : Level) :
    Filter.level (",".intercalate parts) default =
      parts.foldl (fun current part => Filter.level part current) default := by
  induction parts generalizing default with
  | nil => exact level_of_idle (by simp) (.blank (by simp)) default
  | cons part parts ih =>
    by_cases hlast : parts = []
    · rw [hlast, String.intercalate_singleton, List.foldl_cons, List.foldl_nil]
    · rw [String.intercalate_cons_of_ne_nil hlast, level_append, ih, List.foldl_cons]

/-- An idle entry can stand anywhere between the parts of a text. -/
theorem level_insert_idle (hentry : ',' ∉ entry.toList) (hidle : Idle entry)
    (before behind : List String) (default : Level) :
    Filter.level (",".intercalate (before ++ entry :: behind)) default =
      Filter.level (",".intercalate (before ++ behind)) default := by
  simp only [level_intercalate, List.foldl_append, List.foldl_cons, level_of_idle hentry hidle]

/-- A level is set by an entry that only idle ones follow. -/
def LastSets (entries : List String) (level : Level) : Prop :=
  ∃ before entry behind, entries = before ++ entry :: behind ∧ Sets entry level ∧
    ∀ later ∈ behind, Idle later

theorem foldl_of_idle (hidle : ∀ entry ∈ entries, Idle entry) (default : Level) :
    entries.foldl (fun current entry => (entryLevel? entry).getD current) default = default := by
  induction entries with
  | nil => rfl
  | cons entry entries ih =>
    obtain ⟨hentry, hrest⟩ := List.forall_mem_cons.mp hidle
    rw [List.foldl_cons, entryLevel?_of_idle hentry, Option.getD_none, ih hrest]

theorem level_of_all_idle (hidle : ∀ entry ∈ Text.split ',' spec, Idle entry) (default : Level) :
    Filter.level spec default = default :=
  foldl_of_idle hidle default

/-- The last entry that sets a level decides, whatever the default. -/
theorem level_of_lastSets (hlast : LastSets (Text.split ',' spec) level) (default : Level) :
    Filter.level spec default = level := by
  obtain ⟨before, entry, behind, hentries, hsets, hidle⟩ := hlast
  rw [Filter.level, hentries, List.foldl_append, List.foldl_cons, entryLevel?_of_sets hsets,
    Option.getD_some, foldl_of_idle hidle]

/-- Seen from the end, either no entry sets a level or there is a last one that does. -/
theorem idle_or_lastSets (entries : List String) :
    (∀ entry ∈ entries, Idle entry) ∨ ∃ level, LastSets entries level := by
  induction entries using List.reverseRecOn with
  | nil => exact Or.inl (by simp)
  | append_singleton entries entry ih =>
    obtain hentry | ⟨level, hsets⟩ := idle_or_sets entry
    · obtain hidle | ⟨level, before, last, behind, rfl, hsets, hbehind⟩ := ih
      · exact Or.inl (List.forall_mem_append.mpr ⟨hidle, by simpa using hentry⟩)
      · exact Or.inr ⟨level, before, last, behind ++ [entry], by simp, hsets,
          List.forall_mem_append.mpr ⟨hbehind, by simpa using hentry⟩⟩
    · exact Or.inr ⟨level, entries, entry, [], rfl, hsets, by simp⟩

theorem LastSets.exists_name (hlast : LastSets entries level) :
    ∃ word, (word, level) ∈ levelNames := by
  obtain ⟨before, entry, behind, -, hsets, -⟩ := hlast
  exact hsets.exists_name

/-- The default stays if nothing is set, or if it is what was set last. -/
theorem level_eq_default_iff (spec : String) (default : Level) :
    Filter.level spec default = default ↔
      (∀ entry ∈ Text.split ',' spec, Idle entry) ∨ LastSets (Text.split ',' spec) default := by
  constructor
  · intro hlevel
    refine (idle_or_lastSets _).imp_right fun ⟨level, hlast⟩ => ?_
    rwa [← level_of_lastSets hlast default, hlevel] at hlast
  · rintro (hidle | hlast)
    · exact level_of_all_idle hidle default
    · exact level_of_lastSets hlast default

/-- No other level than the default and those with a name comes of a text. -/
theorem level_eq_default_or_named (spec : String) (default : Level) :
    Filter.level spec default = default ∨
      ∃ word, (word, Filter.level spec default) ∈ levelNames := by
  obtain hidle | ⟨level, hlast⟩ := idle_or_lastSets (Text.split ',' spec)
  · exact Or.inl (level_of_all_idle hidle default)
  · rw [level_of_lastSets hlast default]
    exact Or.inr hlast.exists_name

end Texts

/-- A filter text is followed from left to right: at each comma it can be taken apart, what comes
out of the first part being the default of the second. An idle entry changes nothing wherever it is
put in. What comes out is the default or a level with a name, and it is the default exactly if no
entry sets a level or the last one that does sets this one. -/
theorem level_follows_entries (default : Level) :
    (∀ text rest : String, Filter.level (text ++ "," ++ rest) default =
      Filter.level rest (Filter.level text default)) ∧
    (∀ (before behind : List String) (entry : String), ',' ∉ entry.toList → Idle entry →
      Filter.level (",".intercalate (before ++ entry :: behind)) default =
        Filter.level (",".intercalate (before ++ behind)) default) ∧
    ∀ spec : String,
      (Filter.level spec default = default ∨
        ∃ word, (word, Filter.level spec default) ∈ levelNames) ∧
      (Filter.level spec default = default ↔
        (∀ entry ∈ Text.split ',' spec, Idle entry) ∨ LastSets (Text.split ',' spec) default) :=
  ⟨fun text rest => level_append text rest default,
    fun before behind _ hentry hidle => level_insert_idle hentry hidle before behind default,
    fun spec => ⟨level_eq_default_or_named spec default, level_eq_default_iff spec default⟩⟩

/-- An entry for another program, with blanks around its parts and a second equals sign, is put in
between entries that set a level. -/
theorem level_follows_entries_foreign :
    ',' ∉ " other =\tdebug=1 ".toList ∧ Idle " other =\tdebug=1 " ∧
    Filter.level
        (",".intercalate (["WARN"] ++ " other =\tdebug=1 " :: ["ldproxy::x = Off"])) .info =
      Filter.level (",".intercalate (["WARN"] ++ ["ldproxy::x = Off"])) .info := by
  have hcomma : ',' ∉ " other =\tdebug=1 ".toList := by decide
  have hforeign : ¬ Concerned " other " := mt concerns_iff.mpr (by decide)
  have hidle : Idle (" other " ++ "=" ++ "\tdebug=1 ") := .foreign (by decide) hforeign
  obtain ⟨-, hinsert, -⟩ := level_follows_entries .info
  exact ⟨hcomma, hidle, hinsert ["WARN"] ["ldproxy::x = Off"] _ hcomma hidle⟩

end LinkRelay.Log.Filter
