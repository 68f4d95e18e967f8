import LinkRelay.Proofs.Log.Configuration
import LinkRelay.Proofs.Text.Search

namespace LinkRelay.Log

/-- A name is put below the base logger's unless it begins as that does. -/
theorem loggerName_some {name : String} (hempty : name ≠ "") : loggerName (some name) =
    if Text.startsWith name baseName then name else nameBelow name := by
  rw [loggerName]
  · rfl
  · exact hempty

theorem StandsBelow.startsWith {name : String} (hname : StandsBelow name) :
    Text.startsWith name baseName = true := by
  obtain rfl | ⟨rest, rfl, -⟩ := hname
  · decide
  · exact Text.startsWith_iff.mpr ⟨"." ++ rest, String.append_assoc ..⟩

/-- Names that ask for the base logger, or for a logger that is below it for good. -/
inductive Proper : Option String → Prop
  | base : Proper none
  | whole {name : String} : StandsBelow name → Proper (some name)
  | short {name : String} : ¬ Text.startsWith name baseName = true →
      name.toList.head? ≠ some '.' → Proper (some name)

/-- The name of a logger stands below the base logger exactly if what was asked for is proper. -/
theorem standsBelow_loggerName_iff {name : Option String} :
    StandsBelow (loggerName name) ↔ Proper name := by
  cases name with
  | none => exact iff_of_true (Or.inl rfl) .base
  | some name =>
    by_cases hempty : name = ""
    · subst hempty
      exact iff_of_true (Or.inl rfl) (.short (by decide) (by decide))
    · rw [loggerName_some hempty]
      by_cases hstart : Text.startsWith name baseName = true
      · rw [if_pos hstart]
        refine ⟨.whole, fun hproper => ?_⟩
        cases hproper with
        | whole hname => exact hname
        | short hother _ => exact absurd hstart hother
      · rw [if_neg hstart, standsBelow_nameBelow_iff]
        refine ⟨.short hstart, fun hproper => ?_⟩
        cases hproper with
        | whole hname => exact absurd hname.startsWith hstart
        | short _ hdot => exact hdot

/-- The loggers after some operations, and one that a name asks for then. -/
def hierarchyFor (history : List Operation) (name : Option String) : Hierarchy :=
  (Configuration.after history).hierarchy.meet (loggerName name)

/-- In every history, the records of the logger that a name asks for are written once each where the
base logger was first set up to write, and exactly those from the level on that it was last given.
Histories that leave it without a level, which is zero, are set aside. -/
def Follows (name : Option String) : Prop :=
  ∀ history last first, (setUps history).head? = some last →
    (setUps history).getLast? = some first → last.1 ≠ 0 → ∀ level text, 0 < level →
      (hierarchyFor history name).writes ⟨level, loggerName name, text⟩ =
        if last.1 ≤ level then
          [(first.2.sink, Style.paint first.2.colored level text ++ "\n")] else []

/-- The last level that was set is the one that holds. -/
theorem Hierarchy.Configured.threshold_eq {h : Hierarchy} {made : List (Level × Handler)}
    (hmade : h.Configured made) {last : Level × Handler} (hlast : made.head? = some last)
    (hlevel : last.1 ≠ 0) : h.threshold = last.1 := by
  have heq : h.level = last.1 := by rw [hmade.level, hlast, Option.map_some, Option.getD_some]
  rw [Hierarchy.threshold, heq, if_neg hlevel]

section Names

variable {name : Option String}

theorem configured_hierarchyFor (history : List Operation) (name : Option String) :
    (hierarchyFor history name).Configured (setUps history) :=
  (Configuration.configured_after history).meet _

/-- The logger of a proper name is below the base logger, whatever was done before. -/
theorem isBelowBase_of_proper (hname : Proper name) (history : List Operation) :
    (hierarchyFor history name).isBelowBase (loggerName name) = true :=
  Hierarchy.isBelowBase_of_standsBelow (configured_hierarchyFor history name).known
    (standsBelow_loggerName_iff.mpr hname)

/-- The logger of a proper name follows what is set up. -/
theorem follows_of_proper (hname : Proper name) : Follows name := by
  intro history last first hlast hfirst hlevel level text hpositive
  have hmade := configured_hierarchyFor history name
  rw [hmade.writes_eq hfirst (standsBelow_loggerName_iff.mpr hname) hpositive,
    hmade.threshold_eq hlast hlevel]

/-- A provider is asked for the logger with two dots, and sets the base logger up on the way. -/
def askedHistory : List Operation :=
  [.ask 0 (some "."), .provide 0 .info ⟨.stream 1, false⟩]

theorem hierarchy_askedHistory : (Configuration.after askedHistory).hierarchy =
    ⟨.info, [⟨.stream 1, false⟩], false, [nameBelow ".", baseName], []⟩ := by
  decide

/-- After one history, no logger of an improper name is below the base logger. -/
theorem not_isBelowBase_of_not_proper (hname : ¬ Proper name) :
    ¬ (hierarchyFor askedHistory name).isBelowBase (loggerName name) = true :=
  Hierarchy.not_isBelowBase_meet (by rw [hierarchy_askedHistory])
    (mt standsBelow_loggerName_iff.mp hname)

theorem not_follows_of_not_proper (hname : ¬ Proper name) : ¬ Follows name := by
  intro hfollows
  have hwrites := hfollows askedHistory (.info, ⟨.stream 1, false⟩) (.info, ⟨.stream 1, false⟩)
    rfl rfl (by decide) .error "" (by decide)
  have hnew : List.lookup (loggerName name, Level.error)
      (hierarchyFor askedHistory name).remembered = none := by
    simp [hierarchyFor, hierarchy_askedHistory]
  rw [Hierarchy.writes_of_not_isBelowBase (not_isBelowBase_of_not_proper hname) hnew (by decide)]
    at hwrites
  split at hwrites <;> simp at hwrites

/-- A name is proper exactly if its logger is below the base logger after every history. -/
theorem isBelowBase_iff_proper :
    (∀ history, (hierarchyFor history name).isBelowBase (loggerName name) = true) ↔
      Proper name := by
  refine ⟨fun hbelow => ?_, isBelowBase_of_proper⟩
  by_contra hname
  exact not_isBelowBase_of_not_proper hname (hbelow askedHistory)

end Names

/-- A name that goes on from the base logger's with another character than a dot asks for a logger
beside it. -/
theorem not_isBelowBase_of_stray {rest : String} (hempty : rest ≠ "")
    (hdot : rest.toList.head? ≠ some '.') (h : Hierarchy) :
    ¬ h.isBelowBase (loggerName (some (baseName ++ rest))) = true := by
  have hlogger : loggerName (some (baseName ++ rest)) = baseName ++ rest := by
    rw [loggerName_some (by simp [baseName]), if_pos (Text.startsWith_append baseName rest)]
  rw [hlogger]
  intro hbelow
  obtain hbase | ⟨later, hlater⟩ := Hierarchy.eq_of_isBelowBase hbelow
  · exact hempty (String.append_eq_left_iff.mp hbase)
  · rw [nameBelow, String.append_assoc, String.append_right_inj] at hlater
    exact hdot (by simp [hlater])

/-- The records of the logger that a name asks for are written as the base logger says, and this
logger is the base logger or stands below it, each in every history exactly if the name is proper. A
name that goes on from the base logger's without a dot is so in none. -/
theorem follows_iff_proper (name : Option String) :
    (Follows name ↔ Proper name) ∧
    ((∀ history, (hierarchyFor history name).isBelowBase (loggerName name) = true) ↔ Proper name) ∧
    ∀ rest : String, name = some (baseName ++ rest) → rest ≠ "" → rest.toList.head? ≠ some '.' →
      ∀ history, (hierarchyFor history name).reached (loggerName name) = [] := by
  refine ⟨⟨fun hfollows => ?_, follows_of_proper⟩, isBelowBase_iff_proper, ?_⟩
  · by_contra hname
    exact not_follows_of_not_proper hname hfollows
  · rintro rest rfl hempty hdot history
    exact if_neg (not_isBelowBase_of_stray hempty hdot _)

/-- A name that begins as the base logger's by chance. -/
theorem follows_iff_proper_stray :
    some "ldproxyfoo" = some (baseName ++ "foo") ∧ "foo" ≠ "" ∧ "foo".toList.head? ≠ some '.' ∧
    ¬ Follows (some "ldproxyfoo") ∧
    ∀ history, (hierarchyFor history (some "ldproxyfoo")).reached "ldproxyfoo" = [] := by
  obtain ⟨hfollows, hbelow, hnever⟩ := follows_iff_proper (some "ldproxyfoo")
  have hreached := hnever "foo" (by decide) (by decide) (by decide)
  refine ⟨by decide, by decide, by decide, ?_, hreached⟩
  intro hproper
  have hbase := hbelow.mpr (hfollows.mp hproper) []
  revert hbase
  decide

/-- The base logger is set up for another stream than standard error, where a record of such a name
comes to nevertheless. -/
theorem stray_record_misses_handler :
    let history : List Operation := [.setUp .info ⟨.stream 1, false⟩]
    let h := hierarchyFor history (some "ldproxyfoo")
    setUps history = [(.info, ⟨.stream 1, false⟩)] ∧
    loggerName (some "ldproxyfoo") = "ldproxyfoo" ∧ h.isBelowBase "ldproxyfoo" = false ∧
    h.writes ⟨.error, "ldproxyfoo", "m"⟩ = [(.standardError, "m\n")] := by
  decide

end LinkRelay.Log
