import LinkRelay.Linker
import LinkRelay.Proofs.Step

namespace LinkRelay.Linker

theorem fromEnvironment_quiet (env : Environment) (sources : Sources) :
    (fromEnvironment env sources).Quiet := by
  rw [fromEnvironment]
  split
  · exact .bind (.log ..) fun _ => .pure _
  · exact .pure _

theorem fromSearchPath_quiet (host : Host) (env : Environment) (sources : Sources) :
    (fromSearchPath host env sources).Quiet := by
  refine .bind (.look_ok _) fun found => ?_
  cases found with
  | some name => exact .bind (.log ..) fun _ => .pure _
  | none => exact .pure _

/-- Finding the linker reads the environment and the disk and does nothing else. -/
theorem resolve_quiet (host : Host) (env : Environment) (sources : Sources)
    (asked : Option String) : (resolve host env sources asked).Quiet := by
  rw [resolve]
  split
  · exact .pure _
  · refine .bind (fromEnvironment_quiet env sources) fun named => ?_
    cases named with
    | some linker => exact .pure _
    | none =>
      refine .bind (fromSearchPath_quiet host env sources) fun found => ?_
      cases found with
      | some linker => exact .pure _
      | none => exact .fail (Fault.regular_link _)

theorem answer_fromEnvironment (env : Environment) (sources : Sources) (disk : Disk) :
    (fromEnvironment env sources disk).answer =
      .ok ((named? env sources.variableNames).map Prod.snd) := by
  rw [fromEnvironment]
  cases named? env sources.variableNames <;> rfl

theorem answer_fromSearchPath (host : Host) (env : Environment) (sources : Sources) (disk : Disk) :
    (fromSearchPath host env sources disk).answer =
      .ok (sources.candidates.find? (isFound disk (searchPath host env))) := by
  simp only [fromSearchPath, Step.answer_look_bind, Answer.ok_bind]
  cases sources.candidates.find? (isFound disk (searchPath host env)) <;> rfl

/-- The linker is the one asked for, else the one named, else the first on the search path. -/
theorem answer_resolve (host : Host) (env : Environment) (sources : Sources)
    (asked : Option String) (disk : Disk) :
    (resolve host env sources asked disk).answer =
      (((asked.filter (· ≠ "")).or ((named? env sources.variableNames).map Prod.snd)).or
        (sources.candidates.find? (isFound disk (searchPath host env)))).elim
          (.error (.link .linkerNotFound)) .ok := by
  rw [resolve]
  cases asked.filter (· ≠ "") with
  | some linker => rfl
  | none =>
    simp only
    rw [(fromEnvironment_quiet env sources).answer_bind, answer_fromEnvironment, Answer.ok_bind]
    cases (named? env sources.variableNames).map Prod.snd with
    | some linker => rfl
    | none =>
      simp only
      rw [(fromSearchPath_quiet host env sources).answer_bind, answer_fromSearchPath,
        Answer.ok_bind]
      cases sources.candidates.find? (isFound disk (searchPath host env)) <;> rfl

/-- An environment in which one of the variables that may name a linker has a value. -/
def Names (env : Environment) (sources : Sources) : Prop :=
  ∃ name ∈ sources.variableNames, ∃ value, env.get? name = some value ∧ value ≠ ""

theorem named?_eq_none_iff {env : Environment} {sources : Sources} :
    named? env sources.variableNames = none ↔ ¬ Names env sources := by
  simp only [named?, List.findSome?_eq_none_iff, Names, not_exists, not_and]
  refine forall₂_congr fun name _ => ?_
  cases env.get? name with
  | none => simp
  | some value => by_cases hvalue : value = "" <;> simp [hvalue]

/-- Only the variables that are asked for matter. -/
theorem named?_congr {env env' : Environment} {variableNames : List String}
    (hsame : ∀ name ∈ variableNames, env.get? name = env'.get? name) :
    named? env variableNames = named? env' variableNames := by
  induction variableNames with
  | nil => rfl
  | cons name rest ih =>
    obtain ⟨hname, hrest⟩ := List.forall_mem_cons.mp hsame
    have hnamed := ih hrest
    simp only [named?, List.findSome?_cons, hname] at hnamed ⊢
    rw [hnamed]

section Host

variable {host host' : Host} {env : Environment}

/-- Of a host the search path alone matters. -/
theorem resolve_congr (hpath : searchPath host env = searchPath host' env) :
    resolve host env = resolve host' env := by
  funext sources asked
  simp only [resolve, fromSearchPath, hpath]

/-- A search path of one's own hides that of the process. -/
theorem searchPath_of_has (hhas : env.has "PATH" = true) :
    searchPath host env = searchPath host' env := by
  obtain ⟨path, hpath⟩ := Option.isSome_iff_exists.mp hhas
  rw [searchPath, searchPath, hpath]
  rfl

/-- A linker that is asked for is taken as it is. -/
theorem resolve_of_asked {linker : String} (hlinker : linker ≠ "") (sources : Sources) :
    resolve host env sources (some linker) = pure linker := by
  rw [resolve, Option.filter_some_pos (by simpa using hlinker)]

/-- Where the environment names a linker, the search path does not matter. -/
theorem resolve_of_names {sources : Sources} (hnames : Names env sources) (asked : Option String) :
    resolve host env sources asked = resolve host' env sources asked := by
  cases hnamed : named? env sources.variableNames with
  | none => exact absurd hnames (named?_eq_none_iff.mp hnamed)
  | some named =>
    rw [resolve, resolve]
    simp only [fromEnvironment, hnamed]
    rfl

end Host

end LinkRelay.Linker
