import LinkRelay.Proofs.Step
import LinkRelay.Proofs.Text.Search
import LinkRelay.TargetDirectory

namespace LinkRelay.TargetDirectory

theorem infer_quiet (marks : Marks) (tokens : List String) : (infer marks tokens).Quiet := by
  rw [infer]
  split
  · exact .pure _
  · exact .bind (.log ..) fun _ => .bind (.log ..) fun _ => .pure _

/-- The target directory is the path that the first marked token tells. -/
theorem answer_infer (marks : Marks) (tokens : List String) (disk : Disk) :
    (infer marks tokens disk).answer =
      .ok ((candidate? marks tokens).map fun candidate => Path.ofString candidate.2) := by
  rw [infer]
  cases candidate? marks tokens <;> rfl

/-- A token holds both marks, in whatever order. -/
def Marked (marks : Marks) (token : String) : Prop :=
  Text.contains token marks.target = true ∧ Text.contains token marks.dependencies = true

/-- The first of some tokens that holds both marks, and its part before the last mark of
dependencies. -/
structure Selects (marks : Marks) (tokens : List String) (token kept : String) : Prop where
  first : ∃ before behind, tokens = before ++ token :: behind ∧
    ∀ other ∈ before, ¬ Marked marks other
  target : Text.contains token marks.target = true
  stands : ∃ behind, token = kept ++ marks.dependencies ++ behind
  last : ∀ before behind, token = before ++ marks.dependencies ++ behind →
    ∃ more, kept = before ++ more

/-- What is kept of a token that holds both marks. -/
def kept? (marks : Marks) (token : String) : Option String :=
  if Text.contains token marks.target then Text.beforeLast? marks.dependencies token else none

section Selects

variable {marks : Marks} {tokens : List String} {token kept : String}

theorem kept?_eq_none_iff : kept? marks token = none ↔ ¬ Marked marks token := by
  by_cases htarget : Text.contains token marks.target = true <;>
    simp [kept?, Marked, htarget, Text.beforeLast?_eq_none_iff]

/-- Of a marked token, what stands before its last `deps` is kept, wherever its `target` is. -/
theorem kept?_eq_some_iff : kept? marks token = some kept ↔
    Text.contains token marks.target = true ∧
      Text.beforeLast? marks.dependencies token = some kept :=
  Option.ite_none_right_eq_some

/-- The first token that tells something is taken. -/
theorem candidate?_eq_findSome? (marks : Marks) (tokens : List String) :
    candidate? marks tokens =
      tokens.findSome? fun token => (kept? marks token).map fun kept => (token, kept) := by
  induction tokens with
  | nil => rfl
  | cons token rest ih =>
    rw [candidate?, List.findSome?_cons, kept?, ← ih]
    cases Text.beforeLast? marks.dependencies token <;>
      cases Text.contains token marks.target <;> simp

/-- Tokens imply no target directory exactly if none of them holds both marks. -/
theorem candidate?_eq_none_iff :
    candidate? marks tokens = none ↔ ∀ token ∈ tokens, ¬ Marked marks token := by
  simp only [candidate?_eq_findSome?, List.findSome?_eq_none_iff, Option.map_eq_none_iff,
    kept?_eq_none_iff]

/-- The token that is taken is the first one with both marks, with no marked token before it. -/
theorem candidate?_eq_some_iff :
    candidate? marks tokens = some (token, kept) ↔ Selects marks tokens token kept := by
  simp only [candidate?_eq_findSome?, List.findSome?_eq_some_iff, Option.map_eq_some_iff,
    Option.map_eq_none_iff, kept?_eq_none_iff, kept?_eq_some_iff, Prod.mk.injEq]
  constructor
  · rintro ⟨before, _, behind, htokens, ⟨_, ⟨htarget, hkept⟩, rfl, rfl⟩, hbefore⟩
    obtain ⟨hstands, hlast⟩ := Text.beforeLast?_eq_some_iff.mp hkept
    exact ⟨⟨before, behind, htokens, hbefore⟩, htarget, hstands, hlast⟩
  · rintro ⟨⟨before, behind, htokens, hbefore⟩, htarget, hstands, hlast⟩
    exact ⟨before, token, behind, htokens,
      ⟨kept, ⟨htarget, Text.beforeLast?_eq_some_iff.mpr ⟨hstands, hlast⟩⟩, rfl, rfl⟩, hbefore⟩

/-- Tokens imply the target directory that the first of them with both marks tells, or none at
all. -/
theorem answer_infer_cases (marks : Marks) (tokens : List String) (disk : Disk) :
    (∀ token ∈ tokens, ¬ Marked marks token) ∧ (infer marks tokens disk).answer = .ok none ∨
    ∃ token kept, Selects marks tokens token kept ∧
      (infer marks tokens disk).answer = .ok (some (Path.ofString kept)) := by
  rw [answer_infer]
  cases hcandidate : candidate? marks tokens with
  | none => exact Or.inl ⟨candidate?_eq_none_iff.mp hcandidate, rfl⟩
  | some found => exact Or.inr ⟨found.1, found.2, candidate?_eq_some_iff.mp hcandidate, rfl⟩

end Selects

end LinkRelay.TargetDirectory
