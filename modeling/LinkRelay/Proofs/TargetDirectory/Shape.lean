import LinkRelay.Proofs.Path
import LinkRelay.Proofs.TargetDirectory

namespace LinkRelay.TargetDirectory

/-- The path of a dependency: behind a directory `target` comes a directory `deps`, maybe the next
one. -/
def IsDependency (token : String) : Prop :=
  ∃ above below, token = above ++ "/target/" ++ below ∧ Text.contains ("/" ++ below) "/deps/" = true

section Selects

variable {tokens : List String} {token kept : String}

/-- What is kept of the path of a dependency still goes through its directory `target`. -/
theorem Selects.contains_kept (hselects : Selects .usual tokens token kept)
    (htoken : IsDependency token) : Text.contains (kept ++ "/") "/target/" = true := by
  obtain ⟨above, below, hbelow, hdeps⟩ := htoken
  obtain ⟨between, artifact, hbetween⟩ := Text.contains_iff.mp hdeps
  have htarget : token = above ++ "/target" ++ ("/" ++ below) := by
    rw [hbelow]
    simp only [String.append_assoc]
    rfl
  obtain ⟨more, hmore⟩ := hselects.last (above ++ "/target" ++ between) artifact <| by
    rw [htarget, hbetween]
    simp only [String.append_assoc]
    rfl
  obtain ⟨behind, hbehind⟩ := hselects.stands
  -- What stands behind `/target` begins with a slash, and is kept up to a slash at least.
  have hrest : between ++ more ++ "/" ++ ("deps/" ++ behind) = "/" ++ below := by
    rw [← String.append_right_inj (above ++ "/target"), ← htarget, hbehind, hmore]
    simp only [String.append_assoc]
    rfl
  have hslash : Text.startsWith (between ++ more ++ "/") "/" = true := by
    rw [← Text.startsWith_slash_append (by simp) ("deps/" ++ behind), hrest]
    exact Text.startsWith_append "/" below
  obtain ⟨rest, hstart⟩ := Text.startsWith_iff.mp hslash
  refine Text.contains_iff.mpr ⟨above, rest, ?_⟩
  calc kept ++ "/" = above ++ "/target" ++ (between ++ more ++ "/") := by
        rw [hmore]
        simp only [String.append_assoc]
    _ = above ++ ("/target" ++ "/") ++ rest := by
        rw [hstart]
        simp only [String.append_assoc]

/-- A token is the path of a dependency if a way through a directory `target` is kept of it. -/
theorem Selects.isDependency (hselects : Selects .usual tokens token kept)
    (hkept : Text.contains (kept ++ "/") "/target/" = true) : IsDependency token := by
  obtain ⟨above, below, hbelow⟩ := Text.contains_iff.mp hkept
  obtain ⟨artifact, hartifact⟩ := hselects.stands
  have hslash : kept ++ "/" = above ++ "/target" ++ ("/" ++ below) := by
    rw [hbelow]
    simp only [String.append_assoc]
    rfl
  obtain ⟨between, hbetween⟩ := Text.exists_append_slash (by simp) hslash
  refine ⟨above, below ++ ("deps/" ++ artifact), ?_, Text.contains_iff.mpr ⟨between, artifact, ?_⟩⟩
  · calc token = kept ++ "/" ++ ("deps/" ++ artifact) := by
          rw [hartifact]
          simp only [String.append_assoc]
          rfl
      _ = above ++ "/target/" ++ (below ++ ("deps/" ++ artifact)) := by
          rw [hbelow]
          simp only [String.append_assoc]
  · calc "/" ++ (below ++ ("deps/" ++ artifact)) = between ++ "/" ++ ("deps/" ++ artifact) := by
          rw [← hbetween, String.append_assoc]
      _ = between ++ "/deps/" ++ artifact := by
          simp only [String.append_assoc]
          rfl

/-- A text that goes through a directory `target` names a path with such a part. -/
theorem target_mem_parts (hkept : Text.contains (kept ++ "/") "/target/" = true) :
    "target" ∈ (Path.ofString kept).parts := by
  have hsplit : "target" ∈ Text.split '/' kept :=
    Text.mem_split_of_contains (by decide) (by decide) hkept
  simpa [Path.ofString] using hsplit

end Selects

/-- Tokens imply the target directory that the first of them with both marks tells, and none if
there is no such token. What is implied lies below a directory `target` exactly if that token is the
path of a dependency, where `deps` comes behind `target`. -/
theorem infer_below_target_iff (tokens : List String) (disk : Disk) :
    ((∀ token ∈ tokens, ¬ Marked .usual token) ∧ (infer .usual tokens disk).answer = .ok none ∨
      ∃ token kept, Selects .usual tokens token kept ∧
        (infer .usual tokens disk).answer = .ok (some (Path.ofString kept))) ∧
    ∀ token kept, Selects .usual tokens token kept →
      (Text.contains (kept ++ "/") "/target/" = true ↔ IsDependency token) ∧
      (IsDependency token → "target" ∈ (Path.ofString kept).parts) :=
  ⟨answer_infer_cases .usual tokens disk, fun _ _ hselects =>
    ⟨⟨hselects.isDependency, hselects.contains_kept⟩,
      fun htoken => target_mem_parts (hselects.contains_kept htoken)⟩⟩

/-- A dependency of a project that is itself below a directory `deps`. -/
theorem infer_below_target_iff_nested :
    let tokens := ["-o", "/w/deps/app", "/w/deps/app/target/debug/deps/libx.rlib"]
    Selects .usual tokens "/w/deps/app/target/debug/deps/libx.rlib" "/w/deps/app/target/debug" ∧
    IsDependency "/w/deps/app/target/debug/deps/libx.rlib" ∧
    "target" ∈ (Path.ofString "/w/deps/app/target/debug").parts := by
  intro tokens
  have hselects : Selects .usual tokens "/w/deps/app/target/debug/deps/libx.rlib"
      "/w/deps/app/target/debug" := candidate?_eq_some_iff.mp (by decide)
  obtain ⟨-, hshape⟩ := infer_below_target_iff tokens ⟨[], []⟩
  obtain ⟨hiff, hparts⟩ := hshape _ _ hselects
  have htoken := hiff.mp (by decide)
  exact ⟨hselects, htoken, hparts htoken⟩

/-- A library of such a project that is no dependency: the directory above the project is implied,
whatever dependencies come behind it. -/
theorem infer_above_target :
    let token := "/w/deps/app/target/debug/libx.rlib"
    Selects .usual [token] token "/w" ∧ Text.contains ("/w" ++ "/") "/target/" = false ∧
    ∀ behind disk, (infer .usual (token :: behind) disk).answer = .ok (some ⟨.slash, ["w"]⟩) := by
  intro token
  have hselects : Selects .usual [token] token "/w" := candidate?_eq_some_iff.mp (by decide)
  refine ⟨hselects, by decide, fun behind disk => ?_⟩
  have hcandidate : candidate? .usual (token :: behind) = some (token, "/w") :=
    candidate?_eq_some_iff.mpr { hselects with first := ⟨[], behind, rfl, by simp⟩ }
  have hdirectory : Path.ofString "/w" = ⟨.slash, ["w"]⟩ := by decide
  rw [answer_infer, hcandidate, Option.map_some, hdirectory]

end LinkRelay.TargetDirectory
