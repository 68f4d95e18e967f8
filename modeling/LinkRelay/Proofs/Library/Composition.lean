import LinkRelay.Proofs.Library.KeepLast

namespace LinkRelay.Library

variable {start token : String} {rest front back : List String}

/-- A token lasts before a composed list exactly if it lasts before both of its parts. -/
theorem lasts_append_iff :
    Lasts start (front ++ back) token ↔ Lasts start front token ∧ Lasts start back token := by
  simp only [Lasts, List.mem_append, and_or_left, not_or]

/-- What was dropped comes again, so that a token lasts before the list as it lasts before the rest
of it. -/
theorem lasts_keepLast_iff : Lasts start (keepLast start rest) token ↔ Lasts start rest token := by
  rw [Lasts, mem_keepLast, Lasts]

/-- Dropping other tokens does not make a token last that did not. -/
theorem lasts_filter_iff {p : String → Bool} (hp : p token = true) :
    Lasts start (rest.filter p) token ↔ Lasts start rest token := by
  simp only [Lasts, List.mem_filter, hp, and_true]

/-- Equal tokens are left out together, so that the last of those that are left is the last there
was. -/
theorem keepLast_filter (start : String) (p : String → Bool) (tokens : List String) :
    keepLast start (tokens.filter p) = (keepLast start tokens).filter p := by
  induction tokens with
  | nil => rfl
  | cons token rest ih =>
    by_cases hp : p token = true
    · rw [List.filter_cons_of_pos hp]
      by_cases hlasts : Lasts start rest token
      · rw [keepLast_cons_of_lasts ((lasts_filter_iff hp).mpr hlasts), ih,
          keepLast_cons_of_lasts hlasts, List.filter_cons_of_pos hp]
      · rw [keepLast_cons_of_not_lasts (mt (lasts_filter_iff hp).mp hlasts), ih,
          keepLast_cons_of_not_lasts hlasts]
    · rw [List.filter_cons_of_neg hp, ih]
      by_cases hlasts : Lasts start rest token
      · rw [keepLast_cons_of_lasts hlasts, List.filter_cons_of_neg hp]
      · rw [keepLast_cons_of_not_lasts hlasts]

/-- What stays of two lists: of the first one what lasts, and of the second one what would stay of
it alone. -/
theorem keepLast_append (start : String) (front back : List String) :
    keepLast start (front ++ back) =
      (keepLast start front).filter (fun t => Lasts start back t) ++ keepLast start back := by
  induction front with
  | nil => rfl
  | cons token rest ih =>
    rw [List.cons_append]
    -- A token that comes again behind is left out of the first part either way: there because it
    -- comes again, or here because it does not last.
    by_cases hback : Lasts start back token
    · by_cases hrest : Lasts start rest token
      · rw [keepLast_cons_of_lasts (lasts_append_iff.mpr ⟨hrest, hback⟩), ih,
          keepLast_cons_of_lasts hrest, List.filter_cons_of_pos (by simpa using hback),
          List.cons_append]
      · rw [keepLast_cons_of_not_lasts fun h => hrest (lasts_append_iff.mp h).1, ih,
          keepLast_cons_of_not_lasts hrest]
    · rw [keepLast_cons_of_not_lasts fun h => hback (lasts_append_iff.mp h).2, ih]
      by_cases hrest : Lasts start rest token
      · rw [keepLast_cons_of_lasts hrest, List.filter_cons_of_neg (by simpa using hback)]
      · rw [keepLast_cons_of_not_lasts hrest]

/-- A list that was collapsed has nothing more to lose. -/
theorem keepLast_idem (start : String) (tokens : List String) :
    keepLast start (keepLast start tokens) = keepLast start tokens := by
  induction tokens with
  | nil => rfl
  | cons token rest ih =>
    by_cases hlasts : Lasts start rest token
    · rw [keepLast_cons_of_lasts hlasts, keepLast_cons_of_lasts (lasts_keepLast_iff.mpr hlasts), ih]
    · rw [keepLast_cons_of_not_lasts hlasts, ih]

/-- Collapsing may be done to the parts of a list before it is done to the whole, and more than
once. Of what is put behind a list nothing gives way to what was there before: collapsing the whole
takes from the list in front the library flags that come again, and leaves what is behind as if it
stood alone. -/
theorem collapse_early_or_late (start : String) (front back : List String) :
    collapse start (collapse start front ++ back) = collapse start (front ++ back) ∧
    collapse start (front ++ collapse start back) = collapse start (front ++ back) ∧
    collapse start (collapse start front) = collapse start front ∧
    collapse start (front ++ back) =
      collapse start (front.filter fun t => ¬ (Text.startsWith t start = true ∧ t ∈ back)) ++
        collapse start back ∧
    collapse start back <:+ collapse start (front ++ back) := by
  simp only [collapse_eq_keepLast]
  have happend : keepLast start (front ++ back) =
      keepLast start (front.filter fun t => Lasts start back t) ++ keepLast start back := by
    rw [keepLast_append, keepLast_filter]
  refine ⟨?_, ?_, keepLast_idem start front, happend, ?_⟩
  · rw [keepLast_append, keepLast_idem, ← keepLast_append]
  · simp only [keepLast_append, keepLast_idem, lasts_keepLast_iff]
  · rw [happend]
    exact List.suffix_append _ _

end LinkRelay.Library
