import LinkRelay.Library

namespace LinkRelay.Library

/-- Keeps each token unless it has the given start and comes again later. -/
def keepLast (start : String) : List String → List String
  | [] => []
  | token :: rest =>
    if Text.startsWith token start = true ∧ token ∈ rest then keepLast start rest
    else token :: keepLast start rest

/-- A token in front of a list is no library flag that comes again there. -/
def Lasts (start : String) (rest : List String) (token : String) : Prop :=
  ¬ (Text.startsWith token start = true ∧ token ∈ rest)

instance (start : String) (rest : List String) : DecidablePred (Lasts start rest) :=
  fun token => inferInstanceAs (Decidable (¬ (Text.startsWith token start = true ∧ token ∈ rest)))

theorem keepLast_cons_of_lasts {start token : String} {rest : List String}
    (hlasts : Lasts start rest token) :
    keepLast start (token :: rest) = token :: keepLast start rest := by
  rw [keepLast, if_neg hlasts]

theorem keepLast_cons_of_not_lasts {start token : String} {rest : List String}
    (hlasts : ¬ Lasts start rest token) : keepLast start (token :: rest) = keepLast start rest := by
  rw [keepLast, if_pos (Decidable.of_not_not hlasts)]

namespace Tally

theorem count?_set (tally : Tally) (token : String) (n : Nat) (key : String) :
    (tally.set token n).count? key = if key = token then some n else tally.count? key := by
  induction tally with
  | nil => grind [set, count?]
  | cons entry tally ih =>
    obtain ⟨t, m⟩ := entry
    by_cases htoken : t = token
    · grind [set, count?]
    · rw [count?] at ih ⊢
      rw [set, if_neg htoken, List.lookup_cons, ih, count?, count?, List.lookup_cons]
      grind

/-- A tally that goes through a list has counted each of its tokens as often as it is there. -/
private theorem count?_foldl_set (tokens : List String) (tally : Tally) (key : String) :
    count? (tokens.foldl (fun t token => t.set token ((t.count? token).getD 0 + 1)) tally) key =
      if key ∈ tokens then some ((tally.count? key).getD 0 + tokens.count key)
      else tally.count? key := by
  induction tokens generalizing tally with
  | nil => simp
  | cons token tokens ih =>
    rw [List.foldl_cons, ih, count?_set]
    by_cases hkey : key = token
    · subst hkey
      by_cases hmem : key ∈ tokens
      · simp [hmem, Nat.add_assoc, Nat.add_comm]
      · simp [hmem, List.count_eq_zero.mpr hmem]
    · simp [hkey, Ne.symm hkey]

/-- Each text that was counted has its number, and no other text has one. -/
theorem count?_ofList (tokens : List String) (key : String) :
    (ofList tokens).count? key = if key ∈ tokens then some (tokens.count key) else none := by
  rw [ofList, count?_foldl_set]
  simp [count?]

end Tally

/-- While the tally holds how often each library flag is still to come, the one pass keeps what
looking ahead keeps. -/
theorem countDown_eq_keepLast (start : String) {tally : Tally} {tokens : List String}
    (hcounts : ∀ token ∈ tokens, tally.count? token =
      if Text.startsWith token start = true then some (tokens.count token) else none) :
    countDown tally tokens = keepLast start tokens := by
  induction tokens generalizing tally with
  | nil => rfl
  | cons token rest ih =>
    have htoken := hcounts token List.mem_cons_self
    by_cases hstart : Text.startsWith token start = true
    · rw [if_pos hstart, List.count_cons_self] at htoken
      have hrest : countDown (tally.set token (rest.count token)) rest = keepLast start rest := by
        apply ih
        intro t ht
        rw [Tally.count?_set]
        by_cases heq : t = token
        · simp [heq, hstart]
        · rw [if_neg heq, hcounts t (List.mem_cons_of_mem _ ht),
            List.count_cons_of_ne (Ne.symm heq)]
      simp only [countDown, htoken, Nat.add_sub_cancel, hrest, List.count_eq_zero, keepLast, hstart,
        true_and]
      split <;> simp_all
    · rw [if_neg hstart] at htoken
      simp only [countDown, htoken, keepLast, hstart, Bool.false_eq_true, false_and, if_false]
      refine congrArg _ (ih fun t ht => ?_)
      rw [hcounts t (List.mem_cons_of_mem _ ht)]
      split
      · rename_i htstart
        rw [List.count_cons_of_ne]
        rintro rfl
        exact hstart htstart
      · rfl

/-- Collapsing keeps each token unless it has the given start and comes again later. -/
theorem collapse_eq_keepLast (start : String) (tokens : List String) :
    collapse start tokens = keepLast start tokens := by
  apply countDown_eq_keepLast
  intro token htoken
  have hcounted : token ∈ tokens.filter (fun t => Text.startsWith t start) ↔
      Text.startsWith token start = true := by
    simp [htoken]
  rw [Tally.count?_ofList]
  by_cases hstart : Text.startsWith token start = true
  · rw [if_pos (hcounted.mpr hstart), if_pos hstart,
      List.count_filter (p := fun t => Text.startsWith t start) hstart]
  · rw [if_neg (mt hcounted.mp hstart), if_neg hstart]

/-- Tokens of another start keep their order and their number. -/
theorem filter_keepLast (start : String) (tokens : List String) :
    ((keepLast start tokens).filter fun t => !Text.startsWith t start) =
      tokens.filter fun t => !Text.startsWith t start := by
  induction tokens with
  | nil => rfl
  | cons token rest ih =>
    rw [keepLast]
    split
    · rename_i hdropped
      simp [hdropped.1, ih]
    · rw [List.filter_cons, List.filter_cons, ih]

/-- Every token stays somewhere. -/
theorem mem_keepLast {start token : String} {tokens : List String} :
    token ∈ keepLast start tokens ↔ token ∈ tokens := by
  induction tokens with
  | nil => rfl
  | cons t rest ih =>
    rw [keepLast]
    split
    · rename_i hdropped
      grind
    · simp [ih]

/-- Of equal library flags exactly one is kept. -/
theorem count_keepLast {start token : String} {tokens : List String}
    (hstart : Text.startsWith token start = true) (hmem : token ∈ tokens) :
    (keepLast start tokens).count token = 1 := by
  induction tokens with
  | nil => cases hmem
  | cons t rest ih =>
    rw [keepLast]
    by_cases heq : t = token
    · subst heq
      by_cases hrest : t ∈ rest
      · simpa [hstart, hrest] using ih hrest
      · have hnone : (keepLast start rest).count t = 0 :=
          List.count_eq_zero.mpr fun hkept => hrest (mem_keepLast.mp hkept)
        simp [hrest, hnone]
    · have hrest : token ∈ rest := by grind
      split
      · exact ih hrest
      · rw [List.count_cons_of_ne heq, ih hrest]

end LinkRelay.Library
