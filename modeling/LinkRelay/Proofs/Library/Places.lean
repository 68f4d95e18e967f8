import LinkRelay.Proofs.Library.KeepLast
import Mathlib.Data.List.FinRange

namespace LinkRelay.Library

/-- The token at a place has not the given start, or it comes at no later place again. -/
def Stays (start : String) (tokens : List String) (i : Fin tokens.length) : Prop :=
  ¬ Text.startsWith (tokens.get i) start = true ∨ ∀ j, i < j → tokens.get j ≠ tokens.get i

instance (start : String) (tokens : List String) : DecidablePred (Stays start tokens) :=
  fun i => inferInstanceAs (Decidable (¬ Text.startsWith (tokens.get i) start = true ∨
    ∀ j, i < j → tokens.get j ≠ tokens.get i))

/-- The places of the tokens that stay, in order. -/
def places (start : String) (tokens : List String) : List (Fin tokens.length) :=
  (List.finRange tokens.length).filter fun i => Stays start tokens i

variable {start token : String} {tokens rest : List String}

/-- The places that are kept are those at which a token stays. -/
theorem mem_places_iff {i : Fin tokens.length} :
    i ∈ places start tokens ↔ Stays start tokens i := by
  simp [places]

/-- After the first place come all the others. -/
theorem forall_after_zero_iff (first : String) :
    (∀ j : Fin (rest.length + 1), 0 < j → (first :: rest).get j ≠ token) ↔ token ∉ rest := by
  rw [Fin.forall_fin_succ, List.mem_iff_get, not_exists]
  simp

/-- What comes after a place of the rest comes after it in the whole. -/
theorem forall_after_succ_iff (first : String) {i : Fin rest.length} :
    (∀ j : Fin (rest.length + 1), i.succ < j → (first :: rest).get j ≠ token) ↔
      ∀ j, i < j → rest.get j ≠ token := by
  rw [Fin.forall_fin_succ]
  simp

theorem stays_zero_iff :
    Stays start (token :: rest) (0 : Fin (rest.length + 1)) ↔ Lasts start rest token := by
  rw [Lasts, not_and_or]
  exact or_congr Iff.rfl (forall_after_zero_iff token)

theorem stays_succ_iff {i : Fin rest.length} :
    Stays start (token :: rest) i.succ ↔ Stays start rest i :=
  or_congr Iff.rfl (forall_after_succ_iff token)

/-- The places of a longer list are those of its rest, one further on, and the first one if its
token lasts. -/
theorem places_cons (start token : String) (rest : List String) :
    places start (token :: rest) =
      if Lasts start rest token then
        (0 : Fin (rest.length + 1)) :: (places start rest).map Fin.succ
      else (places start rest).map Fin.succ := by
  have hplaces : List.finRange (token :: rest).length =
      (0 : Fin (rest.length + 1)) :: (List.finRange rest.length).map Fin.succ := List.finRange_succ
  have hrest : ((List.finRange rest.length).map Fin.succ).filter
      (fun i => Stays start (token :: rest) i) = (places start rest).map Fin.succ := by
    rw [List.filter_map, places]
    exact congrArg _ (List.filter_congr fun i _ => by simp [stays_succ_iff])
  rw [places, hplaces, List.filter_cons, hrest]
  simp only [decide_eq_true_eq, stays_zero_iff]

/-- What looking ahead keeps stands at the places where tokens stay. -/
theorem keepLast_eq_map_places (start : String) (tokens : List String) :
    keepLast start tokens = (places start tokens).map tokens.get := by
  induction tokens with
  | nil => rfl
  | cons token rest ih =>
    have hrest : ((places start rest).map Fin.succ).map (token :: rest).get =
        keepLast start rest := by
      rw [ih, List.map_map]
      rfl
    by_cases hlasts : Lasts start rest token
    · rw [keepLast_cons_of_lasts hlasts, places_cons, if_pos hlasts, List.map_cons, hrest]
      rfl
    · rw [keepLast_cons_of_not_lasts hlasts, places_cons, if_neg hlasts, hrest]

/-- A token of a list has a last place there. -/
theorem exists_last_place (hmem : token ∈ tokens) :
    ∃ i : Fin tokens.length, tokens.get i = token ∧ ∀ j, i < j → tokens.get j ≠ token := by
  induction tokens with
  | nil => cases hmem
  | cons first rest ih =>
    by_cases hrest : token ∈ rest
    · obtain ⟨i, hi, hlast⟩ := ih hrest
      exact ⟨i.succ, hi, (forall_after_succ_iff first).mpr hlast⟩
    · obtain rfl := (List.mem_cons.mp hmem).resolve_right hrest
      exact ⟨(0 : Fin (rest.length + 1)), rfl, (forall_after_zero_iff token).mpr hrest⟩

/-- Collapsing in one pass keeps exactly the tokens at those places where looking ahead says that
they stay. So each library flag is kept once, where it comes last, and all other tokens keep their
order and their number. -/
theorem collapse_eq_map_places (start : String) (tokens : List String) :
    collapse start tokens = (places start tokens).map tokens.get ∧
    (∀ token ∈ tokens, Text.startsWith token start = true →
      (collapse start tokens).count token = 1 ∧
      ∃ i ∈ places start tokens, tokens.get i = token ∧ ∀ j, i < j → tokens.get j ≠ token) ∧
    ((collapse start tokens).filter fun t => !Text.startsWith t start) =
      tokens.filter fun t => !Text.startsWith t start := by
  rw [collapse_eq_keepLast]
  refine ⟨keepLast_eq_map_places start tokens, fun token hmem hstart => ?_,
    filter_keepLast start tokens⟩
  obtain ⟨i, rfl, hlast⟩ := exists_last_place hmem
  exact ⟨count_keepLast hstart hmem, i, mem_places_iff.mpr (Or.inr hlast), rfl, hlast⟩

/-- With the empty start every token counts as a library flag. -/
theorem collapse_eq_map_places_unmarked :
    collapse "" ["-lm", "a.o", "-lfoo", "a.o", "-lm"] = ["-lfoo", "a.o", "-lm"] ∧
    "a.o" ∈ ["-lm", "a.o", "-lfoo", "a.o", "-lm"] ∧ Text.startsWith "a.o" "" = true ∧
    (collapse "" ["-lm", "a.o", "-lfoo", "a.o", "-lm"]).count "a.o" = 1 := by
  obtain ⟨hkept, honce, -⟩ := collapse_eq_map_places "" ["-lm", "a.o", "-lfoo", "a.o", "-lm"]
  have hmem : "a.o" ∈ ["-lm", "a.o", "-lfoo", "a.o", "-lm"] := by decide
  have hstart : Text.startsWith "a.o" "" = true := by decide
  exact ⟨hkept.trans (by decide), hmem, hstart, (honce _ hmem hstart).1⟩

end LinkRelay.Library
