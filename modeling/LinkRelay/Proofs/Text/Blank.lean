import LinkRelay.Text.Blank
import Mathlib.Data.List.DropRight

namespace LinkRelay.Text

theorem dropEndWhile_eq_rdropWhile (p : Char → Bool) (text : List Char) :
    dropEndWhile p text = text.rdropWhile p :=
  rfl

section Around

variable {p : Char → Bool} {c : Char}

theorem dropWhile_append_cons (hc : p c = false) (before behind : List Char) :
    (before ++ c :: behind).dropWhile p = before.dropWhile p ++ c :: behind := by
  induction before with
  | nil => simp [hc]
  | cons b before ih =>
    rw [List.cons_append, List.dropWhile_cons, List.dropWhile_cons, ih]
    split <;> rfl

theorem rdropWhile_append_cons (hc : p c = false) (before behind : List Char) :
    (before ++ c :: behind).rdropWhile p = before ++ c :: behind.rdropWhile p := by
  have hreverse : (before ++ c :: behind).reverse = behind.reverse ++ c :: before.reverse := by simp
  rw [List.rdropWhile, hreverse, dropWhile_append_cons hc, List.rdropWhile]
  simp

/-- It does not matter which end is trimmed first. -/
theorem dropWhile_rdropWhile (p : Char → Bool) (text : List Char) :
    (text.rdropWhile p).dropWhile p = (text.dropWhile p).rdropWhile p := by
  by_cases hall : ∀ c ∈ text, p c = true
  · rw [List.rdropWhile_eq_nil_iff.mpr hall, List.dropWhile_eq_nil_iff.mpr hall]
    rfl
  · obtain ⟨c, hmem, hc⟩ : ∃ c ∈ text, p c = false := by simpa using hall
    obtain ⟨before, behind, rfl⟩ := List.append_of_mem hmem
    rw [rdropWhile_append_cons hc, dropWhile_append_cons hc, dropWhile_append_cons hc,
      rdropWhile_append_cons hc]

end Around

/-- Trimming takes the blanks from both ends. -/
theorem toList_trim (text : String) :
    (trim text).toList = (text.toList.dropWhile isBlank).rdropWhile isBlank := by
  rw [trim, String.toList_ofList, dropEndWhile_eq_rdropWhile]

theorem trim_of_blank {text : String} (hblank : ∀ c ∈ text.toList, isBlank c = true) :
    trim text = "" := by
  rw [← String.toList_inj, toList_trim, List.dropWhile_eq_nil_iff.mpr hblank]
  rfl

/-- Of a text with a mark in it that is no blank, trimming leaves the mark, what stands before it
without leading blanks, and what stands behind it without trailing ones. -/
theorem toList_trim_append {mark : String} {c : Char} (hmark : mark.toList = [c])
    (hc : isBlank c = false) (before behind : String) :
    (trim (before ++ mark ++ behind)).toList =
      before.toList.dropWhile isBlank ++ c :: behind.toList.rdropWhile isBlank := by
  have hchars : (before ++ mark ++ behind).toList = before.toList ++ c :: behind.toList := by
    simp [hmark]
  rw [toList_trim, hchars, dropWhile_append_cons hc, rdropWhile_append_cons hc]

theorem trim_dropWhile (text : String) :
    trim (String.ofList (text.toList.dropWhile isBlank)) = trim text := by
  rw [← String.toList_inj, toList_trim, toList_trim, String.toList_ofList,
    List.dropWhile_idempotent]

theorem trim_rdropWhile (text : String) :
    trim (String.ofList (text.toList.rdropWhile isBlank)) = trim text := by
  rw [← String.toList_inj, toList_trim, toList_trim, String.toList_ofList, dropWhile_rdropWhile,
    List.rdropWhile_idempotent]

/-- Trimming adds no character. -/
theorem not_mem_trim {text : String} {c : Char} (hc : c ∉ text.toList) :
    c ∉ (trim text).toList := by
  rw [toList_trim]
  exact fun hmem => hc ((List.dropWhile_suffix _).subset ((List.rdropWhile_prefix _ _).subset hmem))

end LinkRelay.Text
