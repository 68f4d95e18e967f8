import LinkRelay.ControlFlag
import Mathlib.Data.List.Induction

namespace LinkRelay.ControlFlag

/-- The values given for a flag, in order. -/
def valuesFor (flag : String) (given : List (String × String)) : List String :=
  given.filterMap fun (f, value) => if f = flag then some value else none

namespace Table

theorem lookup_record (table : Table) (flag value key : String) :
    List.lookup key (table.record flag value) =
      if key = flag then some (table.values flag ++ [value]) else List.lookup key table := by
  induction table with
  | nil => grind [record, values]
  | cons entry table ih =>
    obtain ⟨f, vs⟩ := entry
    by_cases hflag : f = flag
    · grind [record, values]
    · rw [record, if_neg hflag, List.lookup_cons, ih, List.lookup_cons]
      grind [values]

/-- A value that is recorded comes last among those of its flag. -/
theorem values_record (table : Table) (flag value key : String) :
    (table.record flag value).values key =
      table.values key ++ (if flag = key then [value] else []) := by
  rw [values, lookup_record]
  by_cases hkey : key = flag
  · simp [hkey]
  · simp [hkey, Ne.symm hkey, values]

private theorem values_foldl_record (given : List (String × String)) (table : Table)
    (key : String) : (given.foldl (fun t (flag, value) => record t flag value) table).values key =
      table.values key ++ valuesFor key given := by
  induction given generalizing table with
  | nil => simp [valuesFor]
  | cons entry given ih =>
    obtain ⟨flag, value⟩ := entry
    rw [List.foldl_cons, ih, values_record, List.append_assoc]
    by_cases hflag : flag = key <;> simp [valuesFor, hflag]

private theorem isSome_lookup_foldl_record (given : List (String × String)) (table : Table)
    (key : String) :
    (List.lookup key (given.foldl (fun t (flag, value) => record t flag value) table)).isSome =
      ((List.lookup key table).isSome || given.any fun entry => entry.1 = key) := by
  induction given generalizing table with
  | nil => simp
  | cons entry given ih =>
    obtain ⟨flag, value⟩ := entry
    rw [List.foldl_cons, ih, lookup_record]
    by_cases hflag : key = flag
    · simp [hflag]
    · simp [hflag, Ne.symm hflag]

/-- A flag has the values that the items give it, in their order. -/
theorem values_ofItems (items : List Item) (key : String) :
    (ofItems items).values key = valuesFor key (items.filterMap Item.flag?) :=
  (values_foldl_record _ [] key).trans (List.nil_append _)

/-- A flag is in the table exactly if an item gives it a value. -/
theorem isSome_lookup_ofItems (items : List Item) (key : String) :
    (List.lookup key (ofItems items)).isSome =
      (items.filterMap Item.flag?).any fun entry => entry.1 = key :=
  (isSome_lookup_foldl_record _ [] key).trans (Bool.false_or _)

/-- The flags that there are values for. -/
def names (table : Table) : List String :=
  table.map Prod.fst

/-- A flag that was there stays in its place, and a new one comes last. -/
theorem names_record (table : Table) (flag value : String) :
    (table.record flag value).names =
      if flag ∈ table.names then table.names else table.names ++ [flag] := by
  induction table with
  | nil => rfl
  | cons entry table ih =>
    obtain ⟨f, vs⟩ := entry
    by_cases hflag : f = flag
    · simp [record, names, hflag]
    · rw [record, if_neg hflag]
      simp only [names, List.map_cons, List.mem_cons, Ne.symm hflag, false_or] at ih ⊢
      rw [ih]
      exact apply_ite (f :: ·) ..

private theorem eraseDups_concat (flags : List String) (flag : String) :
    (flags ++ [flag]).eraseDups =
      if flag ∈ flags.eraseDups then flags.eraseDups else flags.eraseDups ++ [flag] := by
  rw [List.eraseDups_append]
  by_cases hmem : flag ∈ flags
  · have hold : [flag].removeAll flags = [] := by simpa [List.removeAll] using hmem
    rw [hold, if_pos (List.mem_eraseDups.mpr hmem), List.eraseDups_nil, List.append_nil]
  · have hnew : [flag].removeAll flags = [flag] := by simpa [List.removeAll] using hmem
    rw [hnew, if_neg (mt List.mem_eraseDups.mp hmem)]
    rfl

/-- The flags are in the order in which they first came. -/
theorem names_ofItems (items : List Item) :
    (ofItems items).names = ((items.filterMap Item.flag?).map Prod.fst).eraseDups := by
  rw [ofItems]
  induction items.filterMap Item.flag? using List.reverseRecOn with
  | nil => rfl
  | append_singleton given entry ih =>
    obtain ⟨flag, value⟩ := entry
    rw [List.foldl_append, List.foldl_cons, List.foldl_nil, names_record, ih, List.map_append]
    exact (eraseDups_concat _ flag).symm

/-- Of two command lines one after the other, the flags of the second come after those of the first,
but for those that came already. -/
theorem names_ofItems_append (front back : List Item) :
    (ofItems (front ++ back)).names =
      (ofItems front).names ++ (ofItems back).names.filter (· ∉ (ofItems front).names) := by
  rw [ofItems, ofItems, ofItems, List.filterMap_append, List.foldl_append]
  generalize List.foldl _ [] (front.filterMap Item.flag?) = table
  induction back.filterMap Item.flag? using List.reverseRecOn with
  | nil => simp [names]
  | append_singleton given entry ih =>
    obtain ⟨flag, value⟩ := entry
    simp only [List.foldl_append, List.foldl_cons, List.foldl_nil, names_record]
    rw [ih]
    grind

/-- The values of a flag in two lists of items come one after the other. -/
theorem values_ofItems_append (front back : List Item) (flag : String) :
    (ofItems (front ++ back)).values flag =
      (ofItems front).values flag ++ (ofItems back).values flag := by
  simp only [values_ofItems, List.filterMap_append, valuesFor]

end Table

end LinkRelay.ControlFlag
