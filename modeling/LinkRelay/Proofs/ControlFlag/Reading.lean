import LinkRelay.ControlFlag
import LinkRelay.Proofs.Answer
import LinkRelay.Proofs.Text.Search

namespace LinkRelay.ControlFlag

/-- A token is a flag together with its value: as it stands it is none, it begins with two hyphens,
and what is before its first equals sign is a flag. -/
structure Vocabulary.Inlines (v : Vocabulary) (token flag value : String) : Prop where
  unknown : ¬ v.knows token = true
  hyphens : Text.startsWith token "--" = true
  written : token = flag ++ "=" ++ value
  first : '=' ∉ flag.toList
  known : v.knows flag = true

/-- A token that is no flag, neither as it stands nor together with a value. -/
def Vocabulary.Passes (v : Vocabulary) (token : String) : Prop :=
  ¬ v.knows token = true ∧ ∀ flag value, ¬ v.Inlines token flag value

variable {v : Vocabulary}

namespace Vocabulary

theorem knows_iff {flag : String} :
    v.knows flag = true ↔ flag ∈ v.valueFlags ∨ flag ∈ v.switches := by
  simp [knows]

/-- A token that is known is a flag, before it is looked at for an equals sign. -/
theorem reading_of_knows {token : String} (hknows : v.knows token = true) :
    v.reading token = .flag token := by
  rw [reading, if_pos hknows]

/-- A token that is not known may be a flag with its value behind an equals sign. -/
theorem Inlines.reading_eq {token flag value : String} (hinlines : v.Inlines token flag value) :
    v.reading token = .flagWithValue flag value := by
  obtain ⟨hunknown, hhyphens, rfl, hfirst, hknown⟩ := hinlines
  have hcut : Text.cutAt? '=' (flag ++ "=" ++ value).toList = some (flag.toList, value.toList) :=
    Text.cutAt?_eq_some_iff.mpr ⟨by simp, hfirst⟩
  rw [reading, if_neg hunknown, if_pos hhyphens]
  simp only [hcut, String.ofList_toList, hknown, if_true]

theorem Passes.reading_eq {token : String} (hpasses : v.Passes token) :
    v.reading token = .passed := by
  obtain ⟨hunknown, hinlines⟩ := hpasses
  rw [reading, if_neg hunknown]
  split
  · split
    · rename_i hhyphens _ name value hcut
      obtain ⟨htoken, hfirst⟩ := Text.cutAt?_eq_some_iff.mp hcut
      rw [if_neg]
      intro hknown
      refine hinlines (String.ofList name) (String.ofList value)
        ⟨hunknown, hhyphens, String.toList_inj.mp ?_, by simpa using hfirst, hknown⟩
      simp [htoken]
    · rfl
  · rfl

/-- A token is passed on, or it is a flag, or it is a flag with its value. -/
theorem token_cases (v : Vocabulary) (token : String) :
    v.Passes token ∨ v.knows token = true ∨ ∃ flag value, v.Inlines token flag value := by
  by_cases hknows : v.knows token = true
  · exact Or.inr (Or.inl hknows)
  · by_cases hinlines : ∃ flag value, v.Inlines token flag value
    · exact Or.inr (Or.inr hinlines)
    · exact Or.inl ⟨hknows, fun flag value h => hinlines ⟨flag, value, h⟩⟩

/-- The items that there may be. Which flag has its value in the next token is decided by the flag
alone, so that the value may be any token at all. -/
inductive Allows (v : Vocabulary) : Item → Prop
  | passed {token : String} : v.Passes token → Allows v (.passed token)
  | switch {flag : String} : flag ∈ v.switches → Allows v (.switch flag flag)
  | switchWithValue {written flag value : String} : flag ∈ v.switches →
      v.Inlines written flag value → Allows v (.switch flag written)
  | inlineValue {written flag value : String} : flag ∉ v.switches →
      v.Inlines written flag value → Allows v (.inlineValue flag value written)
  | nextValue {flag value : String} : flag ∈ v.valueFlags → flag ∉ v.switches →
      Allows v (.nextValue flag value)

/-- A command line consists of items if they are written one after the other. Each of its tokens
belongs to one of them. -/
def Consists (v : Vocabulary) (tokens : List String) (items : List Item) : Prop :=
  items.flatMap Item.tokens = tokens ∧ ∀ item ∈ items, v.Allows item

/-- A flag that needs the token after it. -/
def Dangles (v : Vocabulary) (flag : String) : Prop :=
  flag ∈ v.valueFlags ∧ flag ∉ v.switches

/-- An item is read off the front of a command line, whatever comes after it. -/
theorem Allows.items_append {item : Item} (hitem : v.Allows item) (rest : List String) :
    v.items (item.tokens ++ rest) = (item :: ·) <$> v.items rest := by
  rw [items.eq_def]
  cases hitem with
  | passed hpasses => simp [Item.tokens, hpasses.reading_eq]
  | switch hswitch =>
    simp [Item.tokens, reading_of_knows (knows_iff.mpr (Or.inr hswitch)), hswitch]
  | switchWithValue hswitch hinlines => simp [Item.tokens, hinlines.reading_eq, hswitch]
  | inlineValue hvalue hinlines => simp [Item.tokens, hinlines.reading_eq, hvalue]
  | nextValue hflag hvalue =>
    simp [Item.tokens, reading_of_knows (knows_iff.mpr (Or.inl hflag)), hvalue]

/-- A flag that takes a value and is the last token is at fault. -/
theorem Dangles.items_eq {flag : String} (hdangles : v.Dangles flag) :
    v.items [flag] = .error flag := by
  obtain ⟨hflag, hvalue⟩ := hdangles
  rw [items.eq_def]
  simp [reading_of_knows (knows_iff.mpr (Or.inl hflag)), hvalue]

/-- What comes after items is read as if nothing were before it. -/
theorem Consists.items_append {front : List String} {items : List Item}
    (hfront : v.Consists front items) (rest : List String) :
    v.items (front ++ rest) = (items ++ ·) <$> v.items rest := by
  obtain ⟨rfl, hitems⟩ := hfront
  induction items with
  | nil => simp
  | cons item items ih =>
    obtain ⟨hitem, hitems⟩ := List.forall_mem_cons.mp hitems
    rw [List.flatMap_cons, List.append_assoc, hitem.items_append, ih hitems, Functor.map_map]
    rfl

theorem Consists.cons {item : Item} {rest : List String} {items : List Item}
    (hitem : v.Allows item) (hrest : v.Consists rest items) :
    v.Consists (item.tokens ++ rest) (item :: items) := by
  obtain ⟨rfl, hitems⟩ := hrest
  exact ⟨List.flatMap_cons, List.forall_mem_cons.mpr ⟨hitem, hitems⟩⟩

/-- A command line begins with an item, unless it is one flag that is missing its value. -/
theorem exists_item (v : Vocabulary) (token : String) (rest : List String) :
    (∃ item back, v.Allows item ∧ token :: rest = item.tokens ++ back) ∨
      (rest = [] ∧ v.Dangles token) := by
  obtain hpasses | hknows | ⟨flag, value, hinlines⟩ := v.token_cases token
  · exact Or.inl ⟨_, rest, .passed hpasses, rfl⟩
  · by_cases hswitch : token ∈ v.switches
    · exact Or.inl ⟨_, rest, .switch hswitch, rfl⟩
    · have hflag : token ∈ v.valueFlags := (knows_iff.mp hknows).resolve_right hswitch
      cases rest with
      | nil => exact Or.inr ⟨rfl, hflag, hswitch⟩
      | cons value back => exact Or.inl ⟨_, back, .nextValue hflag hswitch, rfl⟩
  · by_cases hswitch : flag ∈ v.switches
    · exact Or.inl ⟨_, rest, .switchWithValue hswitch hinlines, rfl⟩
    · exact Or.inl ⟨_, rest, .inlineValue hswitch hinlines, rfl⟩

/-- A command line consists of items, up to its end or up to a flag that is missing its value. -/
theorem exists_consists (v : Vocabulary) (tokens : List String) :
    (∃ items, v.Consists tokens items) ∨
      ∃ front items flag, tokens = front ++ [flag] ∧ v.Consists front items ∧ v.Dangles flag := by
  -- An item may take two tokens, so that the induction is on their number.
  induction hlength : tokens.length using Nat.strongRecOn generalizing tokens with
  | ind length ih =>
    cases tokens with
    | nil => exact Or.inl ⟨[], rfl, by simp⟩
    | cons token rest =>
      obtain ⟨item, back, hitem, htokens⟩ | ⟨rfl, hdangles⟩ := v.exists_item token rest
      · have hshorter : back.length < length := by
          rw [← hlength, htokens, List.length_append]
          cases item <;> simp [Item.tokens]
        rw [htokens]
        obtain ⟨items, hback⟩ | ⟨front, items, flag, rfl, hfront, hdangles⟩ :=
          ih _ hshorter back rfl
        · exact Or.inl ⟨_, .cons hitem hback⟩
        · exact Or.inr ⟨_, _, flag, (List.append_assoc ..).symm, .cons hitem hfront, hdangles⟩
      · exact Or.inr ⟨[], [], token, rfl, ⟨rfl, by simp⟩, hdangles⟩

/-- A command line is read as the items that it consists of. -/
theorem items_eq_ok_iff {tokens : List String} {items : List Item} :
    v.items tokens = .ok items ↔ v.Consists tokens items := by
  have hread {tokens : List String} {items : List Item} (htokens : v.Consists tokens items) :
      v.items tokens = .ok items := by
    have happend := htokens.items_append []
    rw [List.append_nil] at happend
    rw [happend, Vocabulary.items.eq_def]
    exact congrArg Except.ok (List.append_nil items)
  refine ⟨fun hitems => ?_, hread⟩
  obtain ⟨others, hothers⟩ | ⟨front, others, flag, rfl, hfront, hdangles⟩ :=
    v.exists_consists tokens
  · rw [hread hothers] at hitems
    cases hitems
    exact hothers
  · rw [hfront.items_append, hdangles.items_eq] at hitems
    cases hitems

/-- The only fault is that the flag at the end is missing its value. -/
theorem items_eq_error_iff {tokens : List String} {flag : String} :
    v.items tokens = .error flag ↔
      ∃ front items, tokens = front ++ [flag] ∧ v.Consists front items ∧ v.Dangles flag := by
  constructor
  · intro hitems
    obtain ⟨others, hothers⟩ | ⟨front, items, flag', rfl, hfront, hdangles⟩ :=
      v.exists_consists tokens
    · rw [items_eq_ok_iff.mpr hothers] at hitems
      cases hitems
    · rw [hfront.items_append, hdangles.items_eq] at hitems
      cases hitems
      exact ⟨front, items, rfl, hfront, hdangles⟩
  · rintro ⟨front, items, rfl, hfront, hdangles⟩
    rw [hfront.items_append, hdangles.items_eq]
    rfl

/-- What is found in a command line is found in the items that it consists of. -/
theorem scan_eq_ok_iff {tokens : List String} {s : Scan} :
    v.scan tokens = .ok s ↔ ∃ items, v.Consists tokens items ∧
      s = ⟨items.filterMap Item.passed?, Table.ofItems items⟩ := by
  simp only [← items_eq_ok_iff, scan]
  cases v.items tokens <;> simp [eq_comm]

theorem scan_eq_error_iff_items {tokens : List String} {fault : Fault} :
    v.scan tokens = .error fault ↔
      ∃ flag, v.items tokens = .error flag ∧ fault = .link (.danglingFlag flag) := by
  rw [scan]
  cases v.items tokens <;> simp [eq_comm]

/-- A command line is at fault exactly if it can be read up to a last token that takes a value. -/
theorem scan_eq_error_iff {tokens : List String} {fault : Fault} :
    v.scan tokens = .error fault ↔ ∃ front s flag, tokens = front ++ [flag] ∧
      v.scan front = .ok s ∧ v.Dangles flag ∧ fault = .link (.danglingFlag flag) := by
  simp only [scan_eq_error_iff_items, items_eq_error_iff, scan_eq_ok_iff]
  constructor
  · rintro ⟨flag, ⟨front, items, rfl, hfront, hdangles⟩, rfl⟩
    exact ⟨front, _, flag, rfl, ⟨items, hfront, rfl⟩, hdangles, rfl⟩
  · rintro ⟨front, s, flag, rfl, ⟨items, hfront, rfl⟩, hdangles, rfl⟩
    exact ⟨flag, ⟨front, items, rfl, hfront, hdangles⟩, rfl⟩

end Vocabulary

end LinkRelay.ControlFlag
