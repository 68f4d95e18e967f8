import LinkRelay.Proofs.ControlFlag.Reading
import LinkRelay.Proofs.ControlFlag.Table
import LinkRelay.Proofs.Step

namespace LinkRelay.ControlFlag

/-- The flags that are understood. -/
def flags : List String := [linkerFlag, directoryFlag, collapseFlag]

/-- A token spells a flag as it stands, or with an equals sign and any text behind it. -/
def Spells (token flag : String) : Prop :=
  token = flag ∨ ∃ value, token = flag ++ "=" ++ value

/-- Tokens that give a flag a value, in one token or in two. -/
def Gives (written : List String) (flag value : String) : Prop :=
  written = [flag, value] ∨ written = [flag ++ "=" ++ value]

/-- What a command line asks for, from its first token on. Of several values for a flag the last one
counts, and a token that is the value of a flag is nothing else besides. -/
inductive Asks : List String → Request → Prop
  | nothing : Asks [] ⟨[], none, false, none⟩
  | passed {token : String} {tokens : List String} {r : Request} :
      (∀ flag ∈ flags, ¬ Spells token flag) → Asks tokens r →
      Asks (token :: tokens) { r with remaining := token :: r.remaining }
  | collapse {token : String} {tokens : List String} {r : Request} :
      Spells token collapseFlag → Asks tokens r →
      Asks (token :: tokens) { r with collapses := true }
  | linker {written tokens : List String} {value : String} {r : Request} :
      Gives written linkerFlag value → Asks tokens r →
      Asks (written ++ tokens) { r with linker := r.linker.or (some value) }
  | directory {written tokens : List String} {value : String} {r : Request} :
      Gives written directoryFlag value → Asks tokens r →
      Asks (written ++ tokens) { r with directory := r.directory.or (some value) }

/-- The vocabulary of this program knows the three flags and no other. -/
theorem knows_own_iff {flag : String} : Vocabulary.own.knows flag = true ↔ flag ∈ flags := by
  simp [Vocabulary.knows, Vocabulary.own, flags, or_assoc]

/-- No flag holds an equals sign, and all of them start alike. -/
theorem flag_shape {flag : String} (hflag : flag ∈ flags) :
    '=' ∉ flag.toList ∧ Text.startsWith flag flagStart = true := by
  simp only [flags, List.mem_cons, List.not_mem_nil, or_false] at hflag
  obtain rfl | rfl | rfl := hflag <;> decide

theorem flag_ne_append {flag : String} (hflag : flag ∈ flags) (name value : String) :
    flag ≠ name ++ "=" ++ value := by
  rintro rfl
  apply (flag_shape hflag).1
  simp

/-- A token that spells a flag starts as flags do. -/
theorem startsWith_flagStart_of_spells {token flag : String} (hflag : flag ∈ flags)
    (hspells : Spells token flag) : Text.startsWith token flagStart = true := by
  obtain ⟨rest, hrest⟩ := Text.startsWith_iff.mp (flag_shape hflag).2
  obtain rfl | ⟨value, rfl⟩ := hspells
  · exact (flag_shape hflag).2
  · rw [hrest, String.append_assoc, String.append_assoc]
    exact Text.startsWith_append _ _

theorem inlines_own {flag : String} (hflag : flag ∈ flags) (value : String) :
    Vocabulary.own.Inlines (flag ++ "=" ++ value) flag value where
  unknown hknows := flag_ne_append (knows_own_iff.mp hknows) flag value rfl
  hyphens := by
    obtain ⟨rest, hrest⟩ := Text.startsWith_iff.mp
      (startsWith_flagStart_of_spells hflag (Or.inr ⟨value, rfl⟩))
    exact Text.startsWith_iff.mpr ⟨"ldproxy" ++ rest, by rw [hrest, ← String.append_assoc]; rfl⟩
  written := rfl
  first := (flag_shape hflag).1
  known := knows_own_iff.mpr hflag

/-- Exactly the tokens that spell no flag are left for the linker. -/
theorem passes_own_iff {token : String} :
    Vocabulary.own.Passes token ↔ ∀ flag ∈ flags, ¬ Spells token flag := by
  constructor
  · rintro ⟨hunknown, hinlines⟩ flag hflag (rfl | ⟨value, rfl⟩)
    · exact hunknown (knows_own_iff.mpr hflag)
    · exact hinlines flag value (inlines_own hflag value)
  · refine fun hpassed => ⟨fun hknows => ?_, fun flag value hinlines => ?_⟩
    · exact hpassed token (knows_own_iff.mp hknows) (Or.inl rfl)
    · exact hpassed flag (knows_own_iff.mp hinlines.known) (Or.inr ⟨value, hinlines.written⟩)

theorem mem_switches_own_iff {flag : String} :
    flag ∈ Vocabulary.own.switches ↔ flag = collapseFlag :=
  List.mem_singleton

/-- Two flags take a value. -/
theorem dangles_own_iff {flag : String} :
    Vocabulary.own.Dangles flag ↔ flag = linkerFlag ∨ flag = directoryFlag := by
  constructor
  · rintro ⟨hflag, -⟩
    simpa [Vocabulary.own] using hflag
  · rintro (rfl | rfl) <;> exact ⟨by decide, by decide⟩

/-- What the items of a command line ask for. -/
def requestOf (items : List Item) : Request :=
  Scan.request ⟨items.filterMap Item.passed?, Table.ofItems items⟩

theorem requestOf_eq (items : List Item) :
    requestOf items =
      ⟨items.filterMap Item.passed?,
        (valuesFor linkerFlag (items.filterMap Item.flag?)).getLast?,
        (items.filterMap Item.flag?).any fun entry => entry.1 = collapseFlag,
        (valuesFor directoryFlag (items.filterMap Item.flag?)).getLast?⟩ := by
  simp only [requestOf, Scan.request, Table.values_ofItems, Table.isSome_lookup_ofItems]

/-- A token that is passed on comes first of what is left, and changes nothing else. -/
theorem requestOf_passed (token : String) (items : List Item) :
    requestOf (.passed token :: items) =
      { requestOf items with remaining := token :: (requestOf items).remaining } := by
  simp only [requestOf_eq, List.filterMap_cons, Item.passed?, Item.flag?]

theorem requestOf_switch (written : String) (items : List Item) :
    requestOf (.switch collapseFlag written :: items) =
      { requestOf items with collapses := true } := by
  have hlinker : collapseFlag ≠ linkerFlag := by decide
  have hdirectory : collapseFlag ≠ directoryFlag := by decide
  simp [requestOf_eq, List.filterMap_cons, Item.passed?, Item.flag?, valuesFor, hlinker, hdirectory]

/-- A value for the linker or for the directory counts unless a later one is there. -/
theorem requestOf_value {item : Item} {flag value : String} (hpassed : item.passed? = none)
    (hflag : item.flag? = some (flag, value)) (items : List Item) :
    (flag = linkerFlag → requestOf (item :: items) =
      { requestOf items with linker := (requestOf items).linker.or (some value) }) ∧
    (flag = directoryFlag → requestOf (item :: items) =
      { requestOf items with directory := (requestOf items).directory.or (some value) }) := by
  have hcollapse : linkerFlag ≠ collapseFlag ∧ directoryFlag ≠ collapseFlag := by decide
  have hdirectory : linkerFlag ≠ directoryFlag := by decide
  constructor <;> rintro rfl <;>
    simp [requestOf_eq, hpassed, hflag, valuesFor, hcollapse, hdirectory,
      hdirectory.symm, List.getLast?_cons]

/-- A flag that takes a value, in either spelling, asks for it in front of whatever the rest asks
for. -/
theorem asks_of_value {written : List String} {item : Item} {flag value : String}
    {tokens : List String} {items : List Item} (hflag : flag = linkerFlag ∨ flag = directoryFlag)
    (hpassed : item.passed? = none) (hgiven : item.flag? = some (flag, value))
    (hgives : Gives written flag value) (hasks : Asks tokens (requestOf items)) :
    Asks (written ++ tokens) (requestOf (item :: items)) := by
  obtain rfl | rfl := hflag
  · rw [(requestOf_value hpassed hgiven items).1 rfl]
    exact .linker hgives hasks
  · rw [(requestOf_value hpassed hgiven items).2 rfl]
    exact .directory hgives hasks

/-- An item adds to what is asked for after it. -/
theorem asks_of_item {item : Item} {tokens : List String} {items : List Item}
    (hitem : Vocabulary.own.Allows item) (hasks : Asks tokens (requestOf items)) :
    Asks (item.tokens ++ tokens) (requestOf (item :: items)) := by
  cases hitem with
  | passed hpasses =>
    rw [requestOf_passed]
    exact .passed (passes_own_iff.mp hpasses) hasks
  | switch hswitch =>
    obtain rfl := mem_switches_own_iff.mp hswitch
    rw [requestOf_switch]
    exact .collapse (Or.inl rfl) hasks
  | switchWithValue hswitch hinlines =>
    obtain rfl := mem_switches_own_iff.mp hswitch
    rw [requestOf_switch]
    exact .collapse (Or.inr ⟨_, hinlines.written⟩) hasks
  | inlineValue hvalue hinlines =>
    have hflag := (Vocabulary.knows_iff.mp hinlines.known).resolve_right hvalue
    exact asks_of_value (dangles_own_iff.mp ⟨hflag, hvalue⟩) rfl rfl
      (Or.inr (congrArg (· :: []) hinlines.written)) hasks
  | nextValue hflag hvalue =>
    exact asks_of_value (dangles_own_iff.mp ⟨hflag, hvalue⟩) rfl rfl (Or.inl rfl) hasks

/-- What is read from a command line is what it asks for. -/
theorem asks_requestOf {tokens : List String} {items : List Item}
    (htokens : Vocabulary.own.Consists tokens items) : Asks tokens (requestOf items) := by
  obtain ⟨rfl, hitems⟩ := htokens
  induction items with
  | nil => exact .nothing
  | cons item items ih =>
    obtain ⟨hitem, hitems⟩ := List.forall_mem_cons.mp hitems
    exact asks_of_item hitem (ih hitems)

theorem allows_of_spells {token : String} (hspells : Spells token collapseFlag) :
    Vocabulary.own.Allows (.switch collapseFlag token) := by
  have hswitch : collapseFlag ∈ Vocabulary.own.switches := mem_switches_own_iff.mpr rfl
  obtain rfl | ⟨value, rfl⟩ := hspells
  · exact .switch hswitch
  · exact .switchWithValue hswitch (inlines_own (by decide) value)

/-- Either spelling of a value is an item. -/
theorem exists_item_of_gives {written : List String} {flag value : String}
    (hflag : flag = linkerFlag ∨ flag = directoryFlag) (hgives : Gives written flag value) :
    ∃ item : Item, Vocabulary.own.Allows item ∧ item.tokens = written ∧ item.passed? = none ∧
      item.flag? = some (flag, value) := by
  have hmem : flag ∈ flags := by obtain rfl | rfl := hflag <;> decide
  obtain ⟨hvalue, hswitch⟩ := dangles_own_iff.mpr hflag
  obtain rfl | rfl := hgives
  · exact ⟨_, .nextValue hvalue hswitch, rfl, rfl, rfl⟩
  · exact ⟨_, .inlineValue hswitch (inlines_own hmem value), rfl, rfl, rfl⟩

/-- What a command line asks for is what is read from it. -/
theorem exists_consists_of_asks {tokens : List String} {r : Request} (hasks : Asks tokens r) :
    ∃ items, Vocabulary.own.Consists tokens items ∧ requestOf items = r := by
  induction hasks with
  | nothing => exact ⟨[], ⟨rfl, by simp⟩, rfl⟩
  | passed hpassed _ ih =>
    obtain ⟨items, htokens, rfl⟩ := ih
    exact ⟨_, .cons (.passed (passes_own_iff.mpr hpassed)) htokens, requestOf_passed _ items⟩
  | collapse hspells _ ih =>
    obtain ⟨items, htokens, rfl⟩ := ih
    exact ⟨_, .cons (allows_of_spells hspells) htokens, requestOf_switch _ items⟩
  | linker hgives _ ih =>
    obtain ⟨items, htokens, rfl⟩ := ih
    obtain ⟨item, hitem, rfl, hpassed, hgiven⟩ := exists_item_of_gives (Or.inl rfl) hgives
    exact ⟨_, .cons hitem htokens, (requestOf_value hpassed hgiven items).1 rfl⟩
  | directory hgives _ ih =>
    obtain ⟨items, htokens, rfl⟩ := ih
    obtain ⟨item, hitem, rfl, hpassed, hgiven⟩ := exists_item_of_gives (Or.inr rfl) hgives
    exact ⟨_, .cons hitem htokens, (requestOf_value hpassed hgiven items).2 rfl⟩

/-- Taking the flags out of a command line yields what it asks for, if it asks for anything. -/
theorem scan_eq_ok_iff {tokens : List String} {r : Request} :
    Scan.request <$> Vocabulary.own.scan tokens = .ok r ↔ Asks tokens r := by
  rw [Answer.map_eq_ok_iff]
  constructor
  · rintro ⟨s, hs, rfl⟩
    obtain ⟨items, htokens, rfl⟩ := Vocabulary.scan_eq_ok_iff.mp hs
    exact asks_requestOf htokens
  · intro hasks
    obtain ⟨items, htokens, rfl⟩ := exists_consists_of_asks hasks
    exact ⟨_, Vocabulary.scan_eq_ok_iff.mpr ⟨items, htokens, rfl⟩, rfl⟩

/-- A command line that cannot be read ends in a flag that is missing its value, and every such
command line cannot be read. -/
theorem scan_eq_error_iff {tokens : List String} {fault : Fault} :
    Vocabulary.own.scan tokens = .error fault ↔ ∃ front r flag, tokens = front ++ [flag] ∧
      Asks front r ∧ (flag = linkerFlag ∨ flag = directoryFlag) ∧
        fault = .link (.danglingFlag flag) := by
  simp only [Vocabulary.scan_eq_error_iff, dangles_own_iff, ← scan_eq_ok_iff]
  constructor
  · rintro ⟨front, s, flag, hfront, hs, hflag, hfault⟩
    exact ⟨front, s.request, flag, hfront, by rw [hs]; rfl, hflag, hfault⟩
  · rintro ⟨front, r, flag, hfront, hr, hflag, hfault⟩
    obtain ⟨s, hs, rfl⟩ := Answer.map_eq_ok_iff.mp hr
    exact ⟨front, s, flag, hfront, hs, hflag, hfault⟩

/-- A command line asks for one thing at most. -/
theorem Asks.unique {tokens : List String} {r r' : Request} (hasks : Asks tokens r)
    (hasks' : Asks tokens r') : r = r' := by
  rw [← scan_eq_ok_iff] at hasks hasks'
  rw [hasks] at hasks'
  exact Except.ok.inj hasks'

theorem scan_regular {v : Vocabulary} {tokens : List String} {fault : Fault}
    (hfault : v.scan tokens = .error fault) : fault.Regular := by
  rw [Vocabulary.scan] at hfault
  split at hfault
  · cases hfault
  · cases hfault
    exact Fault.regular_link _

theorem extract_quiet (v : Vocabulary) (tokens : List String) : (extract v tokens).Quiet :=
  .bind (.ofExcept fun _ => scan_regular) fun _ => .bind (.log ..) fun _ => .pure _

/-- What is logged of a command line does not show in what it asks for. -/
theorem answer_extract (v : Vocabulary) (tokens : List String) (disk : Disk) :
    (extract v tokens disk).answer = Scan.request <$> v.scan tokens := by
  rw [extract, (Step.Quiet.ofExcept fun _ => scan_regular).answer_bind, Step.answer_ofExcept]
  rfl

/-- Nothing that is left for the linker spells a flag. -/
theorem Asks.not_spells {tokens : List String} {r : Request} (hasks : Asks tokens r) :
    ∀ token ∈ r.remaining, ∀ flag ∈ flags, ¬ Spells token flag := by
  induction hasks with
  | nothing => simp
  | passed hpassed _ ih => exact List.forall_mem_cons.mpr ⟨hpassed, ih⟩
  | collapse _ _ ih => exact ih
  | linker _ _ ih => exact ih
  | directory _ _ ih => exact ih

/-- Tokens that spell no flag are left as they are. -/
theorem asks_of_not_spells {tokens : List String}
    (hpassed : ∀ token ∈ tokens, ∀ flag ∈ flags, ¬ Spells token flag) :
    Asks tokens ⟨tokens, none, false, none⟩ := by
  induction tokens with
  | nil => exact .nothing
  | cons token tokens ih =>
    obtain ⟨htoken, htokens⟩ := List.forall_mem_cons.mp hpassed
    exact .passed htoken (ih htokens)

end LinkRelay.ControlFlag
