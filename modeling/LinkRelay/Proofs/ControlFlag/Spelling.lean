import LinkRelay.Proofs.ControlFlag.CommandLine
import LinkRelay.Proofs.Taker

namespace LinkRelay.ControlFlag

namespace Vocabulary

variable {v : Vocabulary}

/-- The token after some tokens is the value of a flag. -/
def AwaitsValue (v : Vocabulary) (front : List String) : Prop :=
  TakesNext (fun token => v.valueFlags.contains token && !v.switches.contains token) front

instance (v : Vocabulary) : DecidablePred v.AwaitsValue :=
  fun front => inferInstanceAs (Decidable (TakesNext _ front))

/-- A flag that is the value of another one awaits no value. -/
theorem awaitsValue_concat {front : List String} {token : String} :
    v.AwaitsValue (front ++ [token]) ↔ v.Dangles token ∧ ¬ v.AwaitsValue front := by
  rw [AwaitsValue, takesNext_concat]
  simp [AwaitsValue, Dangles]

/-- A command line breaks off after its last token if this is a flag that is missing its value. -/
theorem not_exists_consists_concat {front : List String} {token : String} :
    (¬ ∃ items, v.Consists (front ++ [token]) items) ↔
      v.Dangles token ∧ ∃ items, v.Consists front items := by
  constructor
  · intro hnone
    obtain hitems | ⟨front', items, flag, heq, hfront, hdangles⟩ :=
      v.exists_consists (front ++ [token])
    · exact absurd hitems hnone
    · obtain ⟨rfl, hlast⟩ := List.append_inj' heq rfl
      cases hlast
      exact ⟨hdangles, items, hfront⟩
  · rintro ⟨hdangles, items, hfront⟩ ⟨others, hothers⟩
    rw [← items_eq_ok_iff, hfront.items_append, hdangles.items_eq] at hothers
    cases hothers

/-- A command line can be read to its end unless a value would have to follow. -/
theorem exists_consists_iff {front : List String} :
    (∃ items, v.Consists front items) ↔ ¬ v.AwaitsValue front := by
  induction front using List.reverseRecOn with
  | nil => exact iff_of_true ⟨[], rfl, by simp⟩ not_takesNext_nil
  | append_singleton front token ih =>
    rw [awaitsValue_concat, ← ih, ← not_exists_consists_concat, not_not]

/-- Items that leave the same for the linker and give the same flag the same value can take each
other's place. -/
theorem Consists.scan_append_congr {front : List String} {items : List Item} {item other : Item}
    (hfront : v.Consists front items) (hitem : v.Allows item) (hother : v.Allows other)
    (hpassed : item.passed? = other.passed?) (hflag : item.flag? = other.flag?)
    (back : List String) :
    v.scan (front ++ item.tokens ++ back) = v.scan (front ++ other.tokens ++ back) := by
  rw [List.append_assoc, List.append_assoc, scan, scan, hfront.items_append, hfront.items_append,
    hitem.items_append, hother.items_append]
  cases v.items back with
  | error flag => rfl
  | ok rest =>
    simp only [Functor.map, Except.map, Table.ofItems, List.filterMap_append, List.filterMap_cons,
      hpassed, hflag]

end Vocabulary

/-- Command lines in which the same is found are dealt with in the same way, step for step. -/
theorem extract_congr {v : Vocabulary} {tokens others : List String}
    (hscan : v.scan tokens = v.scan others) : extract v tokens = extract v others := by
  rw [extract, extract, hscan]

/-- Between the tokens in front and those behind, a flag is given a value, in one token or in
two. -/
structure GivenAt (tokens : List String) (flag value : String) (front back : List String) :
    Prop where
  written : ∃ written, Gives written flag value ∧ tokens = front ++ written ++ back
  free : ¬ Vocabulary.own.AwaitsValue front

/-- The value that counts for a flag: the one that it is given last, if it is given any. -/
def Counts (tokens : List String) (flag : String) : Option String → Prop
  | none => ∀ value front back, ¬ GivenAt tokens flag value front back
  | some value => ∃ front back, GivenAt tokens flag value front back ∧
      ∀ value' front' back', GivenAt tokens flag value' front' back' →
        front'.length ≤ front.length

section GivenAt

variable {tokens front back : List String} {items : List Item} {item : Item} {flag value : String}

/-- An item with a value is written in one of the two spellings. -/
theorem gives_of_allows (hitem : Vocabulary.own.Allows item)
    (hflag : flag = linkerFlag ∨ flag = directoryFlag)
    (hgiven : item.flag? = some (flag, value)) : Gives item.tokens flag value := by
  cases hitem with
  | passed hpasses => cases hgiven
  | switch hswitch =>
    cases hgiven
    exact absurd hswitch (dangles_own_iff.mpr hflag).2
  | switchWithValue hswitch hinlines =>
    cases hgiven
    exact absurd hswitch (dangles_own_iff.mpr hflag).2
  | inlineValue hvalue hinlines =>
    cases hgiven
    exact Or.inr (congrArg (· :: []) hinlines.written)
  | nextValue hknown hvalue =>
    cases hgiven
    exact Or.inl rfl

/-- The places where a flag is given a value are the items that do so. -/
theorem givenAt_iff (htokens : Vocabulary.own.Consists tokens items)
    (hflag : flag = linkerFlag ∨ flag = directoryFlag) :
    GivenAt tokens flag value front back ↔ ∃ before item after,
      items = before ++ item :: after ∧ item.flag? = some (flag, value) ∧
        front = before.flatMap Item.tokens ∧ back = after.flatMap Item.tokens := by
  constructor
  · -- What is in front can be read to its end, so that the flag begins an item of its own.
    rintro ⟨⟨written, hgives, rfl⟩, hfree⟩
    obtain ⟨before, hbefore⟩ := Vocabulary.exists_consists_iff.mpr hfree
    obtain ⟨item, hitem, rfl, -, hgiven⟩ := exists_item_of_gives hflag hgives
    rw [← Vocabulary.items_eq_ok_iff, List.append_assoc, hbefore.items_append, hitem.items_append,
      Answer.map_eq_ok_iff] at htokens
    obtain ⟨rest, hrest, rfl⟩ := htokens
    obtain ⟨after, hafter, rfl⟩ := Answer.map_eq_ok_iff.mp hrest
    exact ⟨before, item, after, rfl, hgiven, hbefore.1.symm,
      (Vocabulary.items_eq_ok_iff.mp hafter).1.symm⟩
  · rintro ⟨before, item, after, rfl, hgiven, rfl, rfl⟩
    obtain ⟨rfl, hitems⟩ := htokens
    have hbefore : Vocabulary.own.Consists (before.flatMap Item.tokens) before :=
      ⟨rfl, fun i hi => hitems i (List.mem_append_left _ hi)⟩
    refine ⟨⟨item.tokens, ?_, by simp⟩, Vocabulary.exists_consists_iff.mp ⟨before, hbefore⟩⟩
    exact gives_of_allows (hitems item (by simp)) hflag hgiven

/-- The value that an item gives a flag. -/
def Item.valueFor? (flag : String) (item : Item) : Option String :=
  item.flag?.bind fun (f, value) => if f = flag then some value else none

/-- An item gives a flag its value if the flag is its own. -/
theorem Item.valueFor?_eq_some_iff : item.valueFor? flag = some value ↔
    item.flag? = some (flag, value) := by
  cases hflag : item.flag? with
  | none => simp [valueFor?, hflag]
  | some entry =>
    obtain ⟨f, value'⟩ := entry
    simp [valueFor?, hflag]

theorem Item.valueFor?_eq_none_iff : item.valueFor? flag = none ↔
    ∀ value, item.flag? ≠ some (flag, value) := by
  rw [Option.eq_none_iff_forall_ne_some]
  exact forall_congr' fun value => not_congr Item.valueFor?_eq_some_iff

/-- The last value of a flag is that of the last item that gives it one. -/
theorem getLast?_values_ofItems (flag : String) (items : List Item) :
    ((Table.ofItems items).values flag).getLast? =
      items.reverse.findSome? (Item.valueFor? flag) := by
  rw [Table.values_ofItems, valuesFor, List.filterMap_filterMap, List.getLast?_filterMap]
  rfl

/-- An item that comes no later has no more tokens in front of it. -/
theorem length_flatMap_tokens_le {before before' after after' : List Item} {item' : Item}
    (heq : before ++ item :: after = before' ++ item' :: after') (hitem' : item' ∉ after) :
    (before'.flatMap Item.tokens).length ≤ (before.flatMap Item.tokens).length := by
  obtain ⟨between, rfl, hafter⟩ | ⟨between, rfl, -⟩ := List.append_eq_append_iff.mp heq
  · cases between with
    | nil => simp
    | cons first between =>
      rw [List.cons_append, List.cons.injEq] at hafter
      exact absurd (hafter.2 ▸ List.mem_append_right _ List.mem_cons_self) hitem'
  · rw [List.flatMap_append, List.length_append]
    exact Nat.le_add_right _ _

/-- What is recorded last for a flag is the value that counts. -/
theorem counts_values_ofItems (htokens : Vocabulary.own.Consists tokens items)
    (hflag : flag = linkerFlag ∨ flag = directoryFlag) :
    Counts tokens flag ((Table.ofItems items).values flag).getLast? := by
  rw [getLast?_values_ofItems]
  cases hlast : items.reverse.findSome? (Item.valueFor? flag) with
  | none =>
    rw [List.findSome?_eq_none_iff] at hlast
    intro value front back hgiven
    obtain ⟨before, item, after, rfl, hitem, -, -⟩ := (givenAt_iff htokens hflag).mp hgiven
    exact Item.valueFor?_eq_none_iff.mp (hlast item (by simp)) value hitem
  | some value =>
    obtain ⟨later, item, earlier, hreverse, hitem, hlater⟩ := List.findSome?_eq_some_iff.mp hlast
    have hitems : items = earlier.reverse ++ item :: later.reverse := by
      rw [← List.reverse_reverse items, hreverse]
      simp
    refine ⟨_, _, (givenAt_iff htokens hflag).mpr ⟨earlier.reverse, item, later.reverse, hitems,
      Item.valueFor?_eq_some_iff.mp hitem, rfl, rfl⟩, fun value' front' back' hgiven => ?_⟩
    obtain ⟨before, item', after, hitems', hitem', rfl, -⟩ := (givenAt_iff htokens hflag).mp hgiven
    refine length_flatMap_tokens_le (hitems.symm.trans hitems') fun hmem => ?_
    exact Item.valueFor?_eq_none_iff.mp (hlater item' (List.mem_reverse.mp hmem)) value' hitem'

end GivenAt

/-- A flag that takes a value may have it behind an equals sign or as the next token. Wherever the
tokens in front can be scanned, that changes nothing: neither what is asked for, nor the fault, nor
what is logged. Of the values for the linker and for the directory those count that are given last,
in whichever spelling. A switch that is not the value of a flag may have any text behind an equals
sign. -/
theorem extract_of_either_spelling :
    (∀ front s flag value back, Vocabulary.own.scan front = .ok s →
      (flag = "--ldproxy-linker" ∨ flag = "--ldproxy-cwd") →
      extract .own (front ++ [flag, value] ++ back) =
        extract .own (front ++ [flag ++ "=" ++ value] ++ back)) ∧
    (∀ tokens disk r, (extract .own tokens disk).answer = .ok r →
      Counts tokens "--ldproxy-linker" r.linker ∧ Counts tokens "--ldproxy-cwd" r.directory) ∧
    ∀ front value back, ¬ Vocabulary.own.AwaitsValue front →
      extract .own (front ++ ["--ldproxy-dedup-libs"] ++ back) =
        extract .own (front ++ ["--ldproxy-dedup-libs" ++ "=" ++ value] ++ back) := by
  refine ⟨fun front s flag value back hscan hflag => ?_, fun tokens disk r hextract => ?_,
    fun front value back hfree => ?_⟩
  · obtain ⟨items, hfront, -⟩ := Vocabulary.scan_eq_ok_iff.mp hscan
    have htwo : Gives [flag, value] flag value := Or.inl rfl
    have hone : Gives [flag ++ "=" ++ value] flag value := Or.inr rfl
    obtain ⟨pair, hpair, hpairTokens, hpassed, hgiven⟩ := exists_item_of_gives hflag htwo
    obtain ⟨single, hsingle, hsingleTokens, hpassed', hgiven'⟩ := exists_item_of_gives hflag hone
    rw [← hpairTokens, ← hsingleTokens]
    exact extract_congr (hfront.scan_append_congr hpair hsingle (hpassed.trans hpassed'.symm)
      (hgiven.trans hgiven'.symm) back)
  · rw [answer_extract, Answer.map_eq_ok_iff] at hextract
    obtain ⟨s, hs, rfl⟩ := hextract
    obtain ⟨items, htokens, rfl⟩ := Vocabulary.scan_eq_ok_iff.mp hs
    exact ⟨counts_values_ofItems htokens (Or.inl rfl), counts_values_ofItems htokens (Or.inr rfl)⟩
  · obtain ⟨items, hfront⟩ := Vocabulary.exists_consists_iff.mpr hfree
    exact extract_congr (hfront.scan_append_congr (allows_of_spells (Or.inl rfl))
      (allows_of_spells (Or.inr ⟨value, rfl⟩)) rfl rfl back)

/-- A flag whose value looks like a switch stands behind a flag that is a value, and before one that
is missing its own. -/
theorem extract_of_either_spelling_nested :
    (Vocabulary.own.scan ["a.o", "--ldproxy-cwd", "--ldproxy-linker"] =
        .ok ⟨["a.o"], [("--ldproxy-cwd", ["--ldproxy-linker"])]⟩ ∧
      extract .own ["a.o", "--ldproxy-cwd", "--ldproxy-linker", "--ldproxy-linker",
          "--ldproxy-dedup-libs=x", "--ldproxy-cwd"] =
        extract .own ["a.o", "--ldproxy-cwd", "--ldproxy-linker",
          "--ldproxy-linker=--ldproxy-dedup-libs=x", "--ldproxy-cwd"]) ∧
    (∃ front back, GivenAt ["--ldproxy-linker", "a", "--ldproxy-linker=b=c", "x.o"]
        "--ldproxy-linker" "b=c" front back ∧
      ∀ value' front' back', GivenAt ["--ldproxy-linker", "a", "--ldproxy-linker=b=c", "x.o"]
        "--ldproxy-linker" value' front' back' → front'.length ≤ front.length) ∧
    (¬ Vocabulary.own.AwaitsValue ["--ldproxy-cwd", "--ldproxy-linker"] ∧
      extract .own ["--ldproxy-cwd", "--ldproxy-linker", "--ldproxy-dedup-libs", "x.o"] =
        extract .own ["--ldproxy-cwd", "--ldproxy-linker", "--ldproxy-dedup-libs=yes", "x.o"]) := by
  obtain ⟨hvalue, hlast, hswitch⟩ := extract_of_either_spelling
  have hscan : Vocabulary.own.scan ["a.o", "--ldproxy-cwd", "--ldproxy-linker"] =
      .ok ⟨["a.o"], [("--ldproxy-cwd", ["--ldproxy-linker"])]⟩ := by decide +kernel
  have hfree : ¬ Vocabulary.own.AwaitsValue ["--ldproxy-cwd", "--ldproxy-linker"] := by
    decide +kernel
  refine ⟨⟨hscan, ?_⟩, ?_, hfree, hswitch _ "yes" ["x.o"] hfree⟩
  · exact hvalue _ _ "--ldproxy-linker" "--ldproxy-dedup-libs=x" ["--ldproxy-cwd"] hscan
      (Or.inl rfl)
  · exact (hlast ["--ldproxy-linker", "a", "--ldproxy-linker=b=c", "x.o"] ⟨[], []⟩
      ⟨["x.o"], some "b=c", false, none⟩ (by decide +kernel)).1

end LinkRelay.ControlFlag
