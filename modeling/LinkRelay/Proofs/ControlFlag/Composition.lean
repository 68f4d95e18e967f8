import LinkRelay.Proofs.ControlFlag.Reading
import LinkRelay.Proofs.ControlFlag.Table

namespace LinkRelay.ControlFlag

variable {v : Vocabulary}

namespace Vocabulary

/-- Items of two command lines are the items of both. -/
theorem Consists.append {front back : List String} {items others : List Item}
    (hfront : v.Consists front items) (hback : v.Consists back others) :
    v.Consists (front ++ back) (items ++ others) := by
  rw [← items_eq_ok_iff] at hback ⊢
  rw [hfront.items_append, hback]
  rfl

/-- Behind a command line that can be read to its end, only the rest can be at fault. -/
theorem Consists.scan_append_eq_error_iff {front back : List String} {items : List Item}
    {fault : Fault} (hfront : v.Consists front items) :
    v.scan (front ++ back) = .error fault ↔ v.scan back = .error fault := by
  simp only [scan_eq_error_iff_items, hfront.items_append, Answer.map_eq_error_iff]

end Vocabulary

/-- Command lines can be scanned one after the other. If the first one can be scanned, both together
cannot be if the second cannot, and then for its reason; otherwise what remains of them is put
together, each flag has the values from the first and then those from the second, and the flags
stand in the order in which they first came. Nothing but a flag at the end that is missing its value
keeps a command line from being scanned. What is found in one that can be are the items that it
consists of, in the one way in which it does: every token is one of an item's. -/
theorem scan_composes (v : Vocabulary) :
    (∀ front back s, v.scan front = .ok s →
      (∀ fault, v.scan (front ++ back) = .error fault ↔ v.scan back = .error fault) ∧
      ∀ s', v.scan back = .ok s' → ∃ found,
        v.scan (front ++ back) = .ok ⟨s.remaining ++ s'.remaining, found⟩ ∧
        (∀ flag, found.values flag = s.found.values flag ++ s'.found.values flag) ∧
        found.names = s.found.names ++ s'.found.names.filter (· ∉ s.found.names)) ∧
    (∀ tokens fault, v.scan tokens = .error fault ↔ ∃ front s flag, tokens = front ++ [flag] ∧
      v.scan front = .ok s ∧ flag ∈ v.valueFlags ∧ flag ∉ v.switches ∧
        fault = .link (.danglingFlag flag)) ∧
    ∀ tokens s, v.scan tokens = .ok s → ∃ items,
      (∀ others, v.Consists tokens others ↔ others = items) ∧
      s.remaining = items.filterMap Item.passed? ∧
      (∀ flag, s.found.values flag = valuesFor flag (items.filterMap Item.flag?)) ∧
      s.found.names = ((items.filterMap Item.flag?).map Prod.fst).eraseDups := by
  refine ⟨?_, ?_, ?_⟩
  · intro front back s hs
    obtain ⟨items, hfront, rfl⟩ := Vocabulary.scan_eq_ok_iff.mp hs
    refine ⟨fun fault => hfront.scan_append_eq_error_iff, fun s' hs' => ?_⟩
    obtain ⟨others, hback, rfl⟩ := Vocabulary.scan_eq_ok_iff.mp hs'
    refine ⟨Table.ofItems (items ++ others), ?_, Table.values_ofItems_append items others,
      Table.names_ofItems_append items others⟩
    exact Vocabulary.scan_eq_ok_iff.mpr
      ⟨_, hfront.append hback, by rw [List.filterMap_append]⟩
  · intro tokens fault
    simp only [Vocabulary.scan_eq_error_iff, Vocabulary.Dangles, and_assoc]
  · intro tokens s hs
    obtain ⟨items, htokens, rfl⟩ := Vocabulary.scan_eq_ok_iff.mp hs
    refine ⟨items, fun others => ?_, rfl, Table.values_ofItems items, Table.names_ofItems items⟩
    rw [← Vocabulary.items_eq_ok_iff] at htokens ⊢
    rw [htokens, Except.ok.injEq, eq_comm]

/-- A vocabulary with a flag in both of its lists. -/
def overlapping : Vocabulary :=
  ⟨["--name", "--both"], ["--both"]⟩

/-- A flag in both lists is a switch: it takes no value, and it may be the value of another flag. -/
theorem scan_composes_overlapping :
    (∃ found,
      overlapping.scan (["a", "--name", "--both", "--both=1"] ++ ["--both", "--name=2", "b"]) =
        .ok ⟨["a", "b"], found⟩ ∧
      found.values "--name" = ["--both", "2"] ∧ found.values "--both" = ["", ""] ∧
      found.names = ["--name", "--both"]) ∧
    overlapping.scan (["a", "--name", "--both", "--both=1"] ++ ["--name"]) =
      .error (.link (.danglingFlag "--name")) := by
  obtain ⟨hcomposes, hfails, -⟩ := scan_composes overlapping
  have hfront : overlapping.scan ["a", "--name", "--both", "--both=1"] =
      .ok ⟨["a"], [("--name", ["--both"]), ("--both", [""])]⟩ := by decide +kernel
  have hback : overlapping.scan ["--both", "--name=2", "b"] =
      .ok ⟨["b"], [("--both", [""]), ("--name", ["2"])]⟩ := by decide +kernel
  obtain ⟨found, hscan, hvalues, hnames⟩ := (hcomposes _ _ _ hfront).2 _ hback
  refine ⟨⟨found, hscan, hvalues "--name", hvalues "--both", hnames⟩, ?_⟩
  exact (hfails _ _).mpr ⟨_, _, "--name", rfl, hfront, by decide, by decide, rfl⟩

end LinkRelay.ControlFlag
