import LinkRelay.BuildScript.Directive
import LinkRelay.Proofs.Disk
import LinkRelay.Proofs.Step
import LinkRelay.Proofs.Text.Newline

namespace LinkRelay.BuildScript

theorem Marker.ofString?_eq_some_iff {text : String} {m : Marker} :
    Marker.ofString? text = some m ↔ text = m.text := by
  have hdistinct : ControlFlag.linkerFlag ≠ ControlFlag.directoryFlag := by decide
  rw [Marker.ofString?]
  cases m with
  | directory => simp [Marker.text]
  | linker =>
    simp only [Marker.text]
    split
    · rename_i hdirectory
      simp [hdirectory, hdistinct.symm]
    · simp

/-- A value is no marker if it is the text of none. -/
theorem Marker.ofString?_eq_none_iff {value : String} :
    Marker.ofString? value = none ↔ ∀ m : Marker, value ≠ m.text := by
  rw [Option.eq_none_iff_forall_ne_some]
  exact forall_congr' fun m => not_congr Marker.ofString?_eq_some_iff

@[simp]
theorem Marker.ofString?_text (m : Marker) : Marker.ofString? m.text = some m :=
  Marker.ofString?_eq_some_iff.mpr rfl

/-- The marker that some values leave without a value of its own, when the value before them was the
given marker or none. -/
def pending : Option Marker → List String → Option Marker
  | before, [] => before
  | some _, _ :: rest => pending none rest
  | none, value :: rest => pending (Marker.ofString? value) rest

/-- Values one after the other are read one after the other, and a marker that the first of them
leave takes its value from the second. -/
theorem items_append (f : Format) (before : Option Marker) (front back : List String) :
    f.items before (front ++ back) =
      f.items before front ++ f.items (pending before front) back := by
  fun_induction Format.items f before front with
  | case1 => rfl
  | case2 m payload rest ih => rw [List.cons_append, Format.items, ih, pending, List.cons_append]
  | case3 first rest m hmarker ih =>
    rw [List.cons_append, Format.items, hmarker, pending, hmarker]
    simp only [ih, List.cons_append]
  | case4 first rest hplain hdropped ih =>
    rw [List.cons_append, Format.items, hplain, pending, hplain]
    simp only [if_pos hdropped, ih, List.cons_append]
  | case5 first rest hplain hkept ih =>
    rw [List.cons_append, Format.items, hplain, pending, hplain]
    simp only [if_neg hkept, ih, List.cons_append]

/-- Each value is one item, in the same place. -/
theorem map_value_items (f : Format) (before : Option Marker) (values : List String) :
    (f.items before values).map Item.value = values := by
  fun_induction Format.items f before values with
  | case1 => rfl
  | case2 m payload rest ih => rw [List.map_cons, ih, Item.value]
  | case3 first rest m hmarker ih =>
    rw [List.map_cons, ih, Item.value, Marker.ofString?_eq_some_iff.mp hmarker]
  | case4 first rest hplain hdropped ih => rw [List.map_cons, ih, Item.value]
  | case5 first rest hplain hkept ih => rw [List.map_cons, ih, Item.value]

/-- Every item has its value from a line. -/
theorem mem_values_of_mem_items {f : Format} {before : Option Marker} {values : List String}
    {item : Item} (hitem : item ∈ f.items before values) : item.value ∈ values := by
  have hvalue := List.mem_map_of_mem (f := Item.value) hitem
  rwa [map_value_items] at hvalue

/-- What values can be, one after the other: a marker has the value after it for its own, whatever
that is, and only the last one may have none. -/
inductive Format.Reads (f : Format) : List Item → Prop
  | nil : f.Reads []
  | dangling {m : Marker} : f.Reads [.marker m]
  | payload {m : Marker} {value : String} {items : List Item} :
      f.Reads items → f.Reads (.marker m :: .payload m value :: items)
  | dropped {value : String} {items : List Item} :
      (∀ m : Marker, value ≠ m.text) → Text.startsWith value f.dropped = true →
      f.Reads items → f.Reads (.dropped value :: items)
  | argument {value : String} {items : List Item} :
      (∀ m : Marker, value ≠ m.text) → ¬ Text.startsWith value f.dropped = true →
      f.Reads items → f.Reads (.argument value :: items)

/-- The items of some values are a reading of them, with the marker that was left open in front. -/
theorem reads_items (f : Format) (before : Option Marker) (values : List String) :
    f.Reads (before.toList.map .marker ++ f.items before values) := by
  fun_induction Format.items f before values with
  | case1 before =>
    cases before with
    | none => exact .nil
    | some m => exact .dangling
  | case2 m payload rest ih => exact .payload ih
  | case3 first rest m hmarker ih => exact ih
  | case4 first rest hplain hdropped ih =>
    exact .dropped (Marker.ofString?_eq_none_iff.mp hplain) hdropped ih
  | case5 first rest hplain hkept ih =>
    exact .argument (Marker.ofString?_eq_none_iff.mp hplain) hkept ih

/-- There is one way to read values, each as one item in its place. -/
theorem items_eq_iff {f : Format} {values : List String} {items : List Item} :
    f.items none values = items ↔ items.map Item.value = values ∧ f.Reads items := by
  constructor
  · rintro rfl
    exact ⟨map_value_items f none values, reads_items f none values⟩
  · rintro ⟨rfl, hreads⟩
    induction hreads with
    | nil => rfl
    | dangling => simp [Format.items, Item.value]
    | payload _ ih => simp [Format.items, Item.value, ih]
    | dropped hmarker hdropped _ ih =>
      simp [Format.items, Item.value, Marker.ofString?_eq_none_iff.mpr hmarker, hdropped, ih]
    | argument hmarker hkept _ ih =>
      simp [Format.items, Item.value, Marker.ofString?_eq_none_iff.mpr hmarker, hkept, ih]

namespace Directives

theorem ofItems_argument (value : String) (items : List Item) :
    ofItems (.argument value :: items) =
      { ofItems items with arguments := value :: (ofItems items).arguments } := by
  simp [ofItems, List.filterMap_cons, Item.argument?, Item.payload?]

theorem ofItems_dropped (value : String) (items : List Item) :
    ofItems (.dropped value :: items) = ofItems items := by
  simp [ofItems, List.filterMap_cons, Item.argument?, Item.payload?]

/-- Directives that are given a value for a marker in front; it counts unless a later one is
there. -/
def give (m : Marker) (value : String) (d : Directives) : Directives :=
  match m with
  | .directory => { d with directory := d.directory.or (some value) }
  | .linker => { d with linker := d.linker.or (some value) }

theorem ofItems_payload (m : Marker) (value : String) (items : List Item) :
    ofItems (.marker m :: .payload m value :: items) = (ofItems items).give m value := by
  cases m <;>
    simp [ofItems, give, List.filterMap_cons, Item.argument?, Item.payload?, List.getLast?_cons]

/-- A marker that no value follows asks for nothing. -/
theorem ofItems_append_marker (items : List Item) (m : Marker) :
    ofItems (items ++ [.marker m]) = ofItems items := by
  simp [ofItems, List.filterMap_append, Item.argument?, Item.payload?]

end Directives

/-- Lines of directives hold the values that they were made of. -/
theorem values_map_directive {f : Format} {values : List String}
    (hends : ∀ value ∈ values, Text.chomp (f.directive ++ value) = f.directive ++ value) :
    f.values (values.map (f.directive ++ ·)) = values := by
  induction values with
  | nil => rfl
  | cons value values ih =>
    obtain ⟨hvalue, hvalues⟩ := List.forall_mem_cons.mp hends
    have hfirst : Text.after? f.directive (Text.chomp (f.directive ++ value)) = some value := by
      rw [hvalue, Text.after?_append]
    have hothers := ih hvalues
    rw [Format.values] at hothers ⊢
    rw [List.map_cons, List.filterMap_cons, hfirst, hothers]

/-- An argument is a value of a line, and so is a directory. -/
theorem mem_values_of_directives {f : Format} {lines : List String} {value : String}
    (hvalue : value ∈ (f.directives lines).arguments ∨
      (f.directives lines).directory = some value) :
    value ∈ f.values lines := by
  obtain hargument | hdirectory := hvalue
  · obtain ⟨item, hitem, hvalue⟩ := List.mem_filterMap.mp hargument
    cases item with
    | argument value' =>
      cases hvalue
      exact mem_values_of_mem_items hitem
    | marker | payload | dropped => cases hvalue
  · obtain ⟨item, hitem, hvalue⟩ := List.mem_filterMap.mp (List.mem_of_getLast? hdirectory)
    cases item with
    | payload m value' =>
      rw [Item.payload?] at hvalue
      split at hvalue
      · cases hvalue
        exact mem_values_of_mem_items hitem
      · cases hvalue
    | marker | argument | dropped => cases hvalue

/-- A value is what is behind the directive in one of the lines. -/
theorem mem_values_iff {f : Format} {lines : List String} {value : String} :
    value ∈ f.values lines ↔ ∃ line ∈ lines, Text.chomp line = f.directive ++ value := by
  simp only [Format.values, List.mem_filterMap, Text.after?_eq_some_iff]

/-- What is a value in a text has no character that ends a line. -/
theorem oneLine_of_mem_values {f : Format} {text value : String}
    (hvalue : value ∈ f.values (Text.lines text)) : Text.OneLine value := by
  obtain ⟨line, hline, hchomp⟩ := mem_values_iff.mp hvalue
  intro c hc
  apply Text.oneLine_of_mem_lines hline c
  apply Text.mem_of_mem_chomp
  rw [hchomp, String.toList_append, List.mem_append]
  exact Or.inr hc

/-- An argument is no marker, and it does not start as the values do that are dropped, not even if
it follows a payload. -/
theorem Format.Reads.plain_of_mem {f : Format} {items : List Item} (hreads : f.Reads items)
    {value : String} (hmem : Item.argument value ∈ items) :
    (∀ m : Marker, value ≠ m.text) ∧ ¬ Text.startsWith value f.dropped = true := by
  induction hreads with
  | nil => cases hmem
  | dangling => simp at hmem
  | payload _ ih => exact ih (by simpa using hmem)
  | dropped _ _ _ ih => exact ih (by simpa using hmem)
  | argument hmarker hkept _ ih =>
    obtain heq | hmem := List.mem_cons.mp hmem
    · cases heq
      exact ⟨hmarker, hkept⟩
    · exact ih hmem

/-- An argument is neither a marker nor a value that is dropped. -/
theorem plain_of_mem_arguments (f : Format) {lines : List String} {value : String}
    (hmem : value ∈ (f.directives lines).arguments) :
    (∀ m : Marker, value ≠ m.text) ∧ ¬ Text.startsWith value f.dropped = true := by
  obtain ⟨item, hitem, hvalue⟩ := List.mem_filterMap.mp hmem
  cases item with
  | argument value' =>
    cases hvalue
    exact (reads_items f none _).plain_of_mem hitem
  | marker | payload | dropped => cases hvalue

theorem not_startsWith_of_mem_arguments (f : Format) {lines : List String} {value : String}
    (hmem : value ∈ (f.directives lines).arguments) : ¬ Text.startsWith value f.dropped = true :=
  (plain_of_mem_arguments f hmem).2

theorem Item.report_quiet (logger : String) (item : Item) : (item.report logger).Quiet := by
  cases item with
  | payload marker value => cases marker <;> exact .log ..
  | dropped value => exact .log ..
  | marker | argument => exact .pure _

/-- Telling of all items changes nothing. -/
theorem report_quiet (logger : String) (items : List Item) : (report logger items).Quiet := by
  fun_induction report logger items with
  | case1 => exact .pure _
  | case2 => exact .log ..
  | case3 item rest _ ih => exact .bind (item.report_quiet logger) fun _ => ih

theorem Item.answer_report (logger : String) (item : Item) (disk : Disk) :
    (item.report logger disk).answer = .ok () := by
  cases item with
  | payload marker value => cases marker <;> rfl
  | dropped | marker | argument => rfl

theorem answer_report (logger : String) (items : List Item) (disk : Disk) :
    (report logger items disk).answer = .ok () := by
  fun_induction report logger items with
  | case1 => rfl
  | case2 => rfl
  | case3 item rest _ ih =>
    rw [(item.report_quiet logger).answer_bind, item.answer_report, Answer.ok_bind, ih]

theorem parse_quiet (f : Format) (logger : String) (path : Path) : (f.parse logger path).Quiet :=
  .bind (.look fun _ _ => Disk.readText_regular) fun _ => .bind (report_quiet ..) fun _ => .pure _

section Logs

variable {logger : String} {p : Log.Record → Prop} (hdebug : ∀ text, p ⟨.debug, logger, text⟩)
  (hinfo : ∀ text, p ⟨.info, logger, text⟩)
include hdebug hinfo

theorem Item.report_logs (item : Item) : (item.report logger).Logs p := by
  cases item with
  | payload marker value =>
    cases marker with
    | directory => exact .log (hinfo _)
    | linker => exact .log (hdebug _)
  | dropped value => exact .log (hdebug _)
  | marker | argument => exact .pure _

theorem report_logs (items : List Item) : (report logger items).Logs p := by
  fun_induction report logger items with
  | case1 => exact .pure _
  | case2 => exact .log (hdebug _)
  | case3 item rest _ ih => exact .bind (item.report_logs hdebug hinfo) fun _ => ih

theorem parse_logs (f : Format) (path : Path) : (f.parse logger path).Logs p :=
  .bind (.look _) fun _ => .bind (report_logs hdebug hinfo _) fun _ => .pure _

end Logs

/-- What is told of the items does not show in what is read. -/
theorem answer_parseLines (f : Format) (logger : String) (lines : List String) (disk : Disk) :
    (f.parseLines logger lines disk).answer = .ok (f.directives lines) := by
  rw [Format.parseLines, (report_quiet _ _).answer_bind, answer_report]
  rfl

/-- Reading a file yields the directives of its lines, or the fault of the file. -/
theorem answer_parse (f : Format) (logger : String) (path : Path) (disk : Disk) :
    (f.parse logger path disk).answer =
      (fun text => f.directives (Text.lines text)) <$> disk.readText path := by
  rw [Format.parse, Step.answer_look_bind]
  cases disk.readText path with
  | error fault => rfl
  | ok text => rw [Answer.ok_bind, answer_parseLines]; rfl

end LinkRelay.BuildScript
