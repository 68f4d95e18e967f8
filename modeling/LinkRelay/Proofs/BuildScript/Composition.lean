import LinkRelay.Proofs.BuildScript.Directive
import LinkRelay.Proofs.Taker

namespace LinkRelay.BuildScript

/-- The next value after some lines is the value of a marker. -/
def Format.AwaitsValue (f : Format) (lines : List String) : Prop :=
  TakesNext (fun value => (Marker.ofString? value).isSome) (f.values lines)

instance (f : Format) : DecidablePred f.AwaitsValue :=
  fun lines => inferInstanceAs (Decidable (TakesNext _ (f.values lines)))

/-- A line to which carriage returns and line feeds, or none, are added at its end. -/
def EndsLater (line longer : String) : Prop :=
  ∃ ends : String, (∀ c ∈ ends.toList, c = '\r' ∨ c = '\n') ∧ longer = line ++ ends

variable {f : Format} {lines others front marked : List String}

theorem values_append (f : Format) (front back : List String) :
    f.values (front ++ back) = f.values front ++ f.values back := by
  simp only [Format.values, List.filterMap_append]

theorem values_filter (f : Format) (lines : List String) :
    f.values (lines.filter fun line => Text.startsWith (Text.chomp line) f.directive) =
      f.values lines := by
  rw [Format.values, List.filterMap_filter, Format.values]
  refine List.filterMap_congr fun line _ => ?_
  cases hstart : Text.startsWith (Text.chomp line) f.directive with
  | true => rfl
  | false => exact (Text.after?_eq_none_iff.mpr hstart).symm

/-- Line ends behind a line are not part of its value. -/
theorem values_of_endsLater (hlines : List.Forall₂ EndsLater lines others) :
    f.values others = f.values lines := by
  induction hlines with
  | nil => rfl
  | cons hline _ ih =>
    obtain ⟨ends, hends, rfl⟩ := hline
    rw [Format.values] at ih ⊢
    rw [List.filterMap_cons, Text.chomp_append hends, ih]
    rfl

theorem parseLines_congr (hvalues : f.values lines = f.values others) (logger : String) :
    f.parseLines logger lines = f.parseLines logger others := by
  rw [Format.parseLines, Format.parseLines, hvalues]

/-- What lines leave open depends on what the lines before them left open. -/
theorem pending_append (before : Option Marker) (front back : List String) :
    pending before (front ++ back) = pending (pending before front) back := by
  fun_induction pending before front with
  | case1 => rfl
  | case2 m value rest ih => rw [List.cons_append, pending, ih]
  | case3 value rest ih => rw [List.cons_append, pending, ih]

/-- No marker is left without its value unless an odd number of them stands at the end. -/
theorem pending_eq_none_iff {values : List String} : pending none values = none ↔
    ¬ TakesNext (fun value => (Marker.ofString? value).isSome) values := by
  -- Values are read from the front, but what is taken is decided by those just before, so that the
  -- induction adds values at the end.
  induction values using List.reverseRecOn with
  | nil => exact iff_of_true rfl not_takesNext_nil
  | append_singleton values value ih =>
    rw [pending_append, takesNext_concat]
    cases hpending : pending none values with
    | none => simp [pending, ih.mp hpending]
    | some m =>
      have htaken : TakesNext (fun value => (Marker.ofString? value).isSome) values := by
        by_contra hfree
        rw [ih.mpr hfree] at hpending
        cases hpending
      simp [pending, htaken]

/-- Arguments add up, and what is set again replaces what was set. -/
theorem ofItems_append (items others : List Item) :
    Directives.ofItems (items ++ others) =
      ⟨(Directives.ofItems items).arguments ++ (Directives.ofItems others).arguments,
        (Directives.ofItems others).directory.or (Directives.ofItems items).directory,
        (Directives.ofItems others).linker.or (Directives.ofItems items).linker⟩ := by
  simp only [Directives.ofItems, List.filterMap_append, List.getLast?_append]

/-- Lines one after the other ask for what they ask for alone, the later ones before the earlier
ones. -/
theorem directives_append (hfree : ¬ f.AwaitsValue front) (back : List String) :
    f.directives (front ++ back) =
      ⟨(f.directives front).arguments ++ (f.directives back).arguments,
        (f.directives back).directory.or (f.directives front).directory,
        (f.directives back).linker.or (f.directives front).linker⟩ := by
  rw [Format.directives, values_append, items_append, pending_eq_none_iff.mpr hfree,
    ofItems_append, Format.directives, Format.directives]

/-- A marker and its value set one thing and add no argument. -/
theorem directives_of_marked {m : Marker} {value : String}
    (hmarked : f.values marked = [m.text, value]) :
    f.directives marked = Directives.give m value ⟨[], none, none⟩ := by
  have hitems : f.items none [m.text, value] = [.marker m, .payload m value] :=
    items_eq_iff.mpr ⟨rfl, .payload .nil⟩
  rw [Format.directives, hmarked, hitems, Directives.ofItems_payload]
  rfl

/-- A marker that has its value leaves nothing open. -/
theorem not_awaitsValue_of_marked (hfree : ¬ f.AwaitsValue front) {m : Marker} {value : String}
    (hmarked : f.values marked = [m.text, value]) : ¬ f.AwaitsValue (front ++ marked) := by
  have hvalues : f.values (front ++ marked) = (f.values front ++ [m.text]) ++ [value] := by
    rw [values_append, hmarked, List.append_assoc]
    rfl
  have hmarker : TakesNext (fun value => (Marker.ofString? value).isSome)
      (f.values front ++ [m.text]) := takesNext_concat.mpr ⟨by simp, hfree⟩
  rw [Format.AwaitsValue, hvalues, takesNext_concat]
  exact fun hvalue => hvalue.2 hmarker

/-- A marker at the end sets nothing. -/
theorem directives_of_dangling {m : Marker} (hmarked : f.values marked = [m.text]) :
    f.directives marked = ⟨[], none, none⟩ := by
  have hitems : f.items none [m.text] = [.marker m] := items_eq_iff.mpr ⟨rfl, .dangling⟩
  rw [Format.directives, hmarked, hitems]
  rfl

/-- Reading a build script's output always yields directives, which depend on the values of its
directive lines alone, however these lines end. Pieces of an output can be read one after the other,
unless the first leaves a marker without its value. The value that a marker is given is the next
one, whatever it looks like, and a marker at the end changes nothing. No argument is a marker or
starts as the values do that are dropped, and there is one way to tell of all values, in their
order, what they are. -/
theorem directives_compose (f : Format) (logger : String) :
    (∀ lines disk, (f.parseLines logger lines disk).answer = .ok (f.directives lines)) ∧
    (∀ lines, f.parseLines logger
        (lines.filter fun line => Text.startsWith (Text.chomp line) f.directive) =
      f.parseLines logger lines) ∧
    (∀ lines others, List.Forall₂ EndsLater lines others →
      f.parseLines logger others = f.parseLines logger lines) ∧
    (∀ front back, ¬ f.AwaitsValue front → f.directives (front ++ back) =
      ⟨(f.directives front).arguments ++ (f.directives back).arguments,
        (f.directives back).directory.or (f.directives front).directory,
        (f.directives back).linker.or (f.directives front).linker⟩) ∧
    (∀ front marked value, ¬ f.AwaitsValue front → f.values marked = ["--ldproxy-cwd", value] →
      ¬ f.AwaitsValue (front ++ marked) ∧
      f.directives (front ++ marked) = { f.directives front with directory := some value }) ∧
    (∀ front marked value, ¬ f.AwaitsValue front → f.values marked = ["--ldproxy-linker", value] →
      ¬ f.AwaitsValue (front ++ marked) ∧
      f.directives (front ++ marked) = { f.directives front with linker := some value }) ∧
    (∀ front marked, ¬ f.AwaitsValue front →
      (f.values marked = ["--ldproxy-cwd"] ∨ f.values marked = ["--ldproxy-linker"]) →
      f.directives (front ++ marked) = f.directives front) ∧
    (∀ lines, ∀ argument ∈ (f.directives lines).arguments, argument ≠ "--ldproxy-cwd" ∧
      argument ≠ "--ldproxy-linker" ∧ ¬ Text.startsWith argument f.dropped = true) ∧
    ∀ lines, ∃ items, f.directives lines = .ofItems items ∧
      ∀ others, others.map Item.value = f.values lines ∧ f.Reads others ↔ others = items := by
  refine ⟨answer_parseLines f logger, fun lines => parseLines_congr (values_filter f lines) logger,
    fun lines others hlines => parseLines_congr (values_of_endsLater hlines) logger,
    fun front back hfree => directives_append hfree back, ?_, ?_, ?_, ?_, ?_⟩
  · intro front marked value hfree hmarked
    refine ⟨not_awaitsValue_of_marked (m := .directory) hfree hmarked, ?_⟩
    rw [directives_append hfree, directives_of_marked (m := .directory) hmarked]
    simp [Directives.give]
  · intro front marked value hfree hmarked
    refine ⟨not_awaitsValue_of_marked (m := .linker) hfree hmarked, ?_⟩
    rw [directives_append hfree, directives_of_marked (m := .linker) hmarked]
    simp [Directives.give]
  · intro front marked hfree hmarked
    have hnothing : f.directives marked = ⟨[], none, none⟩ := by
      obtain hmarked | hmarked := hmarked
      · exact directives_of_dangling (m := .directory) hmarked
      · exact directives_of_dangling (m := .linker) hmarked
    rw [directives_append hfree, hnothing]
    simp
  · intro lines argument hargument
    obtain ⟨hmarker, hkept⟩ := plain_of_mem_arguments f hargument
    exact ⟨hmarker .directory, hmarker .linker, hkept⟩
  · intro lines
    refine ⟨f.items none (f.values lines), rfl, fun others => ?_⟩
    rw [← items_eq_iff, eq_comm]

/-- A format in which the value of a line is all that follows an equals sign. -/
def briefFormat : Format := ⟨"=", "-x"⟩

/-- Lines in which a marker has another one for its value. -/
def nestedLines : List String := ["=--ldproxy-cwd\r", "note", "=--ldproxy-linker"]

/-- Behind a marker whose value is a marker: an argument, a marker with its value past a line of no
directive, one with an empty value, and one without a value. -/
theorem directives_compose_nested :
    (List.Forall₂ EndsLater ["=-lc", "note"] ["=-lc\n\r", "note"] ∧
      briefFormat.parseLines "" ["=-lc\n\r", "note"] = briefFormat.parseLines "" ["=-lc", "note"]) ∧
    (¬ briefFormat.AwaitsValue nestedLines ∧
      briefFormat.directives (nestedLines ++ ["=-lc"]) = ⟨["-lc"], some "--ldproxy-linker", none⟩) ∧
    (briefFormat.values ["=--ldproxy-cwd", "note", "=-x"] = ["--ldproxy-cwd", "-x"] ∧
      briefFormat.directives (nestedLines ++ ["=--ldproxy-cwd", "note", "=-x"]) =
        ⟨[], some "-x", none⟩) ∧
    (briefFormat.values ["=--ldproxy-linker", "="] = ["--ldproxy-linker", ""] ∧
      briefFormat.directives (nestedLines ++ ["=--ldproxy-linker", "="]) =
        ⟨[], some "--ldproxy-linker", some ""⟩) ∧
    (briefFormat.values ["=--ldproxy-cwd"] = ["--ldproxy-cwd"] ∧
      briefFormat.directives (nestedLines ++ ["=--ldproxy-cwd"]) =
        briefFormat.directives nestedLines) ∧
    "-lc" ∈ (briefFormat.directives ["=-lc", "=-x"]).arguments ∧
      ¬ Text.startsWith "-lc" "-x" = true := by
  obtain ⟨-, -, hends, happend, hdirectory, hlinker, hdangling, hplain, -⟩ :=
    directives_compose briefFormat ""
  have hnested : briefFormat.directives nestedLines = ⟨[], some "--ldproxy-linker", none⟩ := by
    decide +kernel
  have hfree : ¬ briefFormat.AwaitsValue nestedLines := by decide +kernel
  have hlonger : List.Forall₂ EndsLater ["=-lc", "note"] ["=-lc\n\r", "note"] :=
    .cons ⟨"\n\r", by simp, rfl⟩ (.cons ⟨"", by simp, rfl⟩ .nil)
  have hcwd : briefFormat.values ["=--ldproxy-cwd", "note", "=-x"] = ["--ldproxy-cwd", "-x"] := by
    decide +kernel
  have hempty : briefFormat.values ["=--ldproxy-linker", "="] = ["--ldproxy-linker", ""] := by
    decide +kernel
  have hlast : briefFormat.values ["=--ldproxy-cwd"] = ["--ldproxy-cwd"] := by decide +kernel
  have hmem : "-lc" ∈ (briefFormat.directives ["=-lc", "=-x"]).arguments := by decide +kernel
  refine ⟨⟨hlonger, hends _ _ hlonger⟩, ⟨hfree, ?_⟩, ⟨hcwd, ?_⟩, ⟨hempty, ?_⟩,
    ⟨hlast, hdangling _ _ hfree (Or.inl hlast)⟩, hmem, (hplain _ _ hmem).2.2⟩
  · rw [happend _ _ hfree, hnested]
    decide +kernel
  · rw [(hdirectory _ _ _ hfree hcwd).2, hnested]
  · rw [(hlinker _ _ _ hfree hempty).2, hnested]

end LinkRelay.BuildScript
