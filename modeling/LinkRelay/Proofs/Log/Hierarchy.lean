import LinkRelay.Log.Hierarchy

namespace LinkRelay.Log

/-- The name of a logger below the base logger, by what follows the dot. -/
def nameBelow (rest : String) : String :=
  baseName ++ "." ++ rest

/-- The base logger's name, or one that is below it for good. -/
def StandsBelow (name : String) : Prop :=
  name = baseName ∨ ∃ rest : String, name = nameBelow rest ∧ rest.toList.head? ≠ some '.'

/-- Two names below the base logger are equal if what comes after the dot is. -/
theorem nameBelow_inj {rest rest' : String} : nameBelow rest = nameBelow rest' ↔ rest = rest' :=
  String.append_right_inj _

theorem baseName_ne_nameBelow (rest : String) : baseName ≠ nameBelow rest := by
  intro heq
  have hlength := congrArg (fun name => name.toList.length) heq
  simp [nameBelow] at hlength

/-- A name goes on from the base logger's safely unless a second dot follows the first. -/
theorem standsBelow_nameBelow_iff {rest : String} :
    StandsBelow (nameBelow rest) ↔ rest.toList.head? ≠ some '.' := by
  constructor
  · rintro (hbase | ⟨rest', hrest, hdot⟩)
    · exact absurd hbase.symm (baseName_ne_nameBelow rest)
    · rwa [nameBelow_inj.mp hrest]
  · exact fun hdot => Or.inr ⟨rest, rfl, hdot⟩

theorem getLast?_ne_of_cons {c d : Char} {chars : List Char}
    (hlast : (c :: chars).getLast? ≠ some d) : chars.getLast? ≠ some d := by
  cases chars with
  | nil => simp
  | cons e chars => rwa [List.getLast?_cons_cons] at hlast

theorem namesAbove_cons {c : Char} (hdot : c ≠ '.') (chars : List Char) :
    namesAbove (c :: chars) = namesAbove chars := by
  rw [namesAbove]
  intro d rest hc
  exact absurd hc hdot

/-- Above a name that goes on from another one stand names between the two, and then whatever stands
above the other one. -/
theorem namesAbove_append (tail : List Char) {lead : List Char} (hlast : lead.getLast? ≠ some '.') :
    ∃ near, namesAbove (lead ++ tail) = near ++ namesAbove tail ∧
      ∀ name ∈ near, ∃ lead', name = lead' ++ tail ∧ lead' ≠ [] ∧
        lead'.length < lead.length ∧ lead'.getLast? ≠ some '.' := by
  induction lead using namesAbove.induct with
  | case1 => exact ⟨[], rfl, by simp⟩
  | case2 c lead ih =>
    have hrest := getLast?_ne_of_cons hlast
    obtain ⟨near, hnear, hall⟩ := ih (getLast?_ne_of_cons hrest)
    refine ⟨(c :: lead ++ tail) :: near, by simp [namesAbove, hnear], ?_⟩
    rw [List.forall_mem_cons]
    refine ⟨⟨c :: lead, rfl, by simp, by simp, hrest⟩, fun name hname => ?_⟩
    obtain ⟨lead', heq, hne, hlt, hlast'⟩ := hall name hname
    exact ⟨lead', heq, hne, by simp only [List.length_cons]; omega, hlast'⟩
  | case3 c lead hpair ih =>
    have hdot : c ≠ '.' := by
      rintro rfl
      cases lead with
      | nil => exact hlast rfl
      | cons d lead => exact hpair d lead rfl rfl
    obtain ⟨near, hnear, hall⟩ := ih (getLast?_ne_of_cons hlast)
    refine ⟨near, by rw [List.cons_append, namesAbove_cons hdot, hnear], fun name hname => ?_⟩
    obtain ⟨lead', heq, hne, hlt, hlast'⟩ := hall name hname
    exact ⟨lead', heq, hne, by simp only [List.length_cons]; omega, hlast'⟩

/-- A name above another one is what is left of a dot in this. -/
theorem exists_append_of_mem_namesAbove {chars name : List Char} (hname : name ∈ namesAbove chars) :
    ∃ lead, chars = lead ++ '.' :: name := by
  induction chars using namesAbove.induct with
  | case1 => cases hname
  | case2 c chars ih =>
    rw [namesAbove, List.mem_cons] at hname
    obtain rfl | hname := hname
    · exact ⟨[], rfl⟩
    · obtain ⟨lead, rfl⟩ := ih hname
      exact ⟨'.' :: c :: lead, rfl⟩
  | case3 c chars hpair ih =>
    rw [namesAbove] at hname
    · obtain ⟨lead, rfl⟩ := ih hname
      exact ⟨c :: lead, rfl⟩
    · exact hpair

theorem length_lt_of_mem_namesAbove {chars name : List Char} (hname : name ∈ namesAbove chars) :
    name.length < chars.length := by
  obtain ⟨lead, rfl⟩ := exists_append_of_mem_namesAbove hname
  simp only [List.length_append, List.length_cons]
  omega

theorem reverse_toList_nameBelow (rest : String) : (nameBelow rest).toList.reverse =
    rest.toList.reverse ++ '.' :: baseName.toList.reverse := by
  simp [nameBelow, baseName]

theorem ofList_reverse_nameBelow (lead : List Char) :
    String.ofList (lead ++ '.' :: baseName.toList.reverse).reverse =
      nameBelow (String.ofList lead.reverse) := by
  rw [← String.toList_inj]
  simp [nameBelow, baseName]

namespace Hierarchy

/-- The nearer names are looked at first. -/
theorem nearest?_append (h : Hierarchy) (near far : List (List Char)) :
    h.nearest? (near ++ far) = (h.nearest? near).or (h.nearest? far) := by
  rw [nearest?, List.map_append, List.find?_append]
  rfl

/-- What is found is known and is one of the names. -/
theorem of_nearest?_eq_some {h : Hierarchy} {names : List (List Char)} {found : String}
    (hfound : h.nearest? names = some found) :
    found ∈ h.known ∧ ∃ name ∈ names, String.ofList name.reverse = found := by
  have hknown := List.find?_some hfound
  exact ⟨by simpa using hknown, List.mem_map.mp (List.mem_of_find?_eq_some hfound)⟩

/-- The nearest logger above a name stands between this and the name that it goes on from, or it is
the nearest above the other one. -/
theorem parent?_cases (h : Hierarchy) {name : String} {lead tail : List Char}
    (hname : name.toList.reverse = lead ++ tail) (hlast : lead.getLast? ≠ some '.') :
    (∃ lead' : List Char, lead' ≠ [] ∧ lead'.length < lead.length ∧ lead'.getLast? ≠ some '.' ∧
      String.ofList (lead' ++ tail).reverse ∈ h.known ∧
      h.parent? name = some (String.ofList (lead' ++ tail).reverse)) ∨
    h.parent? name = h.nearest? (namesAbove tail) := by
  obtain ⟨near, hnear, hall⟩ := namesAbove_append tail hlast
  rw [parent?, hname, hnear, nearest?_append]
  cases hfound : h.nearest? near with
  | none => exact Or.inr rfl
  | some found =>
    obtain ⟨hknown, name, hmem, rfl⟩ := of_nearest?_eq_some hfound
    obtain ⟨lead', rfl, hne, hlt, hlast'⟩ := hall name hmem
    exact Or.inl ⟨lead', hne, hlt, hlast', hknown, rfl⟩

/-- The nearest logger above a name below the base logger is the base logger, or one that stands
between the two. -/
theorem parent?_nameBelow {h : Hierarchy} (hbase : baseName ∈ h.known) {rest : String}
    (hdot : rest.toList.head? ≠ some '.') :
    h.parent? (nameBelow rest) = some baseName ∨
    ∃ rest' : String, rest'.toList.length < rest.toList.length ∧ rest'.toList.head? ≠ some '.' ∧
      h.parent? (nameBelow rest) = some (nameBelow rest') := by
  obtain ⟨lead, -, hlt, hlast, -, hparent⟩ | hparent :=
    h.parent?_cases (reverse_toList_nameBelow rest) (by simpa using hdot)
  · refine Or.inr ⟨String.ofList lead.reverse, by simpa using hlt, by simpa using hlast, ?_⟩
    rw [hparent, ofList_reverse_nameBelow]
  · refine Or.inl (hparent.trans ?_)
    have hnames : namesAbove ('.' :: baseName.toList.reverse) = [baseName.toList.reverse] := by
      decide
    rw [hnames]
    simp [nearest?, hbase]

theorem mem_lineage_self (h : Hierarchy) (n : Nat) (name : String) : name ∈ h.lineage n name := by
  cases n <;> simp [lineage]

theorem lineage_succ {h : Hierarchy} {name above : String} (hparent : h.parent? name = some above)
    (n : Nat) : h.lineage (n + 1) name = name :: h.lineage n above := by
  rw [lineage, hparent]

theorem lineage_of_none {h : Hierarchy} {name : String} (hparent : h.parent? name = none)
    (n : Nat) : h.lineage n name = [name] := by
  cases n with
  | zero => rfl
  | succ n => rw [lineage, hparent]

/-- The base logger is in the lineage of every logger that stands below it. -/
theorem mem_lineage_nameBelow {h : Hierarchy} (hbase : baseName ∈ h.known) {n : Nat}
    {rest : String} (hdot : rest.toList.head? ≠ some '.') (hn : rest.toList.length < n) :
    baseName ∈ h.lineage n (nameBelow rest) := by
  induction n generalizing rest with
  | zero => cases hn
  | succ n ih =>
    obtain hparent | ⟨rest', hlt, hdot', hparent⟩ := parent?_nameBelow hbase hdot
    · rw [lineage_succ hparent]
      exact List.mem_cons_of_mem _ (mem_lineage_self h n baseName)
    · rw [lineage_succ hparent]
      exact List.mem_cons_of_mem _ (ih hdot' (by omega))

theorem isBelowBase_iff {h : Hierarchy} {name : String} :
    h.isBelowBase name = true ↔ baseName ∈ h.lineage name.length name := by
  simp [isBelowBase]

@[simp]
theorem isBelowBase_baseName (h : Hierarchy) : h.isBelowBase baseName = true :=
  isBelowBase_iff.mpr (mem_lineage_self h _ baseName)

/-- The name of a logger goes on with a dot from the name of the nearest logger above it. -/
theorem exists_append_of_parent? {h : Hierarchy} {name above : String}
    (hparent : h.parent? name = some above) : ∃ rest, name = above ++ "." ++ rest := by
  obtain ⟨-, chars, hchars, rfl⟩ := of_nearest?_eq_some hparent
  obtain ⟨lead, hlead⟩ := exists_append_of_mem_namesAbove hchars
  refine ⟨String.ofList lead.reverse, String.toList_inj.mp ?_⟩
  simpa using congrArg List.reverse hlead

/-- A logger is only above names that go on from its own with a dot. -/
theorem exists_append_of_mem_lineage {h : Hierarchy} {n : Nat} {name above : String}
    (habove : above ∈ h.lineage n name) : name = above ∨ ∃ rest, name = above ++ "." ++ rest := by
  induction n generalizing name with
  | zero => exact Or.inl (List.mem_singleton.mp habove).symm
  | succ n ih =>
    cases hparent : h.parent? name with
    | none =>
      rw [lineage_of_none hparent] at habove
      exact Or.inl (List.mem_singleton.mp habove).symm
    | some next =>
      rw [lineage_succ hparent, List.mem_cons] at habove
      obtain rfl | habove := habove
      · exact Or.inl rfl
      · obtain ⟨later, rfl⟩ := exists_append_of_parent? hparent
        obtain rfl | ⟨rest, rfl⟩ := ih habove
        · exact Or.inr ⟨later, rfl⟩
        · exact Or.inr ⟨rest ++ "." ++ later, by simp only [String.append_assoc]⟩

/-- Whatever loggers are known, only a name that goes on with a dot is below the base logger. -/
theorem eq_of_isBelowBase {h : Hierarchy} {name : String} (hbelow : h.isBelowBase name = true) :
    name = baseName ∨ ∃ rest, name = nameBelow rest :=
  exists_append_of_mem_lineage (isBelowBase_iff.mp hbelow)

theorem isBelowBase_nameBelow {h : Hierarchy} (hbase : baseName ∈ h.known) {rest : String}
    (hdot : rest.toList.head? ≠ some '.') : h.isBelowBase (nameBelow rest) = true := by
  refine isBelowBase_iff.mpr (mem_lineage_nameBelow hbase hdot ?_)
  rw [← String.length_toList, nameBelow, String.toList_append, List.length_append]
  have hbase : 0 < (baseName ++ ".").toList.length := by decide
  omega

section StandsBelow

variable {h : Hierarchy} {name : String}

/-- A logger that stands below the base logger finds it, whatever other loggers there are. -/
theorem isBelowBase_of_standsBelow (hbase : baseName ∈ h.known) (hname : StandsBelow name) :
    h.isBelowBase name = true := by
  obtain rfl | ⟨rest, rfl, hdot⟩ := hname
  · exact isBelowBase_baseName h
  · exact isBelowBase_nameBelow hbase hdot

/-- The least level that the base logger accepts. -/
def threshold (h : Hierarchy) : Level :=
  if h.level = 0 then .warning else h.level

/-- A logger below the base logger has the base logger's level. -/
theorem effectiveLevel_of_standsBelow (hbase : baseName ∈ h.known) (hname : StandsBelow name) :
    h.effectiveLevel name = h.threshold := by
  by_cases hlevel : h.level = 0 <;>
    simp [effectiveLevel, threshold, isBelowBase_of_standsBelow hbase hname, hlevel]

/-- A logger below the base logger admits what the base logger's level does. -/
theorem admits_of_standsBelow (hbase : baseName ∈ h.known) (hname : StandsBelow name)
    (level : Level) :
    h.admits name level = (decide (0 < level) && decide (h.threshold ≤ level)) := by
  rw [admits, effectiveLevel_of_standsBelow hbase hname]

end StandsBelow

/-- The base logger's name and some dots after it, reversed. -/
def dotted (n : Nat) : List Char :=
  List.replicate n '.' ++ baseName.toList.reverse

theorem length_dotted (n : Nat) : (dotted n).length = n + baseName.toList.length := by
  simp [dotted]

theorem namesAbove_dotted (n : Nat) :
    namesAbove (dotted (n + 2)) = dotted (n + 1) :: namesAbove (dotted n) :=
  rfl

/-- A nearer name that is not the base logger's hides it, if it is known, or if nothing further
leads there. -/
theorem nearest?_cons_ne {h : Hierarchy} {first : List Char} {far : List (List Char)}
    (hfirst : first.length ≠ baseName.toList.length)
    (hfar : String.ofList first.reverse ∈ h.known ∨ h.nearest? far ≠ some baseName) :
    h.nearest? (first :: far) ≠ some baseName := by
  have hne : String.ofList first.reverse ≠ baseName := by
    intro heq
    rw [← heq] at hfirst
    simp at hfirst
  rw [nearest?, List.map_cons, List.find?_cons]
  split
  · simpa using hne
  · rename_i hunknown
    exact hfar.resolve_left (by simpa using hunknown)

/-- Once the logger with two dots is met, it is in the way of the base logger for longer ones. -/
theorem nearest?_dotted_ne {h : Hierarchy} (hmet : nameBelow "." ∈ h.known) :
    ∀ n, h.nearest? (namesAbove (dotted (n + 2))) ≠ some baseName
  | 0 => by
    have hnone : namesAbove (dotted 0) = [] := by decide
    rw [namesAbove_dotted, hnone]
    exact nearest?_cons_ne (by simp [length_dotted]) (Or.inr (by simp [nearest?]))
  | 1 => by
    rw [namesAbove_dotted]
    exact nearest?_cons_ne (by simp [length_dotted]) (Or.inl hmet)
  | n + 2 => by
    rw [namesAbove_dotted]
    exact nearest?_cons_ne (by simp [length_dotted]) (Or.inr (nearest?_dotted_ne hmet n))

theorem exists_dots (chars : List Char) :
    ∃ n rest, chars = List.replicate n '.' ++ rest ∧ rest.head? ≠ some '.' := by
  induction chars with
  | nil => exact ⟨0, [], rfl, by simp⟩
  | cons c chars ih =>
    by_cases hc : c = '.'
    · obtain ⟨n, rest, rfl, hrest⟩ := ih
      exact ⟨n + 1, rest, by rw [hc, List.replicate_succ, List.cons_append], hrest⟩
    · exact ⟨0, c :: chars, rfl, by simpa using hc⟩

/-- Above the logger with two dots there is at most the one with a single dot. -/
theorem parent?_two_dots {h : Hierarchy} (hone : nameBelow "" ∉ h.known) :
    h.parent? (nameBelow ".") = none := by
  have hnames : namesAbove (nameBelow ".").toList.reverse = [dotted 1] := by decide
  have hdotted : String.ofList (dotted 1).reverse = nameBelow "" := by decide
  rw [parent?, hnames, nearest?, List.map_singleton, hdotted]
  simpa using hone

section Dotted

variable {h : Hierarchy} {rest : String}

/-- Where the base logger, one with two dots and one with at least two are known, and no other, what
is above the last one is at most the second. -/
theorem parent?_of_dot (hdot : rest.toList.head? = some '.') (hmet : nameBelow "." ∈ h.known)
    (hknown : ∀ name ∈ h.known, name = baseName ∨ name = nameBelow "." ∨ name = nameBelow rest) :
    h.parent? (nameBelow rest) = none ∨ h.parent? (nameBelow rest) = some (nameBelow ".") := by
  obtain ⟨n, later, hrest, hlater⟩ := exists_dots rest.toList
  obtain ⟨n, rfl⟩ : ∃ m, n = m + 1 := by
    refine Nat.exists_eq_succ_of_ne_zero ?_
    rintro rfl
    rw [hrest] at hdot
    exact hlater hdot
  have hname : (nameBelow rest).toList.reverse = later.reverse ++ dotted (n + 2) := by
    rw [reverse_toList_nameBelow, hrest, dotted, List.replicate_succ' (n := n + 1)]
    simp
  have hlength : (nameBelow rest).toList.length =
      later.length + (n + 2 + baseName.toList.length) := by
    rw [← List.length_reverse, hname, List.length_append, List.length_reverse, length_dotted]
  have htwo : (nameBelow ".").toList.length = 2 + baseName.toList.length := by decide
  obtain ⟨lead, hne, hlt, -, hfound, -⟩ | hparent :=
    h.parent?_cases hname (by simpa using hlater)
  · -- A name between the two is longer than the first two known ones and shorter than the third.
    have hlead : (String.ofList (lead ++ dotted (n + 2)).reverse).toList.length =
        lead.length + (n + 2 + baseName.toList.length) := by
      rw [String.toList_ofList, List.length_reverse, List.length_append, length_dotted]
    have hpositive : 0 < lead.length := List.length_pos_iff.mpr hne
    rw [List.length_reverse] at hlt
    obtain heq | heq | heq := hknown _ hfound <;> rw [heq] at hlead <;> omega
  · cases hnear : h.nearest? (namesAbove (dotted (n + 2))) with
    | none => exact Or.inl (hparent.trans hnear)
    | some found =>
      obtain ⟨hfound, name, hmem, rfl⟩ := of_nearest?_eq_some hnear
      have hlt := length_lt_of_mem_namesAbove hmem
      obtain heq | heq | heq := hknown _ hfound
      · rw [heq] at hnear
        exact absurd hnear (nearest?_dotted_ne hmet n)
      · rw [heq] at hnear
        exact Or.inr (hparent.trans hnear)
      · rw [← heq, String.toList_ofList, List.length_reverse] at hlength
        rw [length_dotted] at hlt
        omega

/-- A name with two dots in a row after the base logger's is then not below the base logger. -/
theorem not_isBelowBase_of_dot (hdot : rest.toList.head? = some '.')
    (hmet : nameBelow "." ∈ h.known)
    (hknown : ∀ name ∈ h.known, name = baseName ∨ name = nameBelow "." ∨ name = nameBelow rest) :
    ¬ h.isBelowBase (nameBelow rest) = true := by
  have hone : nameBelow "" ∉ h.known := by
    intro hmem
    obtain heq | heq | heq := hknown _ hmem
    · exact baseName_ne_nameBelow "" heq.symm
    · rw [nameBelow_inj] at heq
      revert heq
      decide
    · rw [nameBelow_inj] at heq
      subst heq
      revert hdot
      decide
  rw [isBelowBase_iff]
  obtain hparent | hparent := parent?_of_dot hdot hmet hknown
  · rw [lineage_of_none hparent]
    simpa using baseName_ne_nameBelow rest
  · cases (nameBelow rest).length with
    | zero => simpa [lineage] using baseName_ne_nameBelow rest
    | succ n =>
      rw [lineage_succ hparent, lineage_of_none (parent?_two_dots hone)]
      simpa using ⟨baseName_ne_nameBelow rest, baseName_ne_nameBelow "."⟩

end Dotted

/-- Where the logger with two dots is the only one met so far, no name is below the base logger but
those that are for good. -/
theorem not_isBelowBase_meet {h : Hierarchy} (hknown : h.known = [nameBelow ".", baseName])
    {name : String} (hname : ¬ StandsBelow name) :
    ¬ (h.meet name).isBelowBase name = true := by
  intro hbelow
  obtain rfl | ⟨rest, rfl⟩ := eq_of_isBelowBase hbelow
  · exact hname (Or.inl rfl)
  · have hdot : rest.toList.head? = some '.' := by simpa [standsBelow_nameBelow_iff] using hname
    have hmet : nameBelow "." ∈ (h.meet (nameBelow rest)).known ∧
        ∀ known ∈ (h.meet (nameBelow rest)).known,
          known = baseName ∨ known = nameBelow "." ∨ known = nameBelow rest := by
      rw [meet]
      split <;> simp +contextual [hknown]
    exact not_isBelowBase_of_dot hdot hmet.1 hmet.2 hbelow

end Hierarchy

end LinkRelay.Log
