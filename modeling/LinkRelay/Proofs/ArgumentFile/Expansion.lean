import LinkRelay.Proofs.ArgumentFile.Reading

namespace LinkRelay.ArgumentFile

/-- Something stands under a name, and there are no words in it: it is a directory, or its bytes are
no text, or its text cannot be split. -/
def Unusable (disk : Disk) (name : String) : Prop :=
  disk.stat name = .ok .directory ∨
  ∃ bytes executable, disk.stat name = .ok (.file bytes executable) ∧
    ((∀ text, Utf8.encode text ≠ bytes) ∨
      ∃ text cause, Utf8.encode text = bytes ∧ Words.split (Text.unified text) = .error cause)

/-- What is reported of a file without words. -/
inductive Blames (disk : Disk) (name : String) : LinkError → Prop
  | directory : disk.stat name = .ok .directory →
      Blames disk name (.argumentsUnreadable (Path.ofString name)
        (.refused ⟨some 21, "Is a directory", some (Path.ofString name).toString⟩))
  | notText {bytes : List UInt8} {executable : Bool} {flaw : Utf8.Fault} :
      disk.stat name = .ok (.file bytes executable) → Utf8.decode bytes = .error flaw →
      Blames disk name (.argumentsUnreadable (Path.ofString name) (.notText flaw))
  | unsplittable {text : String} {executable : Bool} {cause : Words.Fault} :
      disk.stat name = .ok (.file (Utf8.encode text) executable) →
      Words.split (Text.unified text) = .error cause →
      Blames disk name (.argumentsUnsplittable (Path.ofString name) cause)

/-- What a token stands for: itself, unless it names something that can be read; then the words
found there, of which those that begin with an at sign are words like any other. -/
inductive Stands (disk : Disk) : String → List String → Prop
  | plain {token : String} : ¬ Text.startsWith token "@" = true → Stands disk token [token]
  | bare : Stands disk "@" ["@"]
  | refused {name : String} {refusal : Refusal} : disk.stat name = .error refusal →
      Stands disk ("@" ++ name) ["@" ++ name]
  | device {name : String} : disk.stat name = .ok .sink → Stands disk ("@" ++ name) []
  | file {name text : String} {executable : Bool} {words : List String} :
      disk.stat name = .ok (.file (Utf8.encode text) executable) →
      Words.split (Text.unified text) = .ok words → Stands disk ("@" ++ name) words

variable {disk : Disk}

/-- What is named and has no words is blamed for one of three reasons. -/
theorem unusable_iff {name : String} : Unusable disk name ↔ ∃ error, Blames disk name error := by
  constructor
  · rintro (hdirectory | ⟨bytes, executable, hfile, hnotText | ⟨text, cause, rfl, hsplit⟩⟩)
    · exact ⟨_, .directory hdirectory⟩
    · cases hdecode : Utf8.decode bytes with
      | error flaw => exact ⟨_, .notText hfile hdecode⟩
      | ok text => exact absurd (Utf8.decode_eq_ok_iff.mp hdecode) (hnotText text)
    · exact ⟨_, .unsplittable hfile hsplit⟩
  · rintro ⟨error, hblames⟩
    cases hblames with
    | directory hdirectory => exact Or.inl hdirectory
    | notText hfile hflaw =>
      refine Or.inr ⟨_, _, hfile, Or.inl fun text hencode => ?_⟩
      rw [Utf8.decode_eq_ok_iff.mpr hencode] at hflaw
      cases hflaw
    | unsplittable hfile hsplit => exact Or.inr ⟨_, _, hfile, Or.inr ⟨_, _, rfl, hsplit⟩⟩

/-- A token that stands for some words is expanded to them. -/
theorem Stands.answer_eq {token : String} {words : List String}
    (hstands : Stands disk token words) : (expandToken token disk).answer = .ok words := by
  cases hstands with
  | plain hplain =>
    rw [expandToken, Text.after?_eq_none_iff.mpr (by simpa using hplain)]
    rfl
  | bare =>
    have hempty : disk.stat "" = .error .missing := rfl
    exact answer_expandToken_of_refused hempty
  | refused hstat => exact answer_expandToken_of_refused hstat
  | device hstat =>
    rw [answer_expandToken_of_node hstat, answer_read,
      Disk.readText_of_sink (Disk.stat_ofString hstat)]
    rfl
  | file hstat hsplit =>
    rw [answer_expandToken_of_node hstat]
    exact (answer_read_eq_ok_iff (Disk.stat_ofString hstat)).mpr hsplit

/-- A token that is blamed is not expanded, and its fault is told. -/
theorem Blames.answer_eq {name : String} {error : LinkError} (hblames : Blames disk name error) :
    (expandToken ("@" ++ name) disk).answer = .error (.link error) := by
  cases hblames with
  | directory hstat =>
    rw [answer_expandToken_of_node hstat, answer_read,
      Disk.readText_of_directory (Disk.stat_ofString hstat)]
    rfl
  | notText hstat hflaw =>
    rw [answer_expandToken_of_node hstat, answer_read,
      Disk.readText_of_notText (Disk.stat_ofString hstat) hflaw]
    rfl
  | unsplittable hstat hsplit =>
    rw [answer_expandToken_of_node hstat, answer_read_of_encoded (Disk.stat_ofString hstat), hsplit]
    rfl

/-- Every token stands for something or names a file without words. -/
theorem stands_or_blames (disk : Disk) (token : String) :
    (∃ words, Stands disk token words) ∨
      ∃ name error, token = "@" ++ name ∧ Blames disk name error := by
  by_cases hplain : Text.startsWith token "@" = true
  · obtain ⟨name, rfl⟩ := Text.startsWith_iff.mp hplain
    cases hstat : disk.stat name with
    | error refusal => exact Or.inl ⟨_, .refused hstat⟩
    | ok node =>
      cases node with
      | directory => exact Or.inr ⟨name, _, rfl, .directory hstat⟩
      | sink => exact Or.inl ⟨_, .device hstat⟩
      | file bytes executable =>
        cases hdecode : Utf8.decode bytes with
        | error flaw => exact Or.inr ⟨name, _, rfl, .notText hstat hdecode⟩
        | ok text =>
          obtain rfl := Utf8.decode_eq_ok_iff.mp hdecode
          cases hsplit : Words.split (Text.unified text) with
          | error cause => exact Or.inr ⟨name, _, rfl, .unsplittable hstat hsplit⟩
          | ok words => exact Or.inl ⟨words, .file hstat hsplit⟩
  · exact Or.inl ⟨_, .plain hplain⟩

/-- Tokens that all stand for something stand for it one after the other. -/
theorem answer_expand_of_stands {argv : List String} {parts : List (List String)}
    (hstands : List.Forall₂ (Stands disk) argv parts) :
    (expand argv disk).answer = .ok parts.flatten := by
  induction hstands with
  | nil => rfl
  | cons htoken _ ih =>
    rw [answer_expand_cons, htoken.answer_eq, ih]
    rfl

/-- The first token that stands for nothing ends the expansion. -/
theorem answer_expand_of_blames {front : List String} {parts : List (List String)} {name : String}
    {error : LinkError} (hstands : List.Forall₂ (Stands disk) front parts)
    (hblames : Blames disk name error) (back : List String) :
    (expand (front ++ ("@" ++ name) :: back) disk).answer = .error (.link error) := by
  rw [answer_expand_append, answer_expand_of_stands hstands, answer_expand_cons, hblames.answer_eq]
  rfl

/-- A command line consists of tokens that stand for something, up to its end or up to a first one
that names a file without words. -/
theorem exists_stands_or_blames (disk : Disk) (argv : List String) :
    (∃ parts, List.Forall₂ (Stands disk) argv parts) ∨
      ∃ front parts name back error, argv = front ++ ("@" ++ name) :: back ∧
        List.Forall₂ (Stands disk) front parts ∧ Blames disk name error := by
  induction argv with
  | nil => exact Or.inl ⟨[], .nil⟩
  | cons token rest ih =>
    obtain ⟨words, htoken⟩ | ⟨name, error, rfl, hblames⟩ := stands_or_blames disk token
    · obtain ⟨parts, hrest⟩ | ⟨front, parts, name, back, error, rfl, hfront, hblames⟩ := ih
      · exact Or.inl ⟨_, .cons htoken hrest⟩
      · exact Or.inr ⟨token :: front, _, name, back, error, rfl, .cons htoken hfront, hblames⟩
    · exact Or.inr ⟨[], [], name, rest, error, rfl, .nil, hblames⟩

/-- Among tokens that all stand for words there is none to blame. -/
theorem not_unusable_of_stands {argv : List String} {parts : List (List String)} {name : String}
    (hstands : List.Forall₂ (Stands disk) argv parts) (hname : "@" ++ name ∈ argv) :
    ¬ Unusable disk name := by
  rw [unusable_iff]
  rintro ⟨error, hblames⟩
  induction hstands with
  | nil => cases hname
  | cons htoken _ ih =>
    obtain rfl | hname := List.mem_cons.mp hname
    · have hanswer := htoken.answer_eq
      rw [hblames.answer_eq] at hanswer
      cases hanswer
    · exact ih hname

/-- A disk with a directory, a file with an open quote and a file of two words. -/
def mixedDisk : Disk where
  nodes := [(["lib"], .directory), (["broken"], .file (Utf8.encode "'-la") false),
    (["args"], .file (Utf8.encode "-la @lib") false)]
  here := []

/-- A command line cannot be expanded exactly if one of its tokens names something that has no
words, and the first such token is blamed; every other command line is expanded to what its tokens
stand for, one after the other. A name that leads to something leads to the same place as the path
that it spells. -/
theorem expand_fails_iff_unusable (argv : List String) (disk : Disk) :
    ((∃ fault, (expand argv disk).answer = .error fault) ↔
      ∃ name, "@" ++ name ∈ argv ∧ Unusable disk name) ∧
    (∀ fault, (expand argv disk).answer = .error fault → ∃ front name back error,
      argv = front ++ ("@" ++ name) :: back ∧
        (∀ other, "@" ++ other ∈ front → ¬ Unusable disk other) ∧ Blames disk name error ∧
          fault = .link error) ∧
    ((∀ name, "@" ++ name ∈ argv → ¬ Unusable disk name) → ∃ parts,
      List.Forall₂ (Stands disk) argv parts ∧ (expand argv disk).answer = .ok parts.flatten) ∧
    ∀ name, disk.exists? name = true → ∃ loc node, disk.walk name = .ok loc ∧
      disk.walk (Path.ofString name).toString = .ok loc ∧ disk.node? loc = some node := by
  have hsame (name : String) (hthere : disk.exists? name = true) : ∃ loc node,
      disk.walk name = .ok loc ∧ disk.walk (Path.ofString name).toString = .ok loc ∧
        disk.node? loc = some node := by
    obtain ⟨node, hstat⟩ := Disk.exists?_iff.mp hthere
    obtain ⟨loc, hwalk, hnode⟩ := Disk.stat_eq_ok_iff.mp hstat
    exact ⟨loc, node, hwalk, Disk.walk_ofString hwalk, hnode⟩
  obtain ⟨parts, hstands⟩ | ⟨front, parts, name, back, error, rfl, hfront, hblames⟩ :=
    exists_stands_or_blames disk argv
  · have hanswer := answer_expand_of_stands hstands
    refine ⟨?_, ?_, fun _ => ⟨parts, hstands, hanswer⟩, hsame⟩
    · rw [hanswer]
      refine iff_of_false (by simp) ?_
      rintro ⟨name, hname, hunusable⟩
      exact not_unusable_of_stands hstands hname hunusable
    · rw [hanswer]
      intro fault hfault
      cases hfault
  · have hanswer := answer_expand_of_blames hfront hblames back
    have hunusable : Unusable disk name := unusable_iff.mpr ⟨error, hblames⟩
    have hname : "@" ++ name ∈ front ++ ("@" ++ name) :: back := by simp
    refine ⟨iff_of_true ⟨_, hanswer⟩ ⟨name, hname, hunusable⟩, ?_,
      fun hnone => absurd hunusable (hnone name hname), hsame⟩
    rw [hanswer]
    intro fault hfault
    cases hfault
    exact ⟨front, name, back, error, rfl, fun other => not_unusable_of_stands hfront, hblames, rfl⟩

/-- A directory is blamed before an open quote that comes later, and a token that only looks like
one of a file stands for itself, also when it was read from a file. -/
theorem expand_fails_iff_unusable_mixed :
    (∃ name error, Blames mixedDisk name error ∧
      (expand ["-lc", "@args", "@lib/.", "@broken"] mixedDisk).answer = .error (.link error)) ∧
    ∃ parts, List.Forall₂ (Stands mixedDisk) ["@args", "@", "@none"] parts ∧
      parts.flatten = ["-la", "@lib", "@", "@none"] := by
  obtain ⟨hfails, hfirst, -⟩ :=
    expand_fails_iff_unusable ["-lc", "@args", "@lib/.", "@broken"] mixedDisk
  have hlib : Unusable mixedDisk "lib/." := Or.inl (by decide +kernel)
  obtain ⟨fault, hfault⟩ := hfails.mpr ⟨"lib/.", by decide, hlib⟩
  obtain ⟨-, name, -, error, -, -, hblames, rfl⟩ := hfirst fault hfault
  obtain ⟨hfails', -, hexpands, -⟩ := expand_fails_iff_unusable ["@args", "@", "@none"] mixedDisk
  have hanswer : (expand ["@args", "@", "@none"] mixedDisk).answer =
      .ok ["-la", "@lib", "@", "@none"] := by decide +kernel
  have hnone : ∀ name, "@" ++ name ∈ ["@args", "@", "@none"] → ¬ Unusable mixedDisk name := by
    intro name hname hunusable
    obtain ⟨fault, hfault⟩ := hfails'.mpr ⟨name, hname, hunusable⟩
    rw [hanswer] at hfault
    cases hfault
  obtain ⟨parts, hstands, hparts⟩ := hexpands hnone
  rw [hanswer] at hparts
  exact ⟨⟨name, error, hblames, hfault⟩, parts, hstands, (Except.ok.inj hparts).symm⟩

end LinkRelay.ArgumentFile
