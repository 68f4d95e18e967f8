import LinkRelay.ArgumentFile
import LinkRelay.Proofs.Disk.Naming
import LinkRelay.Proofs.Step
import LinkRelay.Proofs.Text.Search
import LinkRelay.Proofs.Words

namespace LinkRelay.ArgumentFile

theorem read_quiet (path : Path) : (read path).Quiet := by
  refine .attempt_bind (.look fun _ _ => Disk.readText_regular) (fun text => ?_)
    (fun fault hfault => ?_)
  · refine .bind (.pure _) fun text => .bind (.log ..) fun _ => ?_
    split
    · exact .pure _
    · exact .fail (Fault.regular_link _)
  · cases hcause : fault.readError? with
    | some cause => simp only [hcause]; exact .fail_bind (Fault.regular_link _) _
    | none => simp only [hcause]; exact .fail_bind hfault _

theorem expandToken_quiet (token : String) : (expandToken token).Quiet := by
  rw [expandToken]
  split
  · exact .pure _
  · refine .bind (.look_ok _) fun isThere => ?_
    split
    · exact read_quiet _
    · exact .pure _

/-- Expanding a command line reads the disk and does nothing else. -/
theorem expand_quiet (argv : List String) : (expand argv).Quiet := by
  induction argv with
  | nil => exact .pure _
  | cons token rest ih =>
    exact .bind (expandToken_quiet token) fun _ => .bind ih fun _ => .pure _

/-- A command line is expanded token by token, each on the disk as it was. -/
theorem answer_expand_cons (token : String) (rest : List String) (disk : Disk) :
    (expand (token :: rest) disk).answer = (do
      let first ← (expandToken token disk).answer
      let others ← (expand rest disk).answer
      return first ++ others) := by
  rw [expand, (expandToken_quiet token).answer_bind]
  refine congrArg _ (funext fun first => ?_)
  rw [(expand_quiet rest).answer_bind]
  rfl

/-- Command lines one after the other are expanded one after the other. -/
theorem answer_expand_append (front back : List String) (disk : Disk) :
    (expand (front ++ back) disk).answer = (do
      let first ← (expand front disk).answer
      let others ← (expand back disk).answer
      return first ++ others) := by
  induction front with
  | nil =>
    -- Nothing is expanded in front, and nothing is put in front of what the rest comes to.
    change _ = (expand back disk).answer >>= fun others => pure ([] ++ others)
    cases hback : (expand back disk).answer <;> rw [List.nil_append, hback] <;> rfl
  | cons token front ih =>
    rw [List.cons_append, answer_expand_cons, answer_expand_cons, ih]
    cases (expandToken token disk).answer with
    | error fault => rfl
    | ok first =>
      cases (expand front disk).answer with
      | error fault => rfl
      | ok others =>
        cases (expand back disk).answer with
        | error fault => rfl
        | ok last => exact congrArg Except.ok (List.append_assoc first others last).symm

/-- A command line without argument files stands for itself. -/
theorem answer_expand_of_plain {argv : List String}
    (hplain : ∀ token ∈ argv, ¬ Text.startsWith token "@" = true) (disk : Disk) :
    (expand argv disk).answer = .ok argv := by
  induction argv with
  | nil => rfl
  | cons token rest ih =>
    obtain ⟨htoken, hrest⟩ := List.forall_mem_cons.mp hplain
    have hfirst : expandToken token = pure [token] := by
      rw [expandToken, Text.after?_eq_none_iff.mpr (by simpa using htoken)]
    rw [expand, hfirst, (Step.Quiet.pure _).answer_bind, Step.answer_pure, Answer.ok_bind,
      (expand_quiet rest).answer_bind, ih hrest]
    rfl

/-- The fault of an argument file that cannot be read: that its text cannot be had is reported in
this program's words, and any other fault stays what it is. -/
def readFault (path : Path) (fault : Fault) : Fault :=
  match fault.readError? with
  | some cause => .link (.argumentsUnreadable path cause)
  | none => fault

/-- The words of an argument file with the given text, if it has one. -/
def wordsOf (path : Path) (text : Except Fault String) : Except Fault (List String) := do
  let text ← text.mapError (readFault path)
  (Words.split text).mapError fun cause => .link (.argumentsUnsplittable path cause)

/-- Of the disk the text of the file alone matters. -/
theorem answer_read (path : Path) (disk : Disk) :
    (read path disk).answer = wordsOf path (disk.readText path) := by
  rw [read, Step.answer_bind, Step.answer_attempt, Step.answer_look, Answer.ok_bind, wordsOf]
  cases disk.readText path with
  | ok text =>
    simp only [(Step.Quiet.pure text).answer_bind, Step.answer_pure, Answer.ok_bind, Step.debug,
      Step.answer_log_bind, Answer.mapError_ok]
    cases Words.split text <;> rfl
  | error fault =>
    simp only [Answer.mapError_error, readFault]
    cases fault.readError? <;> rfl

/-- Reading a text file yields the words of its text, or tells why there are none. -/
theorem answer_read_of_encoded {path : Path} {disk : Disk} {text : String} {executable : Bool}
    (hfile : disk.stat path.toString = .ok (.file (Utf8.encode text) executable)) :
    (read path disk).answer = (Words.split (Text.unified text)).mapError fun cause =>
      .link (.argumentsUnsplittable path cause) := by
  rw [answer_read, wordsOf, Disk.readText_of_encoded hfile]
  rfl

/-- The words of a file are those of its text, with its line ends read as line feeds. -/
theorem answer_read_eq_ok_iff {path : Path} {disk : Disk} {text : String} {executable : Bool}
    (hfile : disk.stat path.toString = .ok (.file (Utf8.encode text) executable))
    {words : List String} :
    (read path disk).answer = .ok words ↔ Words.split (Text.unified text) = .ok words := by
  rw [answer_read_of_encoded hfile]
  cases Words.split (Text.unified text) <;> simp

/-- A token whose file is not there, or cannot be asked about, stands for itself. -/
theorem answer_expandToken_of_refused {disk : Disk} {name : String} {refusal : Refusal}
    (hstat : disk.stat name = .error refusal) :
    (expandToken ("@" ++ name) disk).answer = .ok ["@" ++ name] := by
  have habsent : disk.exists? name = false := by
    rw [Disk.exists?, hstat]
    rfl
  rw [expandToken, Text.after?_append]
  simp only [Step.answer_look_bind, habsent, Answer.ok_bind]
  rfl

/-- What stands under a name is read by the path that the name spells. -/
theorem answer_expandToken_of_node {disk : Disk} {name : String} {node : Node}
    (hstat : disk.stat name = .ok node) :
    (expandToken ("@" ++ name) disk).answer = (read (Path.ofString name) disk).answer := by
  have hthere : disk.exists? name = true := Disk.exists?_iff.mpr ⟨node, hstat⟩
  rw [expandToken, Text.after?_append]
  simp only [Step.answer_look_bind, hthere, Answer.ok_bind, if_true]

/-- A file of words in quotes stands for these words. -/
theorem answer_expand_of_written {name : String} {disk : Disk} {words : List String}
    {chars : List Char} {executable : Bool} (hwritten : Words.Written words chars)
    (hreturn : ∀ word ∈ words, '\r' ∉ word.toList)
    (hfile : disk.stat name = .ok (.file (Utf8.encode (String.ofList chars)) executable)) :
    (expand ["@" ++ name] disk).answer = .ok words := by
  have hchars : '\r' ∉ (String.ofList chars).toList := by
    rw [String.toList_ofList]
    exact Words.not_mem_of_written hwritten hreturn
  have hread : (read (Path.ofString name) disk).answer = .ok words := by
    rw [answer_read_eq_ok_iff (Disk.stat_ofString hfile), Text.unified_eq_self_iff.mpr hchars]
    exact Words.split_of_written hwritten
  rw [answer_expand_cons, answer_expandToken_of_node hfile, hread]
  exact congrArg Except.ok (List.append_nil words)

end LinkRelay.ArgumentFile
