import LinkRelay.Proofs.ArgumentFile
import LinkRelay.Proofs.ResponseFile
import LinkRelay.Proofs.Words.Plain
import LinkRelay.Proofs.Words.Quoted

namespace LinkRelay.ArgumentFile

/-- A disk with nothing on it. -/
def emptyDisk : Disk where
  nodes := []
  here := []

/-- A path that leads nowhere on the empty disk, and can be written to. -/
def freshPath : Path where
  root := .relative
  parts := ["args"]

/-- A token that a response file gives back: it can be encoded, and needs no quotes. -/
def GivenBack (standIns : Utf8.StandIns) (token : String) : Prop :=
  ¬ standIns.OccursIn token ∧ Words.IsPlain token

/-- Where a file can be written, and no device takes what is written, a list of tokens is written
and read back as it is exactly if each of them can be encoded and none is empty or holds a blank, a
quote or a backslash. From any other list that can be encoded, something else is read, or nothing
can be read. A list that cannot be encoded is not written: the fault blames the bytes that are no
text, and the file is left empty. -/
theorem read_response_file {path : Path} {disk : Disk} (hwritable : disk.Writable path)
    (hdevice : disk.stat path.toString ≠ .ok .sink) (standIns : Utf8.StandIns)
    (tokens : List String) :
    let o := ResponseFile.write standIns tokens path disk
    (o.answer = .ok () ∧ (read path o.disk).answer = .ok tokens ↔
      ∀ token ∈ tokens, GivenBack standIns token) ∧
    (o.answer = .ok () ↔ ∀ token ∈ tokens, ¬ standIns.OccursIn token) ∧
    (o.answer = .ok () → (¬ ∀ token ∈ tokens, Words.IsPlain token) →
      (∃ words, words ≠ tokens ∧ (read path o.disk).answer = .ok words) ∨
      ∃ cause, (read path o.disk).answer = .error (.link (.argumentsUnsplittable path cause))) ∧
    (o.answer ≠ .ok () → ∃ cause,
      standIns.Blames 0 (ResponseFile.text tokens).toList cause ∧
      o.answer = .error (.unencodable cause) ∧ ∃ executable,
        o.disk.stat path.toString = .ok (.file [] executable)) := by
  have hlistable : ¬ ResponseFile.Unlistable standIns tokens ↔
      ∀ token ∈ tokens, ¬ standIns.OccursIn token := by
    simp [ResponseFile.Unlistable]
  obtain ⟨written, hfree, hwrite⟩ | ⟨refusal, hwrite⟩ | ⟨cause, left, hstrands⟩ :=
    ResponseFile.write_cases standIns tokens path disk
  · obtain ⟨executable, hfile⟩ := Disk.stat_of_write hwrite hdevice
    have hread : (read path written).answer = .ok tokens ↔ ∀ token ∈ tokens, Words.IsPlain token :=
      (answer_read_eq_ok_iff hfile).trans Words.split_unified_lines_iff
    rw [ResponseFile.write_of_written hfree hwrite]
    refine ⟨?_, iff_of_true rfl (hlistable.mp hfree), fun _ hspecial => ?_,
      fun hfault => absurd rfl hfault⟩
    · simp only [GivenBack, true_and, hread]
      exact ⟨fun hplain token htoken => ⟨hlistable.mp hfree token htoken, hplain token htoken⟩,
        fun hback token htoken => (hback token htoken).2⟩
    · cases hsplit : Words.split (Text.unified (ResponseFile.text tokens)) with
      | ok words =>
        have hwords := (answer_read_eq_ok_iff hfile).mpr hsplit
        refine Or.inl ⟨words, ?_, hwords⟩
        rintro rfl
        exact hspecial (hread.mp hwords)
      | error cause =>
        refine Or.inr ⟨cause, ?_⟩
        rw [answer_read_of_encoded hfile, hsplit]
        rfl
  · exact absurd hwritable (Disk.not_writable_of_refused (hwrite []))
  · obtain ⟨token, htoken, hoccurs⟩ := hstrands.unlistable
    have hfault : (Except.error (.unencodable cause) : Except Fault Unit) ≠ .ok () := by simp
    rw [ResponseFile.write_of_strands hstrands]
    refine ⟨iff_of_false (fun hboth => hfault hboth.1) fun hback => ?_,
      iff_of_false hfault fun hfree => ?_, fun hok => absurd hok hfault,
      fun _ => ⟨cause, hstrands.blames, rfl, Disk.stat_of_write hstrands.opened hdevice⟩⟩
    · exact (hback token htoken).1 hoccurs
    · exact hfree token htoken hoccurs

/-- A comment sign comes back as it was written, and a backslash before a line feed does not. -/
theorem read_response_file_escaped :
    ((ResponseFile.write .empty ["-la", "#"] freshPath emptyDisk).answer = .ok () ∧
      (read freshPath (ResponseFile.write .empty ["-la", "#"] freshPath emptyDisk).disk).answer =
        .ok ["-la", "#"]) ∧
    ¬ ((ResponseFile.write .empty ["a\\", "b"] freshPath emptyDisk).answer = .ok () ∧
      (read freshPath (ResponseFile.write .empty ["a\\", "b"] freshPath emptyDisk).disk).answer =
        .ok ["a\\", "b"]) := by
  have hwritable : emptyDisk.Writable freshPath :=
    ⟨["args"], by decide +kernel, by decide +kernel⟩
  have hdevice : emptyDisk.stat freshPath.toString ≠ .ok .sink := by decide +kernel
  have hencoded (token : String) : ¬ Utf8.StandIns.empty.OccursIn token :=
    Utf8.StandIns.not_occursIn_empty token
  have hplain : ∀ token ∈ ["-la", "#"], Words.IsPlain token := by decide
  refine ⟨(read_response_file hwritable hdevice .empty ["-la", "#"]).1.mpr fun token htoken =>
    ⟨hencoded token, hplain token htoken⟩, fun hboth => ?_⟩
  have hback := (read_response_file hwritable hdevice .empty ["a\\", "b"]).1.mp hboth
  exact absurd (hback "a\\" List.mem_cons_self).2 (by decide)

/-- A token that needs no quotes is not even written where it is a byte that is no text. -/
theorem plain_token_not_written :
    (∀ token ∈ [ResponseFile.loneByte], Words.IsPlain token) ∧
    (ResponseFile.write .privateUse [ResponseFile.loneByte] freshPath emptyDisk).answer =
      .error (.unencodable ⟨0, [0xFF]⟩) := by
  decide +kernel

/-- Three words in quotes, one of them empty and one with line ends of its own. -/
def threeWordsText : String :=
  "\r\n 'it'\"'\"'s #1'\t''\r'a\r\nb\r'\n"

/-- A disk with these words in a file. -/
def threeWordsDisk : Disk where
  nodes := [(["args"], .file (Utf8.encode threeWordsText) false)]
  here := []

/-- A file of words in quotes is read back word by word, each with a line feed for each of its line
ends, so that the words are read back as they are exactly if they hold no carriage return. -/
theorem read_quoted_words {words : List String} {chars : List Char} {path : Path} {disk : Disk}
    {executable : Bool} (hquoted : Words.Quoted words chars)
    (hfile : disk.stat path.toString = .ok (.file (Utf8.encode (String.ofList chars)) executable)) :
    (read path disk).answer = .ok (words.map Text.unified) ∧
      ((read path disk).answer = .ok words ↔ ∀ word ∈ words, '\r' ∉ word.toList) := by
  have hread : (read path disk).answer = .ok (words.map Text.unified) :=
    (answer_read_eq_ok_iff hfile).mpr (Words.split_unified_of_quoted hquoted)
  have hkept : words.map Text.unified = words ↔ ∀ word ∈ words, '\r' ∉ word.toList := by
    simpa [Text.unified_eq_self_iff] using
      List.map_inj_left (l := words) (f := Text.unified) (g := id)
  exact ⟨hread, by rw [hread, Except.ok.injEq, hkept]⟩

/-- Of three words in quotes, the one with carriage returns comes back with line feeds. -/
theorem read_quoted_words_returning :
    Words.Quoted ["it's #1", "", "a\r\nb\r"] threeWordsText.toList ∧
    (read freshPath threeWordsDisk).answer = .ok ["it's #1", "", "a\nb\n"] ∧
    (read freshPath threeWordsDisk).answer ≠ .ok ["it's #1", "", "a\r\nb\r"] := by
  have hlead : Words.IsSeparation ['\r', '\n', ' '] := by decide
  have htab : Words.IsSeparation ['\t'] := by decide
  have hreturn : Words.IsSeparation ['\r'] := by decide
  have hline : Words.IsSeparation ['\n'] := by decide
  have hrowed : Words.Rowed ["it's #1", "", "a\r\nb\r"] _ :=
    .cons htab (by simp) (.cons hreturn (by simp) (.cons hline (by simp) .nil))
  have hquoted : Words.Quoted ["it's #1", "", "a\r\nb\r"] threeWordsText.toList :=
    ⟨_, _, hlead, hrowed, rfl⟩
  have hfile : threeWordsDisk.stat freshPath.toString =
      .ok (.file (Utf8.encode (String.ofList threeWordsText.toList)) false) := by
    decide +kernel
  obtain ⟨hwords, hkept⟩ := read_quoted_words hquoted hfile
  exact ⟨hquoted, hwords, mt hkept.mp (by decide)⟩

end LinkRelay.ArgumentFile
