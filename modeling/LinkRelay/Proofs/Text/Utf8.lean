import LinkRelay.Proofs.Answer
import LinkRelay.Text.Utf8
import Mathlib.Data.List.Forall2
import Mathlib.Tactic.SplitIfs

namespace LinkRelay.Utf8

/-- As many bytes as ranges, each in its own. -/
abbrev Fits (ranges : List (UInt8 × UInt8)) (bytes : List UInt8) : Prop :=
  List.Forall₂ (fun range b => range.1 ≤ b ∧ b ≤ range.2) ranges bytes

/-- Bytes that fit are all taken, whatever follows them. -/
theorem matching_append_of_fits {ranges : List (UInt8 × UInt8)} {bytes : List UInt8}
    (hfits : Fits ranges bytes) (more : List UInt8) : matching ranges (bytes ++ more) = bytes := by
  induction hfits with
  | nil => cases more <;> rfl
  | cons hb _ ih =>
    simp only [List.cons_append, matching, hb, decide_true, Bool.and_self, if_true, ih]

/-- As many bytes as ranges have been taken only if each is in its own. -/
theorem fits_matching {ranges : List (UInt8 × UInt8)} {bytes : List UInt8}
    (hlength : (matching ranges bytes).length = ranges.length) :
    Fits ranges (matching ranges bytes) := by
  induction ranges generalizing bytes with
  | nil => cases bytes <;> exact .nil
  | cons range ranges ih =>
    cases bytes with
    | nil => simp [matching] at hlength
    | cons b bytes =>
      by_cases hb : range.1 ≤ b ∧ b ≤ range.2
      · simp only [matching, hb, decide_true, Bool.and_self, if_true, List.length_cons] at hlength ⊢
        exact .cons hb (ih (by omega))
      · simp [matching, ← Bool.decide_and, hb] at hlength

/-- No byte is lost between those that are taken and those that are left. -/
theorem matching_append_drop (ranges : List (UInt8 × UInt8)) (bytes : List UInt8) :
    matching ranges bytes ++ bytes.drop (matching ranges bytes).length = bytes := by
  induction ranges generalizing bytes with
  | nil => cases bytes <;> rfl
  | cons range ranges ih =>
    cases bytes with
    | nil => rfl
    | cons b bytes =>
      simp only [matching]
      split
      · simp only [List.length_cons, List.drop_succ_cons, List.cons_append, ih]
      · rfl

/-- How many bytes follow a first byte, and the ranges that bound it and the second byte: no form is
longer than it has to be, no surrogate and nothing past the last character is spelt. -/
theorem followers_cases {first : UInt8} {ranges : List (UInt8 × UInt8)}
    (hfollowers : followers first = some ranges) :
    (ranges = [] ∧ first.toNat < 0x80) ∨
    (ranges = [anyFollower] ∧ 0xC2 ≤ first.toNat ∧ first.toNat < 0xE0) ∨
    (∃ lo hi, ranges = [(lo, hi), anyFollower] ∧ 0xE0 ≤ first.toNat ∧ first.toNat < 0xF0 ∧
      0x80 ≤ lo.toNat ∧ hi.toNat ≤ 0xBF ∧ (first.toNat = 0xE0 → 0xA0 ≤ lo.toNat) ∧
      (first.toNat = 0xED → hi.toNat ≤ 0x9F)) ∨
    (∃ lo hi, ranges = [(lo, hi), anyFollower, anyFollower] ∧ 0xF0 ≤ first.toNat ∧
      first.toNat < 0xF5 ∧ 0x80 ≤ lo.toNat ∧ hi.toNat ≤ 0xBF ∧
      (first.toNat = 0xF0 → 0x90 ≤ lo.toNat) ∧ (first.toNat = 0xF4 → hi.toNat ≤ 0x8F)) := by
  simp only [followers, UInt8.lt_iff_toNat_lt, ← UInt8.toNat_inj, UInt8.reduceToNat] at hfollowers
  have hlo : 0x80 ≤ anyFollower.1.toNat := by decide
  have hhi : anyFollower.2.toNat ≤ 0xBF := by decide
  split_ifs at hfollowers with hone hbad htwo he0 hed hthree hf0 hfour hf4 <;> cases hfollowers
  · exact Or.inl ⟨rfl, hone⟩
  · exact Or.inr (Or.inl ⟨rfl, Nat.not_lt.mp hbad, htwo⟩)
  · refine Or.inr (Or.inr (Or.inl ⟨0xA0, 0xBF, rfl, ?_, ?_, by decide, by decide, ?_, ?_⟩))
    · omega
    · omega
    · exact fun _ => by decide
    · omega
  · refine Or.inr (Or.inr (Or.inl ⟨0x80, 0x9F, rfl, ?_, ?_, by decide, by decide, ?_, ?_⟩))
    · omega
    · omega
    · exact fun h => absurd h he0
    · exact fun _ => by decide
  · refine Or.inr (Or.inr (Or.inl ⟨_, _, rfl, Nat.not_lt.mp htwo, hthree, hlo, hhi, ?_, ?_⟩))
    · exact fun h => absurd h he0
    · exact fun h => absurd h hed
  · refine Or.inr (Or.inr (Or.inr ⟨0x90, 0xBF, rfl, ?_, ?_, by decide, by decide, ?_, ?_⟩))
    · omega
    · omega
    · exact fun _ => by decide
    · omega
  · refine Or.inr (Or.inr (Or.inr ⟨_, _, rfl, Nat.not_lt.mp hthree, ?_, hlo, hhi, ?_, ?_⟩))
    · omega
    · exact fun h => absurd h hf0
    · omega
  · refine Or.inr (Or.inr (Or.inr ⟨0x80, 0x8F, rfl, ?_, ?_, by decide, by decide, ?_, ?_⟩))
    · omega
    · omega
    · exact fun h => absurd h hf0
    · exact fun _ => by decide

private theorem toNat_ofNat_of_lt {n : Nat} (h : n < 256) : (UInt8.ofNat n).toNat = n := by
  rw [UInt8.toNat_ofNat', Nat.mod_eq_of_lt h]

private theorem ofNat_eq_of_eq_toNat {n : Nat} {b : UInt8} (h : n = b.toNat) :
    UInt8.ofNat n = b := by
  rw [h, UInt8.ofNat_toNat]

private theorem fits_anyFollower_iff {b : UInt8} :
    (anyFollower.1 ≤ b ∧ b ≤ anyFollower.2) ↔ 0x80 ≤ b.toNat ∧ b.toNat ≤ 0xBF := by
  simp only [anyFollower, UInt8.le_iff_toNat_le, UInt8.reduceToNat]

private theorem ofNat_fits_anyFollower (n : Nat) :
    anyFollower.1 ≤ UInt8.ofNat (n % 64 + 128) ∧ UInt8.ofNat (n % 64 + 128) ≤ anyFollower.2 := by
  rw [fits_anyFollower_iff, toNat_ofNat_of_lt (by omega)]
  omega

private theorem followers_of_two {first : UInt8} (hlo : 0xC2 ≤ first.toNat)
    (hhi : first.toNat < 0xE0) : followers first = some [anyFollower] := by
  simp only [followers, UInt8.lt_iff_toNat_lt, UInt8.reduceToNat]
  rw [if_neg (by omega), if_neg (by omega), if_pos (by omega)]

/-- The second of three bytes may be any follower, but for short forms and surrogates. -/
private theorem followers_of_three (first second : UInt8) (hlo : 0xE0 ≤ first.toNat)
    (hhi : first.toNat < 0xF0) (hsecond : 0x80 ≤ second.toNat ∧ second.toNat ≤ 0xBF)
    (hshort : first.toNat = 0xE0 → 0xA0 ≤ second.toNat)
    (hsurrogate : first.toNat = 0xED → second.toNat ≤ 0x9F) :
    ∃ range, followers first = some [range, anyFollower] ∧
      range.1 ≤ second ∧ second ≤ range.2 := by
  simp only [followers, UInt8.lt_iff_toNat_lt, ← UInt8.toNat_inj, UInt8.le_iff_toNat_le,
    UInt8.reduceToNat]
  rw [if_neg (by omega), if_neg (by omega), if_neg (by omega)]
  split_ifs <;> first | omega | (refine ⟨_, rfl, ?_⟩; simp [anyFollower]; omega)

private theorem followers_of_four (first second : UInt8) (hlo : 0xF0 ≤ first.toNat)
    (hhi : first.toNat < 0xF5) (hsecond : 0x80 ≤ second.toNat ∧ second.toNat ≤ 0xBF)
    (hshort : first.toNat = 0xF0 → 0x90 ≤ second.toNat)
    (hlast : first.toNat = 0xF4 → second.toNat ≤ 0x8F) :
    ∃ range, followers first = some [range, anyFollower, anyFollower] ∧
      range.1 ≤ second ∧ second ≤ range.2 := by
  simp only [followers, UInt8.lt_iff_toNat_lt, ← UInt8.toNat_inj, UInt8.le_iff_toNat_le,
    UInt8.reduceToNat]
  rw [if_neg (by omega), if_neg (by omega), if_neg (by omega), if_neg (by omega),
    if_neg (by omega), if_neg (by omega)]
  split_ifs <;> first | omega | (refine ⟨_, rfl, ?_⟩; simp [anyFollower]; omega)

/-- The first byte of a written character announces the bytes that follow it. -/
theorem followers_utf8EncodeChar (c : Char) :
    ∃ first ranges taken, String.utf8EncodeChar c = first :: taken ∧
      followers first = some ranges ∧ Fits ranges taken := by
  have hvalid : c.val.toNat < 0xD800 ∨ 0xDFFF < c.val.toNat ∧ c.val.toNat < 0x110000 := c.valid
  unfold String.utf8EncodeChar
  generalize c.val.toNat = v at *
  simp only
  split_ifs with hone htwo hthree
  · have hfirst := toNat_ofNat_of_lt (n := v) (by omega)
    refine ⟨_, _, _, rfl, ?_, .nil⟩
    rw [followers, if_pos]
    simp only [UInt8.lt_iff_toNat_lt, UInt8.reduceToNat]
    omega
  · have hfirst := toNat_ofNat_of_lt (n := v / 64 % 32 + 192) (by omega)
    exact ⟨_, _, _, rfl, followers_of_two (by omega) (by omega),
      .cons (ofNat_fits_anyFollower v) .nil⟩
  · have hfirst := toNat_ofNat_of_lt (n := v / 4096 % 16 + 224) (by omega)
    have hsecond := toNat_ofNat_of_lt (n := v / 64 % 64 + 128) (by omega)
    obtain ⟨range, hfollowers, hfit⟩ := followers_of_three
      (UInt8.ofNat (v / 4096 % 16 + 224)) (UInt8.ofNat (v / 64 % 64 + 128))
      (by omega) (by omega) (by omega) (by omega) (by omega)
    exact ⟨_, _, _, rfl, hfollowers, .cons hfit (.cons (ofNat_fits_anyFollower v) .nil)⟩
  · have hfirst := toNat_ofNat_of_lt (n := v / 262144 % 8 + 240) (by omega)
    have hsecond := toNat_ofNat_of_lt (n := v / 4096 % 64 + 128) (by omega)
    obtain ⟨range, hfollowers, hfit⟩ := followers_of_four
      (UInt8.ofNat (v / 262144 % 8 + 240)) (UInt8.ofNat (v / 4096 % 64 + 128))
      (by omega) (by omega) (by omega) (by omega) (by omega)
    exact ⟨_, _, _, rfl, hfollowers, .cons hfit
      (.cons (ofNat_fits_anyFollower (v / 64)) (.cons (ofNat_fits_anyFollower v) .nil))⟩

private theorem toNat_val_ofNat {n : Nat} (hvalid : n.isValidChar) :
    (Char.ofNat n).val.toNat = n := by
  rw [Char.ofNat, dif_pos hvalid]
  rfl

/-- A first byte and the bytes that it announces are how some character is written. -/
theorem utf8EncodeChar_assemble {first : UInt8} {ranges : List (UInt8 × UInt8)}
    {taken : List UInt8} (hfollowers : followers first = some ranges) (hfits : Fits ranges taken) :
    String.utf8EncodeChar (assemble first taken) = first :: taken := by
  obtain ⟨rfl, hfirst⟩ | ⟨rfl, hlo, hhi⟩ | ⟨lo, hi, rfl, hlo, hhi, hrange⟩ |
    ⟨lo, hi, rfl, hlo, hhi, hrange⟩ := followers_cases hfollowers
  · obtain _ | _ := hfits
    have hval : (Char.ofNat first.toNat).val.toNat = first.toNat :=
      toNat_val_ofNat (Or.inl (by omega))
    change String.utf8EncodeChar (Char.ofNat first.toNat) = _
    simp only [String.utf8EncodeChar, hval]
    rw [if_pos (by omega), ofNat_eq_of_eq_toNat rfl]
  · obtain _ | ⟨hb, _ | _⟩ := hfits
    rename_i b
    rw [fits_anyFollower_iff] at hb
    obtain ⟨n, hn⟩ : ∃ n, n = first.toNat % 32 * 64 + b.toNat % 64 := ⟨_, rfl⟩
    have hval : (Char.ofNat n).val.toNat = n := toNat_val_ofNat (Or.inl (by omega))
    change String.utf8EncodeChar (Char.ofNat (first.toNat % 32 * 64 + b.toNat % 64)) = _
    simp only [← hn, String.utf8EncodeChar, hval]
    rw [if_neg (by omega), if_pos (by omega), ofNat_eq_of_eq_toNat (b := first) (by omega),
      ofNat_eq_of_eq_toNat (b := b) (by omega)]
  · obtain _ | ⟨hb, _ | ⟨hb', _ | _⟩⟩ := hfits
    rename_i b b'
    rw [fits_anyFollower_iff] at hb'
    simp only [UInt8.le_iff_toNat_le] at hb
    obtain ⟨n, hn⟩ : ∃ n, n = (first.toNat % 16 * 64 + b.toNat % 64) * 64 + b'.toNat % 64 :=
      ⟨_, rfl⟩
    have hval : (Char.ofNat n).val.toNat = n :=
      toNat_val_ofNat (by simp only [Nat.isValidChar]; omega)
    change String.utf8EncodeChar
      (Char.ofNat ((first.toNat % 16 * 64 + b.toNat % 64) * 64 + b'.toNat % 64)) = _
    simp only [← hn, String.utf8EncodeChar, hval]
    rw [if_neg (by omega), if_neg (by omega), if_pos (by omega),
      ofNat_eq_of_eq_toNat (b := first) (by omega), ofNat_eq_of_eq_toNat (b := b) (by omega),
      ofNat_eq_of_eq_toNat (b := b') (by omega)]
  · obtain _ | ⟨hb, _ | ⟨hb', _ | ⟨hb'', _ | _⟩⟩⟩ := hfits
    rename_i b b' b''
    rw [fits_anyFollower_iff] at hb' hb''
    simp only [UInt8.le_iff_toNat_le] at hb
    obtain ⟨n, hn⟩ : ∃ n, n = ((first.toNat % 8 * 64 + b.toNat % 64) * 64 + b'.toNat % 64) * 64 +
      b''.toNat % 64 := ⟨_, rfl⟩
    have hval : (Char.ofNat n).val.toNat = n :=
      toNat_val_ofNat (by simp only [Nat.isValidChar]; omega)
    change String.utf8EncodeChar (Char.ofNat (((first.toNat % 8 * 64 + b.toNat % 64) * 64 +
      b'.toNat % 64) * 64 + b''.toNat % 64)) = _
    simp only [← hn, String.utf8EncodeChar, hval]
    rw [if_neg (by omega), if_neg (by omega), if_neg (by omega),
      ofNat_eq_of_eq_toNat (b := first) (by omega), ofNat_eq_of_eq_toNat (b := b) (by omega),
      ofNat_eq_of_eq_toNat (b := b') (by omega), ofNat_eq_of_eq_toNat (b := b'') (by omega)]

/-- No two characters are written with the same bytes. -/
private theorem utf8EncodeChar_injective {c d : Char}
    (heq : String.utf8EncodeChar c = String.utf8EncodeChar d) : c = d := by
  have hbytes : (String.ofList [c]).toByteArray = (String.ofList [d]).toByteArray := by
    rw [String.toByteArray_ofList, String.toByteArray_ofList, List.utf8Encode_singleton,
      List.utf8Encode_singleton, heq]
  simpa using String.ofList_inj.mp (String.toByteArray_inj.mp hbytes)

/-- Decoding reads what was written, from any offset on. -/
theorem decodeFrom_flatMap (chars : List Char) (offset : Nat) :
    decodeFrom offset (chars.flatMap String.utf8EncodeChar) = .ok chars := by
  induction chars generalizing offset with
  | nil => simp [decodeFrom]
  | cons c chars ih =>
    obtain ⟨first, ranges, taken, hencode, hfollowers, hfits⟩ := followers_utf8EncodeChar c
    have hchar : assemble first taken = c :=
      utf8EncodeChar_injective ((utf8EncodeChar_assemble hfollowers hfits).trans hencode.symm)
    rw [List.flatMap_cons, hencode, List.cons_append, decodeFrom]
    simp only [hfollowers, matching_append_of_fits hfits, hfits.length_eq, if_true,
      List.drop_left, ih, hchar]
    rfl

/-- What is read was written so: no bytes are skipped or replaced. -/
theorem flatMap_of_decodeFrom {offset : Nat} {bytes : List UInt8} {chars : List Char}
    (hdecode : decodeFrom offset bytes = .ok chars) :
    chars.flatMap String.utf8EncodeChar = bytes := by
  fun_induction decodeFrom offset bytes generalizing chars with
  | case1 =>
    cases hdecode
    rfl
  | case2 => cases hdecode
  | case3 offset first rest ranges hfollowers taken hlength =>
    rename_i ih
    obtain ⟨others, hothers, rfl⟩ := Answer.map_eq_ok_iff.mp hdecode
    rw [List.flatMap_cons, utf8EncodeChar_assemble hfollowers (fits_matching hlength), ih hothers,
      List.cons_append, matching_append_drop]
  | case4 => cases hdecode
  | case5 => cases hdecode

/-- Decoding accepts the bytes that texts are written with and no others. -/
theorem decode_eq_ok_iff {bytes : List UInt8} {text : String} :
    decode bytes = .ok text ↔ encode text = bytes := by
  constructor
  · intro hdecode
    obtain ⟨chars, hchars, rfl⟩ := Answer.map_eq_ok_iff.mp hdecode
    rw [encode, String.toList_ofList]
    exact flatMap_of_decodeFrom hchars
  · rintro rfl
    rw [decode, encode, decodeFrom_flatMap]
    exact congrArg Except.ok String.ofList_toList

namespace StandIns

variable {standIns : StandIns}

/-- A text that holds a stand-in. -/
def OccursIn (standIns : StandIns) (text : String) : Prop :=
  ∃ c ∈ text.toList, standIns.byte? c ≠ none

instance (standIns : StandIns) (text : String) : Decidable (standIns.OccursIn text) :=
  inferInstanceAs (Decidable (∃ c ∈ text.toList, standIns.byte? c ≠ none))

/-- Characters from an offset of the whole, of which the first stand-ins, all those in a row, are at
the offset and stand for the bytes that a fault tells. -/
def Blames (standIns : StandIns) (offset : Nat) (chars : List Char) (cause : Unencodable) : Prop :=
  ∃ before run after, chars = before ++ (run ++ after) ∧ cause.offset = offset + before.length ∧
    (∀ c ∈ before, standIns.byte? c = none) ∧ run ≠ [] ∧
    run.map standIns.byte? = cause.bytes.map some ∧ ∀ c ∈ after.head?, standIns.byte? c = none

/-- No text holds a stand-in where there are none. -/
theorem not_occursIn_empty (text : String) : ¬ empty.OccursIn text := by
  rintro ⟨c, -, hc⟩
  exact hc rfl

/-- The leading bytes are those of a row of stand-ins that is not followed by another one. -/
theorem exists_run_of_leading (standIns : StandIns) (chars : List Char) :
    ∃ run after, chars = run ++ after ∧
      run.map standIns.byte? = (standIns.leading chars).map some ∧
      ∀ c ∈ after.head?, standIns.byte? c = none := by
  induction chars with
  | nil => exact ⟨[], [], rfl, rfl, by simp⟩
  | cons c chars ih =>
    cases hbyte : standIns.byte? c with
    | none => exact ⟨[], c :: chars, rfl, by simp [leading, hbyte], by simp [hbyte]⟩
    | some b =>
      obtain ⟨run, after, hsplit, hbytes, hafter⟩ := ih
      refine ⟨c :: run, after, by rw [hsplit, List.cons_append], ?_, hafter⟩
      rw [leading, List.map_cons, hbytes, hbyte]
      rfl

/-- A search that finds nothing has seen no stand-in. -/
theorem first?_eq_none_iff {offset : Nat} {chars : List Char} :
    standIns.first? offset chars = none ↔ ∀ c ∈ chars, standIns.byte? c = none := by
  induction chars generalizing offset with
  | nil => simp [first?]
  | cons c chars ih => cases hbyte : standIns.byte? c <;> simp [first?, hbyte, ih]

/-- A search that finds stand-ins blames those that come first. -/
theorem blames_of_first? {offset : Nat} {chars : List Char} {cause : Unencodable}
    (hfirst : standIns.first? offset chars = some cause) : standIns.Blames offset chars cause := by
  induction chars generalizing offset with
  | nil => cases hfirst
  | cons c chars ih =>
    cases hbyte : standIns.byte? c with
    | some b =>
      simp only [first?, hbyte, Option.some.injEq] at hfirst
      subst hfirst
      obtain ⟨run, after, hsplit, hbytes, hafter⟩ := exists_run_of_leading standIns chars
      refine ⟨[], c :: run, after, by rw [hsplit]; rfl, rfl, by simp, by simp, ?_, hafter⟩
      rw [List.map_cons, hbytes, hbyte]
      rfl
    | none =>
      simp only [first?, hbyte] at hfirst
      obtain ⟨before, run, after, hsplit, hoffset, hbefore, hrest⟩ := ih hfirst
      refine ⟨c :: before, run, after, by rw [hsplit]; rfl, ?_, ?_, hrest⟩
      · rw [hoffset, List.length_cons]
        omega
      · exact List.forall_mem_cons.mpr ⟨hbyte, hbefore⟩

/-- A text is encoded unless it holds a stand-in, and then the first of them are blamed. -/
theorem encode_cases (standIns : StandIns) (text : String) :
    (¬ standIns.OccursIn text ∧ standIns.encode text = .ok (Utf8.encode text)) ∨
    ∃ cause, standIns.OccursIn text ∧ standIns.Blames 0 text.toList cause ∧
      standIns.encode text = .error cause := by
  rw [encode]
  cases hfirst : standIns.first? 0 text.toList with
  | none =>
    refine Or.inl ⟨?_, rfl⟩
    rintro ⟨c, hc, hbyte⟩
    exact hbyte (first?_eq_none_iff.mp hfirst c hc)
  | some cause =>
    refine Or.inr ⟨cause, ?_, blames_of_first? hfirst, rfl⟩
    by_contra hnone
    have hfree : ∀ c ∈ text.toList, standIns.byte? c = none := by
      intro c hc
      by_contra hbyte
      exact hnone ⟨c, hc, hbyte⟩
    rw [first?_eq_none_iff.mpr hfree] at hfirst
    cases hfirst

/-- A text has bytes exactly if it holds no stand-in, and then it has those of its characters. -/
theorem encode_eq_ok_iff {text : String} {bytes : List UInt8} :
    standIns.encode text = .ok bytes ↔ ¬ standIns.OccursIn text ∧ Utf8.encode text = bytes := by
  obtain ⟨hfree, hencode⟩ | ⟨cause, hoccurs, -, hencode⟩ := standIns.encode_cases text
  · simp [hencode, hfree]
  · simp [hencode, hoccurs]

/-- A text that cannot be encoded holds stand-ins, and the first of them are blamed. -/
theorem blames_of_encode {text : String} {cause : Unencodable}
    (hencode : standIns.encode text = .error cause) :
    standIns.OccursIn text ∧ standIns.Blames 0 text.toList cause := by
  obtain ⟨-, hok⟩ | ⟨cause', hoccurs, hblames, herror⟩ := standIns.encode_cases text
  · cases hok.symm.trans hencode
  · cases herror.symm.trans hencode
    exact ⟨hoccurs, hblames⟩

end StandIns

end LinkRelay.Utf8
