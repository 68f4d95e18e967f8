import LinkRelay.Proofs.BuildScript.Directive
import LinkRelay.Proofs.ControlFlag.CommandLine

namespace LinkRelay.BuildScript

open ControlFlag

/-- What some values ask for. -/
def asked (values : List String) : Directives :=
  .ofItems (Format.usual.items none values)

theorem Marker.text_mem_flags (m : Marker) : m.text ∈ flags := by
  cases m <;> decide

/-- A value flag and the token after it are a marker and its value. -/
theorem items_marker (m : Marker) (value : String) (rest : List String) :
    pending none (m.text :: value :: rest) = pending none rest ∧
    Format.usual.items none (m.text :: value :: rest) =
      .marker m :: .payload m value :: Format.usual.items none rest := by
  constructor
  · rw [pending, m.ofString?_text, pending]
  · rw [Format.items, m.ofString?_text]
    rfl

/-- A value that is no marker becomes an argument or is dropped. -/
theorem asked_cons {value : String} (hvalue : ∀ m : Marker, value ≠ m.text) (rest : List String) :
    pending none (value :: rest) = pending none rest ∧
    asked (value :: rest) =
      if Text.startsWith value flagStart then asked rest
      else { asked rest with arguments := value :: (asked rest).arguments } := by
  have hmarker := Marker.ofString?_eq_none_iff.mpr hvalue
  refine ⟨by rw [pending, hmarker], ?_⟩
  have hdropped : Format.usual.dropped = flagStart := rfl
  rw [asked, Format.items, hmarker]
  simp only [hdropped]
  split
  · rw [Directives.ofItems_dropped, asked]
  · rw [Directives.ofItems_argument, asked]

/-- A flag that takes no value from the next token is dropped. -/
theorem asked_flag {token flag : String} (hflag : flag ∈ flags) (hspells : Spells token flag)
    (hvalue : ∀ m : Marker, token ≠ m.text) (rest : List String) :
    pending none (token :: rest) = pending none rest ∧ asked (token :: rest) = asked rest := by
  obtain ⟨hpending, hasked⟩ := asked_cons hvalue rest
  rw [if_pos (startsWith_flagStart_of_spells hflag hspells)] at hasked
  exact ⟨hpending, hasked⟩

/-- The flag that collapses libraries is no marker, however it is spelled. -/
theorem ne_marker_of_collapse {token : String} (hspells : Spells token collapseFlag) (m : Marker) :
    token ≠ m.text := by
  rintro rfl
  obtain heq | ⟨value, heq⟩ := hspells
  · revert heq
    cases m <;> decide
  · exact flag_ne_append m.text_mem_flags _ _ heq

/-- No token holds a value flag together with its value. -/
def Apart (tokens : List String) : Prop :=
  ∀ token ∈ tokens, ∀ m : Marker, ¬ Text.startsWith token (m.text ++ "=") = true

theorem Apart.tail {token : String} {tokens : List String} (hapart : Apart (token :: tokens)) :
    Apart tokens :=
  (List.forall_mem_cons.mp hapart).2

/-- A marker that stands in one token with its value is not apart from it. -/
theorem not_apart_inline (m : Marker) (value : String) (tokens : List String) :
    ¬ Apart ((m.text ++ "=" ++ value) :: tokens) := by
  intro hapart
  exact hapart _ List.mem_cons_self m (Text.startsWith_append _ value)

/-- Values ask for what a command line asks for, as far as directives can say it. -/
structure Follows (tokens : List String) (r : Request) : Prop where
  settled : pending none tokens = none
  arguments : (asked tokens).arguments =
    r.remaining.filter fun token => !Text.startsWith token flagStart
  directory : Apart tokens → (asked tokens).directory = r.directory
  linker : Apart tokens → (asked tokens).linker = r.linker

/-- A token that is no control flag goes to the linker, after whatever the rest asks for. -/
theorem Follows.passed {token : String} {tokens : List String} {r : Request}
    (hfollows : Follows tokens r) (hpassed : ∀ flag ∈ flags, ¬ Spells token flag) :
    Follows (token :: tokens) { r with remaining := token :: r.remaining } := by
  have hvalue (m : Marker) : token ≠ m.text :=
    fun heq => hpassed m.text m.text_mem_flags (Or.inl heq)
  obtain ⟨hpending, hasked⟩ := asked_cons hvalue tokens
  have hsettled : pending none (token :: tokens) = none := hpending.trans hfollows.settled
  cases hstart : Text.startsWith token flagStart with
  | true =>
    rw [hstart, if_pos rfl] at hasked
    refine ⟨hsettled, ?_, fun hapart => ?_, fun hapart => ?_⟩
    · rw [hasked, hfollows.arguments]
      simp [hstart]
    · rw [hasked, hfollows.directory hapart.tail]
    · rw [hasked, hfollows.linker hapart.tail]
  | false =>
    rw [hstart, if_neg Bool.false_ne_true] at hasked
    refine ⟨hsettled, ?_, fun hapart => ?_, fun hapart => ?_⟩
    · rw [hasked]
      simp [hstart, hfollows.arguments]
    · rw [hasked]
      exact hfollows.directory hapart.tail
    · rw [hasked]
      exact hfollows.linker hapart.tail

/-- A flag that is dropped may ask for something that directives cannot say. -/
theorem Follows.flag {token flag : String} {tokens : List String} {r r' : Request}
    (hfollows : Follows tokens r) (hflag : flag ∈ flags) (hspells : Spells token flag)
    (hvalue : ∀ m : Marker, token ≠ m.text) (hremaining : r'.remaining = r.remaining)
    (hsame : Apart (token :: tokens) → r'.directory = r.directory ∧ r'.linker = r.linker) :
    Follows (token :: tokens) r' := by
  obtain ⟨hpending, hasked⟩ := asked_flag hflag hspells hvalue tokens
  refine ⟨hpending.trans hfollows.settled, ?_, fun hapart => ?_, fun hapart => ?_⟩
  · rw [hasked, hremaining, hfollows.arguments]
  · rw [hasked, (hsame hapart).1, hfollows.directory hapart.tail]
  · rw [hasked, (hsame hapart).2, hfollows.linker hapart.tail]

theorem Follows.inline {tokens : List String} {r r' : Request} (hfollows : Follows tokens r)
    (m : Marker) (value : String) (hremaining : r'.remaining = r.remaining) :
    Follows ((m.text ++ "=" ++ value) :: tokens) r' :=
  hfollows.flag m.text_mem_flags (Or.inr ⟨value, rfl⟩)
    (fun m' heq => flag_ne_append m'.text_mem_flags m.text value heq.symm) hremaining
    (fun hapart => absurd hapart (not_apart_inline m value tokens))

/-- A request that is given the value of a marker in front; it counts unless a later one is
there. -/
def requestWith (m : Marker) (value : String) (r : Request) : Request :=
  match m with
  | .directory => { r with directory := r.directory.or (some value) }
  | .linker => { r with linker := r.linker.or (some value) }

/-- A marker and its value in two tokens ask for the same on either side. -/
theorem Follows.pair {tokens : List String} {r : Request} (hfollows : Follows tokens r)
    (m : Marker) (value : String) :
    Follows (m.text :: value :: tokens) (requestWith m value r) := by
  obtain ⟨hpending, hitems⟩ := items_marker m value tokens
  have hasked : asked (m.text :: value :: tokens) = (asked tokens).give m value := by
    rw [asked, hitems, Directives.ofItems_payload, asked]
  have harguments := hfollows.arguments
  refine ⟨hpending.trans hfollows.settled, ?_, fun hapart => ?_, fun hapart => ?_⟩
  · cases m <;> simpa only [hasked, Directives.give, requestWith] using harguments
  · have hdirectory := hfollows.directory hapart.tail.tail
    cases m <;> simp only [hasked, Directives.give, requestWith, hdirectory]
  · have hlinker := hfollows.linker hapart.tail.tail
    cases m <;> simp only [hasked, Directives.give, requestWith, hlinker]

/-- Each way to add tokens to a command line keeps the two together. -/
theorem follows_of_asks {tokens : List String} {r : Request} (hasks : Asks tokens r) :
    Follows tokens r := by
  induction hasks with
  | nothing => exact ⟨rfl, rfl, fun _ => rfl, fun _ => rfl⟩
  | passed hpassed _ ih => exact ih.passed hpassed
  | collapse hspells _ ih =>
    exact ih.flag (by decide) hspells (ne_marker_of_collapse hspells) rfl fun _ => ⟨rfl, rfl⟩
  | @linker written tokens value r hgives _ ih =>
    obtain rfl | rfl := hgives
    · exact ih.pair .linker value
    · exact ih.inline .linker value rfl
  | @directory written tokens value r hgives _ ih =>
    obtain rfl | rfl := hgives
    · exact ih.pair .directory value
    · exact ih.inline .directory value rfl

/-- A value flag at the end, after tokens that ask for something, adds nothing to what these ask
for. -/
theorem asked_dangling {front : List String} {r : Request} (hasks : Asks front r) (m : Marker) :
    asked (front ++ [m.text]) = asked front := by
  have hsettled := (follows_of_asks hasks).settled
  have hlast : Format.usual.items none [m.text] = [.marker m] := by
    rw [Format.items, m.ofString?_text]
    rfl
  rw [asked, items_append, hsettled, hlast, Directives.ofItems_append_marker, asked]

theorem chomp_directive {value : String}
    (hend : value.toList.getLast? ≠ some '\r' ∧ value.toList.getLast? ≠ some '\n') :
    Text.chomp (Format.usual.directive ++ value) = Format.usual.directive ++ value := by
  rw [Text.chomp_eq_self_iff, String.toList_append, List.getLast?_append]
  cases hlast : value.toList.getLast? with
  | none =>
    rw [Option.none_or]
    decide
  | some c =>
    rw [hlast] at hend
    exact hend

theorem answer_parseLines_of_values {values : List String}
    (hends : ∀ value ∈ values,
      value.toList.getLast? ≠ some '\r' ∧ value.toList.getLast? ≠ some '\n')
    (logger : String) (disk : Disk) :
    (Format.usual.parseLines logger (values.map ("cargo:rustc-link-arg=" ++ ·)) disk).answer =
      .ok (asked values) := by
  have hvalues : Format.usual.values (values.map (Format.usual.directive ++ ·)) = values :=
    values_map_directive fun value hvalue => chomp_directive (hends value hvalue)
  rw [answer_parseLines]
  exact congrArg (fun v => Except.ok (asked v)) hvalues

/-- Tokens that a command line can be made of ask for the same as values in the output of a build
script, but for those arguments that start as a flag and those flags whose value stands in their own
token. Where they cannot be a command line, their last one is a flag without a value, and the build
script asks for what it would ask for without it. -/
theorem directives_of_command_line {tokens : List String}
    (hends : ∀ token ∈ tokens,
      token.toList.getLast? ≠ some '\r' ∧ token.toList.getLast? ≠ some '\n')
    (logger : String) (disk : Disk) :
    ∃ d, (Format.usual.parseLines logger (tokens.map ("cargo:rustc-link-arg=" ++ ·)) disk).answer =
        .ok d ∧
      (∀ r, (extract .own tokens disk).answer = .ok r →
        d.arguments = (r.remaining.filter fun token => !Text.startsWith token "--ldproxy") ∧
        ((∀ token ∈ tokens, ¬ Text.startsWith token "--ldproxy-cwd=" = true ∧
            ¬ Text.startsWith token "--ldproxy-linker=" = true) →
          d.directory = r.directory ∧ d.linker = r.linker)) ∧
      ∀ fault, (extract .own tokens disk).answer = .error fault →
        (∃ flag, tokens.getLast? = some flag ∧
          (flag = "--ldproxy-linker" ∨ flag = "--ldproxy-cwd") ∧
          fault = .link (.danglingFlag flag)) ∧
        (Format.usual.parseLines logger (tokens.dropLast.map ("cargo:rustc-link-arg=" ++ ·))
          disk).answer = .ok d := by
  refine ⟨asked tokens, answer_parseLines_of_values hends logger disk, fun r hr => ?_,
    fun fault hfault => ?_⟩
  · rw [answer_extract, scan_eq_ok_iff] at hr
    have hfollows := follows_of_asks hr
    refine ⟨hfollows.arguments, fun hinline => ?_⟩
    have hapart : Apart tokens := by
      intro token htoken m
      cases m with
      | directory => exact (hinline token htoken).1
      | linker => exact (hinline token htoken).2
    exact ⟨hfollows.directory hapart, hfollows.linker hapart⟩
  · rw [answer_extract] at hfault
    obtain ⟨front, r, flag, rfl, hasks, hflag, rfl⟩ :=
      scan_eq_error_iff.mp (Answer.map_eq_error_iff.mp hfault)
    refine ⟨⟨flag, List.getLast?_concat, hflag, rfl⟩, ?_⟩
    have hfront : ∀ token ∈ front,
        token.toList.getLast? ≠ some '\r' ∧ token.toList.getLast? ≠ some '\n' :=
      fun token htoken => hends token (List.mem_append_left _ htoken)
    rw [List.dropLast_concat, answer_parseLines_of_values hfront]
    obtain rfl | rfl := hflag
    · exact congrArg Except.ok (asked_dangling hasks .linker).symm
    · exact congrArg Except.ok (asked_dangling hasks .directory).symm

/-- Both markers take what is behind them, be it a marker, other flags are dropped, and a marker
without a value changes nothing. -/
theorem directives_of_command_line_marked :
    (∃ d, (Format.usual.parseLines "" (["--ldproxy-cwd", "--ldproxy-linker", "-la",
        "--ldproxy-dedup-libs", "--ldproxy", "--ldproxy-linker", "ld"].map
          ("cargo:rustc-link-arg=" ++ ·)) ⟨[], []⟩).answer = .ok d ∧
      d.arguments = ["-la"] ∧ d.directory = some "--ldproxy-linker" ∧ d.linker = some "ld") ∧
    (Format.usual.parseLines "" (["-la", "--ldproxy-cwd"].map ("cargo:rustc-link-arg=" ++ ·))
      ⟨[], []⟩).answer =
    (Format.usual.parseLines "" (["-la"].map ("cargo:rustc-link-arg=" ++ ·)) ⟨[], []⟩).answer := by
  constructor
  · have hends : ∀ token ∈ ["--ldproxy-cwd", "--ldproxy-linker", "-la", "--ldproxy-dedup-libs",
        "--ldproxy", "--ldproxy-linker", "ld"],
        token.toList.getLast? ≠ some '\r' ∧ token.toList.getLast? ≠ some '\n' := by decide
    obtain ⟨d, hd, hagrees, -⟩ := directives_of_command_line hends "" ⟨[], []⟩
    obtain ⟨harguments, hvalues⟩ := hagrees
      ⟨["-la", "--ldproxy"], some "ld", true, some "--ldproxy-linker"⟩ (by decide +kernel)
    obtain ⟨hdirectory, hlinker⟩ := hvalues (by decide)
    exact ⟨d, hd, harguments, hdirectory, hlinker⟩
  · have hends : ∀ token ∈ ["-la", "--ldproxy-cwd"],
        token.toList.getLast? ≠ some '\r' ∧ token.toList.getLast? ≠ some '\n' := by decide
    obtain ⟨d, hd, -, hdangling⟩ := directives_of_command_line hends "" ⟨[], []⟩
    obtain ⟨-, hfront⟩ := hdangling (.link (.danglingFlag "--ldproxy-cwd")) (by rfl)
    exact hd.trans hfront.symm

end LinkRelay.BuildScript
