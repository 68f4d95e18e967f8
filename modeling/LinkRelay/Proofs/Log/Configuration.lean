import LinkRelay.Proofs.Log.Hierarchy
import Mathlib.Logic.Function.Basic

namespace LinkRelay.Log

/-- What is done with loggers. Providers go by numbers; a number that is given to a new provider
stands for this one from then on. -/
inductive Operation where
  | setUp (level : Level) (handler : Handler)
  | provide (provider : Nat) (level : Level) (handler : Handler)
  | ask (provider : Nat) (name : Option String)
  | log (name : Option String) (level : Level)

/-- The loggers, and the providers there are. -/
structure Configuration where
  hierarchy : Hierarchy
  providers : Nat → Option Provider

def Configuration.perform (c : Configuration) : Operation → Configuration
  | .setUp level handler => { c with hierarchy := c.hierarchy.setUp level handler }
  | .provide provider level handler =>
    { c with providers := Function.update c.providers provider (some ⟨level, handler, false⟩) }
  | .ask provider name =>
    match c.providers provider with
    | some p =>
      let (_, p, h) := p.logger name c.hierarchy
      ⟨h, Function.update c.providers provider (some p)⟩
    | none => c
  | .log name level =>
    { c with hierarchy := (c.hierarchy.meet (loggerName name)).ask (loggerName name) level }

/-- What comes of operations, the latest first. -/
def Configuration.after : List Operation → Configuration
  | [] => ⟨.fresh, fun _ => none⟩
  | operation :: before => (after before).perform operation

/-- Whether an operation makes a provider of a number, or asks it for a logger. -/
def Operation.concerns (provider : Nat) : Operation → Bool
  | .provide p _ _ => p = provider
  | .ask p _ => p = provider
  | .setUp _ _ => false
  | .log _ _ => false

/-- How an operation sets the base logger up after others: as it says itself, or as the provider
says that it asks, if this has not been asked before. -/
def setUpBy (before : List Operation) : Operation → Option (Level × Handler)
  | .setUp level handler => some (level, handler)
  | .ask provider _ =>
    match before.find? (Operation.concerns provider) with
    | some (.provide _ level handler) => some (level, handler)
    | _ => none
  | .provide _ _ _ => none
  | .log _ _ => none

/-- How the base logger was set up by operations, both the latest first. -/
def setUps : List Operation → List (Level × Handler)
  | [] => []
  | operation :: before => (setUpBy before operation).toList ++ setUps before

namespace Hierarchy

variable {h : Hierarchy} {name : String}

@[simp]
theorem remembered_meet (h : Hierarchy) (name : String) :
    (h.meet name).remembered = h.remembered := by
  rw [meet]
  split <;> rfl

/-- Loggers that are set up as a list of set-ups says, the latest of which comes first. What loggers
below the base logger remember is true. -/
structure Configured (h : Hierarchy) (made : List (Level × Handler)) : Prop where
  level : h.level = (made.head?.map Prod.fst).getD 0
  handlers : h.handlers = (made.getLast?.map Prod.snd).toList
  propagates : h.propagates = made.isEmpty
  known : baseName ∈ h.known
  remembered : ∀ name level answer, ((name, level), answer) ∈ h.remembered → StandsBelow name →
    answer = h.admits name level

namespace Configured

variable {made : List (Level × Handler)}

/-- What a logger below the base logger remembers of an answer is the answer it would give anew. -/
theorem accepts_eq (hmade : Configured h made) (hname : StandsBelow name) (level : Level) :
    h.accepts name level = h.admits name level := by
  rw [accepts]
  cases hlookup : List.lookup (name, level) h.remembered with
  | none => rfl
  | some answer =>
    obtain ⟨before, behind, hsplit, -⟩ := List.lookup_eq_some_iff.mp hlookup
    exact hmade.remembered name level answer (by simp [hsplit]) hname

theorem fresh : Configured .fresh [] where
  level := rfl
  handlers := rfl
  propagates := rfl
  known := List.mem_singleton.mpr rfl
  remembered := by simp [Hierarchy.fresh]

/-- Setting up makes loggers forget, so that nothing they remember can be out of date. -/
theorem setUp (hmade : Configured h made) (level : Level) (handler : Handler) :
    Configured (h.setUp level handler) ((level, handler) :: made) := by
  have hhandlers := hmade.handlers
  cases made with
  | nil =>
    have hnone : h.handlers.isEmpty = true := by simp [hhandlers]
    simp only [Hierarchy.setUp, hnone, if_true]
    exact ⟨rfl, rfl, rfl, hmade.known, by simp⟩
  | cons first made =>
    have hsome : ¬ h.handlers.isEmpty = true := by
      rw [hhandlers, List.getLast?_cons]
      simp
    simp only [Hierarchy.setUp, if_neg hsome]
    exact ⟨rfl, by rw [hhandlers, List.getLast?_cons_cons], hmade.propagates, hmade.known, by simp⟩

/-- Meeting a logger configures nothing. -/
theorem meet (hmade : Configured h made) (name : String) : Configured (h.meet name) made := by
  rw [Hierarchy.meet]
  split
  · exact hmade
  · refine { hmade with known := List.mem_cons_of_mem _ hmade.known, remembered := ?_ }
    intro other level answer hmem hother
    rw [hmade.remembered other level answer hmem hother, admits_of_standsBelow hmade.known hother,
      admits_of_standsBelow (List.mem_cons_of_mem _ hmade.known) hother]
    rfl

/-- Asking a logger configures nothing. -/
theorem ask (hmade : Configured h made) (name : String) (level : Level) :
    Configured (h.ask name level) made := by
  refine { hmade with remembered := ?_ }
  intro other level' answer hmem hother
  have hadmits : (h.ask name level).admits other level' = h.admits other level' := by
    rw [admits_of_standsBelow hmade.known hother, admits_of_standsBelow (h := h.ask name level)
      hmade.known hother]
    rfl
  rw [hadmits]
  obtain hnew | hold := List.mem_cons.mp hmem
  · cases hnew
    exact hmade.accepts_eq hother level
  · exact hmade.remembered other level' answer hold hother

/-- A record of a logger below the base logger is written once and to the first handler, if it is
urgent enough. -/
theorem writes_eq (hmade : Configured h made) {first : Level × Handler}
    (hfirst : made.getLast? = some first) (hname : StandsBelow name) {level : Level}
    (hlevel : 0 < level) (text : String) :
    h.writes ⟨level, name, text⟩ = if h.threshold ≤ level then
      [(first.2.sink, Style.paint first.2.colored level text ++ "\n")] else [] := by
  have hhandlers : h.handlers = [first.2] := by
    rw [hmade.handlers, hfirst]
    rfl
  have hreached : h.reached name = [first.2] := by
    rw [reached, isBelowBase_of_standsBelow hmade.known hname, if_pos rfl, hhandlers]
  simp [writes, hmade.accepts_eq hname, admits_of_standsBelow hmade.known hname, hreached, hlevel]

/-- A record of a logger below the base logger is written nowhere if it is not urgent enough. -/
theorem writes_eq_nil (hmade : Configured h made) (hname : StandsBelow name) {level : Level}
    (hlevel : level < h.threshold) (text : String) : h.writes ⟨level, name, text⟩ = [] := by
  simp [writes, hmade.accepts_eq hname, admits_of_standsBelow hmade.known hname,
    Int.not_le.mpr hlevel]

end Configured

/-- A warning of a logger beside the base logger goes to standard error as it is, if the logger has
not been asked about warnings before. -/
theorem writes_of_not_isBelowBase (hbeside : ¬ h.isBelowBase name = true) {level : Level}
    (hnew : List.lookup (name, level) h.remembered = none) (hlevel : .warning ≤ level)
    (text : String) : h.writes ⟨level, name, text⟩ = [(.standardError, text ++ "\n")] := by
  have hpositive : (0 : Int) < level := Int.lt_of_lt_of_le (by decide) hlevel
  simp [writes, accepts, hnew, admits, effectiveLevel, reached, hbeside, hlevel, hpositive]

end Hierarchy

namespace Configuration

/-- A provider is still to set the base logger up exactly if the latest that was done with it was to
make it. -/
theorem providers_after_iff {history : List Operation} {provider : Nat} {level : Level}
    {handler : Handler} :
    (after history).providers provider = some ⟨level, handler, false⟩ ↔
      history.find? (Operation.concerns provider) = some (.provide provider level handler) := by
  induction history with
  | nil => simp [after]
  | cons operation before ih =>
    rw [after, List.find?_cons]
    cases operation with
    | setUp level' handler' => simpa [perform, Operation.concerns] using ih
    | log name level' => simpa [perform, Operation.concerns] using ih
    | provide other level' handler' =>
      by_cases hother : other = provider
      · subst hother
        simp [perform, Operation.concerns]
      · simpa [perform, Operation.concerns, hother, Function.update_of_ne (Ne.symm hother)] using ih
    | ask other name =>
      by_cases hother : other = provider
      · subst hother
        cases hp : (after before).providers other <;>
          simp [perform, Operation.concerns, Provider.logger, hp]
      · cases hp : (after before).providers other <;>
          simpa [perform, Operation.concerns, hp, hother, Function.update_of_ne (Ne.symm hother)]
            using ih

/-- Asking a provider sets the base logger up exactly if the provider is still to do so. -/
theorem setUpBy_ask_iff {before : List Operation} {provider : Nat} {name : Option String}
    {level : Level} {handler : Handler} :
    setUpBy before (.ask provider name) = some (level, handler) ↔
      (after before).providers provider = some ⟨level, handler, false⟩ := by
  rw [providers_after_iff, setUpBy]
  cases hfind : before.find? (Operation.concerns provider) with
  | none => simp
  | some operation =>
    have hconcerns := List.find?_some hfind
    cases operation with
    | provide other level' handler' =>
      have hother : other = provider := by simpa [Operation.concerns] using hconcerns
      simp [hother]
    | setUp | ask | log => simp

/-- Whatever has happened, the base logger is configured by what set it up. -/
theorem configured_after (history : List Operation) :
    (after history).hierarchy.Configured (setUps history) := by
  induction history with
  | nil => exact .fresh
  | cons operation before ih =>
    rw [after, setUps]
    cases operation with
    | setUp level handler => exact ih.setUp level handler
    | provide provider level handler => exact ih
    | log name level => exact (ih.meet _).ask _ level
    | ask provider name =>
      cases hset : setUpBy before (.ask provider name) with
      | some made =>
        obtain ⟨level, handler⟩ := made
        simp only [perform, setUpBy_ask_iff.mp hset]
        exact (ih.setUp level handler).meet _
      | none =>
        cases hp : (after before).providers provider with
        | none => simpa [perform, hp] using ih
        | some p =>
          have hused : p.used = true := by
            obtain ⟨level, handler, used⟩ := p
            cases used with
            | true => rfl
            | false => cases hset.symm.trans (setUpBy_ask_iff.mpr hp)
          simp only [perform, hp, Provider.logger, hused, if_true]
          exact ih.meet _

end Configuration

/-- Whether the records of a logger go where the base logger was first set up to write, in the
colours that were chosen then, and which of them do depends on their level alone. -/
def Obeys (name : String) : Prop :=
  ∀ history first, (setUps history).getLast? = some first →
    ∀ level text, 0 < level →
      let h := (Configuration.after history).hierarchy.meet name
      h.writes ⟨level, name, text⟩ = if h.threshold ≤ level then
        [(first.2.sink, Style.paint first.2.colored level text ++ "\n")] else []

/-- A logger below the base logger obeys it, whatever has happened. -/
theorem obeys_of_standsBelow {name : String} (hname : StandsBelow name) : Obeys name :=
  fun history _ hfirst _ text hlevel =>
    ((Configuration.configured_after history).meet name).writes_eq hfirst hname hlevel text

/-- The base logger is set up, and the logger with two dots is met. -/
def dottedHistory : List Operation :=
  [.log (some ".") 0, .setUp .info ⟨.stream 1, false⟩]

theorem hierarchy_dottedHistory : (Configuration.after dottedHistory).hierarchy =
    ⟨.info, [⟨.stream 1, false⟩], false, [nameBelow ".", baseName],
      [((nameBelow ".", 0), false)]⟩ := by
  decide

/-- A name with two dots in a row may find its way past the base logger. -/
theorem not_obeys_of_dot {rest : String} (hdot : rest.toList.head? = some '.') :
    ¬ Obeys (nameBelow rest) := by
  intro hobeys
  have hwrites := hobeys dottedHistory (.info, ⟨.stream 1, false⟩) rfl .error "" (by decide)
  have hbeside : ¬ ((Configuration.after dottedHistory).hierarchy.meet (nameBelow rest)).isBelowBase
      (nameBelow rest) = true :=
    Hierarchy.not_isBelowBase_meet (by rw [hierarchy_dottedHistory]) (by
      simpa [standsBelow_nameBelow_iff] using hdot)
  have hnew : List.lookup (nameBelow rest, Level.error)
      ((Configuration.after dottedHistory).hierarchy.meet (nameBelow rest)).remembered = none := by
    simp [hierarchy_dottedHistory, Level.error]
  dsimp only at hwrites
  rw [Hierarchy.writes_of_not_isBelowBase hbeside hnew (by decide)] at hwrites
  split at hwrites <;> simp at hwrites

/-- The base logger is set up by whoever asks for it and by each provider once. It has one handler
from its first set-up on, which is the one that it was then given, and the level of its last one.
The records of a logger below it go to that handler, once each and as the level alone decides,
unless its name goes on with a second dot: no such name is safe. -/
theorem configured_by_setUps (history : List Operation) :
    let h := (Configuration.after history).hierarchy
    h.handlers.length ≤ 1 ∧ (h.handlers.length = 1 ↔ h.propagates = false) ∧
    (h.propagates = false ↔ setUps history ≠ []) ∧
    h.handlers = ((setUps history).getLast?.map Prod.snd).toList ∧
    h.level = ((setUps history).head?.map Prod.fst).getD 0 ∧
    Obeys baseName ∧ ∀ rest, Obeys (nameBelow rest) ↔ rest.toList.head? ≠ some '.' := by
  intro h
  obtain ⟨hlevel, hhandlers, hpropagates, -, -⟩ := Configuration.configured_after history
  have hsafe (rest : String) : Obeys (nameBelow rest) ↔ rest.toList.head? ≠ some '.' :=
    ⟨fun hobeys hdot => not_obeys_of_dot hdot hobeys,
      fun hdot => obeys_of_standsBelow (Or.inr ⟨rest, rfl, hdot⟩)⟩
  have hset : h.propagates = false ↔ setUps history ≠ [] := by
    rw [hpropagates, List.isEmpty_eq_false_iff]
  have hone : h.handlers.length = 1 ↔ setUps history ≠ [] := by
    rw [hhandlers]
    cases setUps history <;> simp [List.getLast?_cons]
  refine ⟨?_, hone.trans hset.symm, hset, hhandlers, hlevel,
    obeys_of_standsBelow (Or.inl rfl), hsafe⟩
  rw [hhandlers]
  cases (setUps history).getLast? <;> simp

/-- A name whose second dot keeps its records from the handler, urgent as they are. -/
theorem record_misses_handler :
    let h := (Configuration.after [.setUp .info ⟨.stream 1, false⟩]).hierarchy
    loggerName (some ".x") = nameBelow ".x" ∧ h.level = .info ∧
    h.handlers = [⟨.stream 1, false⟩] ∧
    (h.meet (nameBelow ".x")).writes ⟨.error, nameBelow ".x", "m"⟩ =
      [(.standardError, "m\n")] := by
  decide

end LinkRelay.Log
