import LinkRelay.Proofs.Disk.Naming
import Mathlib.Data.List.DropRight

namespace LinkRelay.Disk

/-- A disk as it is seen by a process that runs in another directory. -/
def seenFrom (disk : Disk) (loc : Location) : Disk :=
  { disk with here := loc }

/-- Whether a component leads on does not depend on where names start. -/
theorem enter_seenFrom (disk : Disk) (loc : Location) : (disk.seenFrom loc).enter = disk.enter :=
  rfl

/-- A way from a directory: how many directories up, and the names from there down. Whatever the
disk, a relative name goes such a way. -/
structure Route where
  up : Nat
  down : List String
deriving DecidableEq, Repr

/-- The way that goes on by one more component. -/
def Route.follow (route : Route) (part : String) : Route :=
  if part = "" || part = "." then route
  else if part = ".." then
    if route.down = [] then ⟨route.up + 1, []⟩ else ⟨route.up, route.down.dropLast⟩
  else ⟨route.up, route.down ++ [part]⟩

/-- Where a way leads from a location. -/
def Route.place (route : Route) (start : Location) : Location :=
  start.rdrop route.up ++ route.down

/-- The way that a relative name says. -/
def routeOf (name : String) : Route :=
  (Text.split '/' name).foldl Route.follow ⟨0, []⟩

/-- Two starts lead to one place exactly if they agree above the height that the way goes up. -/
theorem Route.place_eq_iff (route : Route) {start other : Location} :
    route.place start = route.place other ↔ start.rdrop route.up = other.rdrop route.up :=
  List.append_left_inj _

theorem rdrop_succ (loc : Location) (n : Nat) : loc.rdrop (n + 1) = (loc.rdrop n).dropLast := by
  simp only [List.rdrop, List.dropLast_eq_take, List.take_take, List.length_take]
  congr 1
  omega

/-- One component changes the place that is reached as it changes the way. -/
theorem place_of_enter {disk : Disk} {start loc : Location} {route : Route} {part : String}
    (henter : disk.enter (route.place start) part = .ok loc) :
    loc = (route.follow part).place start := by
  rw [enter] at henter
  rw [Route.follow]
  split at henter
  · cases henter
  · split at henter
    · rename_i hidle
      cases henter
      rw [if_pos hidle]
    · rename_i hidle
      rw [if_neg hidle]
      split at henter
      · rename_i hup
        cases henter
        rw [if_pos hup]
        by_cases hdown : route.down = []
        · rw [if_pos hdown]
          simp [Route.place, hdown, rdrop_succ]
        · rw [if_neg hdown, Route.place, List.dropLast_append_of_ne_nil hdown, Route.place]
      · rename_i hup
        rw [if_neg hup]
        split at henter
        · cases henter
        · cases henter
          simp [Route.place]
  · cases henter

/-- A walk that succeeds ends where the way leads. -/
theorem place_of_foldlM {disk : Disk} {start loc : Location} {parts : List String} {route : Route}
    (hparts : parts.foldlM disk.enter (route.place start) = .ok loc) :
    loc = (parts.foldl Route.follow route).place start := by
  induction parts generalizing route with
  | nil => exact (Except.ok.inj hparts).symm
  | cons part parts ih =>
    rw [List.foldlM_cons] at hparts
    obtain ⟨next, henter, hparts⟩ := Answer.bind_eq_ok_iff.mp hparts
    rw [place_of_enter henter] at hparts
    exact ih hparts

/-- A relative name leads from the current directory along its way. -/
theorem walk_relative {disk : Disk} {name : String} {loc : Location}
    (hrelative : ¬ Text.startsWith name "/" = true) (hwalk : disk.walk name = .ok loc) :
    loc = (routeOf name).place disk.here := by
  obtain ⟨-, -, -, hparts⟩ := walk_eq_ok_iff.mp hwalk
  have hplace : (Route.mk 0 []).place disk.here = disk.here := by simp [Route.place]
  rw [if_neg hrelative, ← hplace] at hparts
  exact place_of_foldlM hparts

/-- An absolute name leads to one place from everywhere. -/
theorem walk_absolute {disk : Disk} {name : String} (habsolute : Text.startsWith name "/" = true)
    (start : Location) : (disk.seenFrom start).walk name = disk.walk name := by
  rw [walk, walk, if_pos habsolute, if_pos habsolute, enter_seenFrom]

/-- Two starts lead to one place if the name is absolute, or else if the way can be gone from both
and the starts agree above the height that it goes up to. -/
theorem walk_seenFrom_iff {disk : Disk} {name : String} {loc : Location}
    (hwalk : disk.walk name = .ok loc) (start : Location) :
    (disk.seenFrom start).walk name = .ok loc ↔
      Text.startsWith name "/" = true ∨
        ((∃ other, (disk.seenFrom start).walk name = .ok other) ∧
          start.rdrop (routeOf name).up = disk.here.rdrop (routeOf name).up) := by
  by_cases habsolute : Text.startsWith name "/" = true
  · exact iff_of_true (by rw [walk_absolute habsolute, hwalk]) (Or.inl habsolute)
  · rw [or_iff_right habsolute]
    have hloc := walk_relative habsolute hwalk
    constructor
    · intro hstart
      have hother := walk_relative habsolute hstart
      exact ⟨⟨loc, hstart⟩, (Route.place_eq_iff _).mp (hother.symm.trans hloc)⟩
    · rintro ⟨⟨other, hstart⟩, hagree⟩
      have hother := walk_relative habsolute hstart
      rw [hstart, hother, hloc]
      exact congrArg Except.ok ((Route.place_eq_iff _).mpr hagree)

/-- A way without a step up stays at its height. -/
theorem up_foldl_follow {parts : List String} (hdown : ".." ∉ parts) (route : Route) :
    (parts.foldl Route.follow route).up = route.up := by
  induction parts generalizing route with
  | nil => rfl
  | cons part parts ih =>
    obtain ⟨hpart, hdown⟩ := not_or.mp (mt List.mem_cons.mpr hdown)
    have hfollow : (route.follow part).up = route.up := by
      rw [Route.follow, if_neg (Ne.symm hpart)]
      split <;> rfl
    rw [List.foldl_cons, ih hdown, hfollow]

/-- Without double dots, nothing but the same start will do. -/
theorem walk_seenFrom_iff_of_down {disk : Disk} {name : String} {loc : Location}
    (hdown : ".." ∉ Text.split '/' name) (hwalk : disk.walk name = .ok loc) (start : Location) :
    (disk.seenFrom start).walk name = .ok loc ↔
      Text.startsWith name "/" = true ∨ start = disk.here := by
  rw [walk_seenFrom_iff hwalk, routeOf, up_foldl_follow hdown, List.rdrop_zero, List.rdrop_zero]
  refine or_congr_right (and_iff_right_of_imp ?_)
  rintro rfl
  exact ⟨loc, hwalk⟩

end LinkRelay.Disk
