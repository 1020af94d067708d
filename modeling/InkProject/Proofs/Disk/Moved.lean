import InkProject.Proofs.Disk.Clear
import InkProject.Proofs.Disk.Plain
/- Places that went along with a directory, and the ways to directories before and after. -/
set_option autoImplicit false

namespace InkProject.Disk

open InkProject.Path Relation

section

variable {disk after : Disk} {old new place : Place}

theorem moved_below (more : Place) : moveWorking old new (old ++ more) = new ++ more := by
  rw [moveWorking, if_pos (by simp [List.isPrefixOf_iff_prefix]), List.drop_left]

theorem moved_self : moveWorking old new old = new := by
  rw [moveWorking, if_pos (by simp [List.isPrefixOf_iff_prefix]), List.drop_length, List.append_nil]

theorem moved_outside (outside : ¬ old <+: place) : moveWorking old new place = place := by
  rw [moveWorking, if_neg (by simpa [List.isPrefixOf_iff_prefix] using outside)]

theorem Renamed.moved (renamed : Renamed disk after old new) (place : Place) (vacant : disk.view new = none)
    (held : disk.view place ≠ none) : after.view (moveWorking old new place) = disk.view place := by
  by_cases inside : old <+: place
  · obtain ⟨more, rfl⟩ := inside
    rw [moved_below, renamed.arrived]
  · have aside : ¬ new <+: place := fun below => held_above new place below held vacant
    rw [moved_outside inside, renamed.view, if_neg aside, if_neg inside]

theorem Renamed.origin (renamed : Renamed disk after old new) (place : Place) (held : after.view place ≠ none) :
    disk.view (moveWorking new old place) = after.view place := by
  by_cases inside : new <+: place
  · obtain ⟨more, rfl⟩ := inside
    rw [moved_below, renamed.arrived]
  · have seen := renamed.view place
    rw [if_neg inside] at seen
    by_cases below : old <+: place
    · rw [if_pos below] at seen
      exact absurd seen held
    · rw [moved_outside inside, seen, if_neg below]

theorem way_start (links left : Nat) (final : Place) (names : List Bytes) (top : disk.view final = some Node.emptyDir)
    (way : disk.Way ⟨links, place, names⟩ ⟨left, final, []⟩) : disk.view place = some Node.emptyDir := by
  rcases ReflTransGen.cases_head way with same | ⟨next, step, _⟩
  · cases same
    exact top
  · cases names with
    | nil => cases step
    | cons name rest => exact (advance_cases next step).1

theorem way_onward (plain : disk.Plain) (links left : Nat) (final : Place) (name : Bytes) (rest : List Bytes)
    (top : disk.view final = some Node.emptyDir) (way : disk.Way ⟨links, place, name :: rest⟩ ⟨left, final, []⟩) :
    ((name = dot ∨ name = []) ∧ disk.Way ⟨links, place, rest⟩ ⟨left, final, []⟩) ∨
      (name = dots ∧ disk.Way ⟨links, place.dropLast, rest⟩ ⟨left, final, []⟩) ∨
      Proper name ∧ disk.view (place ++ [name]) = some Node.emptyDir ∧
        disk.Way ⟨links, place ++ [name], rest⟩ ⟨left, final, []⟩ := by
  rcases ReflTransGen.cases_head way with same | ⟨next, step, onward⟩
  · cases same
  obtain ⟨_, ⟨here, rfl⟩ | ⟨up, rfl⟩ | ⟨proper, _, _, _, rfl⟩ | ⟨_, target, held, _⟩⟩ := advance_cases next step
  · exact .inl ⟨here, onward⟩
  · exact .inr (.inl ⟨up, onward⟩)
  · exact .inr (.inr ⟨proper, way_start links left final rest top onward, onward⟩)
  · exact absurd held (plain.no_link _ target)

theorem way_directories (plain : disk.Plain)
    (same : ∀ other, disk.view other = some Node.emptyDir → after.view other = some Node.emptyDir) (links left : Nat)
    (final : Place) (names : List Bytes) (top : disk.view final = some Node.emptyDir)
    (way : disk.Way ⟨links, place, names⟩ ⟨left, final, []⟩) : after.Way ⟨links, place, names⟩ ⟨left, final, []⟩ := by
  induction names generalizing place with
  | nil =>
    obtain ⟨rfl, rfl⟩ := way_unique disk _ _ _ _ _ way .refl
    exact .refl
  | cons name rest ih =>
    have directory := same place (way_start links left final _ top way)
    rcases way_onward plain links left final name rest top way with ⟨here, onward⟩ | ⟨rfl, onward⟩ | ⟨proper, below, onward⟩
    · exact .head (advance_stay here directory) (ih onward)
    · exact .head (advance_up directory) (ih onward)
    · exact .head (advance_down proper directory _ (same _ below) (by simp)) (ih onward)

theorem moved_dropLast (last : ∃ above name other, old = above ++ [name] ∧ new = above ++ [other]) :
    moveWorking old new place.dropLast = (moveWorking old new place).dropLast := by
  obtain ⟨above, name, other, rfl, rfl⟩ := last
  by_cases inside : above ++ [name] <+: place
  · obtain ⟨more, rfl⟩ := inside
    rw [moved_below]
    by_cases here : more = []
    · rw [here, List.append_nil, List.append_nil, List.dropLast_concat, List.dropLast_concat]
      exact moved_outside fun inside => absurd inside.length_le (by simp)
    · rw [List.dropLast_append_of_ne_nil here, List.dropLast_append_of_ne_nil here, moved_below]
  · have outside : ¬ above ++ [name] <+: place.dropLast := fun below => inside (below.trans (List.dropLast_prefix place))
    rw [moved_outside inside, moved_outside outside]

theorem moved_child (name : Bytes) (different : old ≠ place ++ [name]) :
    moveWorking old new (place ++ [name]) = moveWorking old new place ++ [name] := by
  by_cases inside : old <+: place
  · obtain ⟨more, rfl⟩ := inside
    rw [List.append_assoc, moved_below, moved_below, List.append_assoc]
  · have outside : ¬ old <+: place ++ [name] := by
      intro below
      rcases List.prefix_concat_iff.mp below with same | below
      · exact different same
      · exact inside below
    rw [moved_outside inside, moved_outside outside]

theorem startOf_beside (last : ∃ above name other, old = above ++ [name] ∧ new = above ++ [other]) (bytes : Bytes) :
    startOf bytes (moveWorking old new place) = moveWorking old new (startOf bytes place) := by
  obtain ⟨above, name, other, rfl, rfl⟩ := last
  by_cases absolute : bytes.head? = some slash
  · rw [startOf, startOf, if_pos absolute, if_pos absolute, moved_outside (by simp)]
  · rw [startOf, startOf, if_neg absolute, if_neg absolute]

theorem way_moved (before : disk.Plain) (later : after.Plain) (gone : after.view old ≠ some Node.emptyDir)
    (last : ∃ above name other, old = above ++ [name] ∧ new = above ++ [other]) (links left more spare : Nat)
    (x y : Place) (names : List Bytes) (topX : disk.view x = some Node.emptyDir) (topY : after.view y = some Node.emptyDir)
    (first : disk.Way ⟨links, place, names⟩ ⟨left, x, []⟩)
    (second : after.Way ⟨more, moveWorking old new place, names⟩ ⟨spare, y, []⟩) : y = moveWorking old new x := by
  induction names generalizing place with
  | nil =>
    rw [(way_unique disk _ _ _ _ _ first .refl).2]
    exact (way_unique after _ _ _ _ _ second .refl).2
  | cons name rest ih =>
    rcases way_onward before links left x name rest topX first with ⟨here, onward⟩ | ⟨rfl, onward⟩ | ⟨proper, below, onward⟩
    · rcases way_onward later more spare y name rest topY second with ⟨_, also⟩ | ⟨rfl, _⟩ | ⟨proper, _, _⟩
      · exact ih onward also
      · exact absurd here (by decide)
      · exact absurd here (by simp [proper.filled, proper.not_dot])
    · rcases way_onward later more spare y dots rest topY second with ⟨here, _⟩ | ⟨_, also⟩ | ⟨proper, _, _⟩
      · exact absurd here (by decide)
      · rw [← moved_dropLast last] at also
        exact ih onward also
      · exact absurd rfl proper.not_dots
    · rcases way_onward later more spare y name rest topY second with ⟨here, _⟩ | ⟨rfl, _⟩ | ⟨_, there, also⟩
      · exact absurd here (by simp [proper.filled, proper.not_dot])
      · exact absurd rfl proper.not_dots
      · have different : old ≠ place ++ [name] := by
          intro same
          have outside : ¬ old <+: place := by
            rw [same]
            exact fun inside => absurd inside.length_le (by simp)
          rw [moved_outside outside, ← same] at there
          exact gone there
        rw [← moved_child name different] at also
        exact ih onward also

def along : Place → List Bytes → Place
  | place, [] => place
  | place, name :: rest =>
    if name = dot ∨ name = [] then along place rest
    else if name = dots then along place.dropLast rest
    else along (place ++ [name]) rest

theorem way_along (plain : disk.Plain) (links left : Nat) (final : Place) (names : List Bytes)
    (top : disk.view final = some Node.emptyDir) (way : disk.Way ⟨links, place, names⟩ ⟨left, final, []⟩) :
    final = along place names := by
  induction names generalizing place with
  | nil => exact (way_unique disk _ _ _ _ _ way .refl).2
  | cons name rest ih =>
    rw [along]
    rcases way_onward plain links left final name rest top way with ⟨here, onward⟩ | ⟨rfl, onward⟩ | ⟨proper, _, onward⟩
    · rw [if_pos here]
      exact ih onward
    · rw [if_neg (by decide), if_pos rfl]
      exact ih onward
    · rw [if_neg (by simp [proper.filled, proper.not_dot]), if_neg proper.not_dots]
      exact ih onward

-- Two ways along the same names stay side by side: at one place, or apart by the move.
theorem along_moved (last : ∃ above name other, old = above ++ [name] ∧ new = above ++ [other]) (x y : Place)
    (names : List Bytes) (start : y = x ∨ y = moveWorking old new x) :
    along y names = along x names ∨ along y names = moveWorking old new (along x names) := by
  induction names generalizing x y with
  | nil => exact start
  | cons name rest ih =>
    rw [along, along]
    by_cases here : name = dot ∨ name = []
    · rw [if_pos here, if_pos here]
      exact ih x y start
    rw [if_neg here, if_neg here]
    by_cases up : name = dots
    · rw [if_pos up, if_pos up]
      apply ih
      rcases start with rfl | rfl
      · exact .inl rfl
      · exact .inr (moved_dropLast last).symm
    · rw [if_neg up, if_neg up]
      apply ih
      rcases start with rfl | rfl
      · exact .inl rfl
      · by_cases itself : old = x ++ [name]
        · have outside : ¬ old <+: x := by
            rw [itself]
            exact fun inside => absurd inside.length_le (by simp)
          rw [moved_outside outside]
          exact .inl rfl
        · exact .inr (moved_child name itself).symm

end

end InkProject.Disk
