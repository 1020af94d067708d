import InkProject.Proofs.Disk.Moved
/- An entry that is taken from its place, and the ways of others: a way that does not ask for
   it goes along with it, and one that does comes to an end there. -/
set_option autoImplicit false

namespace InkProject.Disk

open InkProject.Path Relation

def Walker.moved (old new : Place) (walker : Walker) : Walker := { walker with place := moveWorking old new walker.place }

structure Carried (disk after : Disk) (old new : Place) : Prop where
  beside : ∃ above name other, old = above ++ [name] ∧ new = above ++ [other] ∧ Proper name ∧ Proper other
  gone : after.view old = none
  directory : disk.view old = some Node.emptyDir → after.view new = some Node.emptyDir
  solid : disk.view new ≠ some Node.emptyDir
  kept : ∀ place, place ≠ old → place ≠ new → disk.view place ≠ none →
    after.view (moveWorking old new place) = disk.view place
  origin : ∀ place, after.view place ≠ none → disk.view (moveWorking new old place) ≠ none
  cwd : after.cwd = moveWorking old new disk.cwd

def Vacated (disk : Disk) (old new : Place) : Prop := new ≠ old → disk.view new = none

section

variable {disk after : Disk} {old new place : Place} {name : Bytes} {rest : List Bytes} {links : Nat} {a b : Walker}
  {path : Path} {final : Place} {content : Bytes} {executable : Bool}

theorem parent_stays (same : place ++ [name] = old) : moveWorking old new place = place := by
  apply moved_outside
  rw [← same]
  exact fun inside => absurd inside.length_le (by simp)

theorem moved_back (apart : ¬ new <+: place) : moveWorking new old (moveWorking old new place) = place := by
  by_cases inside : old <+: place
  · obtain ⟨more, rfl⟩ := inside
    rw [moved_below, moved_below]
  · rw [moved_outside inside, moved_outside apart]

namespace Carried

theorem last (carried : Carried disk after old new) :
    ∃ above name other, old = above ++ [name] ∧ new = above ++ [other] := by
  obtain ⟨above, name, other, rfl, rfl, _⟩ := carried.beside
  exact ⟨above, name, other, rfl, rfl⟩

theorem directories (carried : Carried disk after old new) (held : disk.view place = some Node.emptyDir) :
    after.view (moveWorking old new place) = some Node.emptyDir := by
  by_cases itself : place = old
  · subst itself
    rw [moved_self]
    exact carried.directory held
  · have elsewhere : place ≠ new := by
      rintro rfl
      exact carried.solid held
    rw [carried.kept place itself elsewhere (by simp [held]), held]

theorem starting (carried : Carried disk after old new) (path : Path) :
    after.starting path = (disk.starting path).moved old new := by
  rw [Disk.starting, Disk.starting, carried.cwd, startOf_beside carried.last, Walker.moved]

-- A step that asks for neither name is taken at the place that was gone along to.
theorem step (carried : Carried disk after old new) (step : disk.advance ⟨links, place, name :: rest⟩ = some b)
    (notOld : place ++ [name] ≠ old) (notNew : place ++ [name] ≠ new) :
    after.advance (Walker.moved old new ⟨links, place, name :: rest⟩) = some (b.moved old new) := by
  obtain ⟨directory, moves⟩ := advance_cases b step
  have there := carried.directories directory
  have child : moveWorking old new (place ++ [name]) = moveWorking old new place ++ [name] := moved_child name (Ne.symm notOld)
  rcases moves with ⟨here, rfl⟩ | ⟨rfl, rfl⟩ | ⟨proper, node, held, leaf, rfl⟩ | ⟨proper, target, held, jumped⟩
  · exact advance_stay here there
  · refine (advance_up there).trans ?_
    rw [Walker.moved, moved_dropLast carried.last]
  · have same := carried.kept _ notOld notNew (by simp [held])
    rw [child] at same
    refine (advance_down proper there node (same.trans held) leaf).trans ?_
    rw [Walker.moved, child]
  · have same := carried.kept _ notOld notNew (by simp [held])
    rw [child] at same
    refine (advance_jump proper there target (same.trans held)).trans ?_
    cases links with
    | zero => cases jumped
    | succ links =>
      cases jumped
      rw [Walker.jump, Walker.moved, startOf_beside carried.last]

theorem way (carried : Carried disk after old new) (way : disk.Way a b) (clear : ¬ disk.ComesBy a old)
    (free : ¬ disk.ComesBy a new) : after.Way (a.moved old new) (b.moved old new) := by
  induction way using ReflTransGen.head_induction_on with
  | refl => exact .refl
  | @head first next step _ ih =>
    have onward := ih (fun comes => clear (comesBy_step step comes)) (fun comes => free (comesBy_step step comes))
    obtain ⟨links, place, ahead⟩ := first
    cases ahead with
    | nil => cases step
    | cons name rest =>
      exact .head (carried.step step (fun same => clear (comesBy_here same)) (fun same => free (comesBy_here same))) onward

theorem comesBy (carried : Carried disk after old new) (vacant : Vacated disk old new) (comes : disk.ComesBy a place) :
    after.ComesBy (a.moved old new) old ∨ place ≠ old ∧ after.ComesBy (a.moved old new) (moveWorking old new place) := by
  obtain ⟨left, above, last, later, way, rfl⟩ := comes
  induction way using ReflTransGen.head_induction_on with
  | refl =>
    by_cases same : above ++ [last] = old
    · exact .inl ⟨left, _, last, later, .refl, by rw [parent_stays same, same]⟩
    · exact .inr ⟨same, left, _, last, later, .refl, (moved_child last (Ne.symm same)).symm⟩
  | @head first next step _ ih =>
    obtain ⟨links, place, ahead⟩ := first
    cases ahead with
    | nil => cases step
    | cons name rest =>
      by_cases same : place ++ [name] = old
      · exact .inl ⟨links, _, name, rest, .refl, by rw [parent_stays same, same]⟩
      have free : place ++ [name] ≠ new := by
        intro other
        obtain ⟨parent, _, fresh, _, rfl, _, proper⟩ := carried.beside
        obtain ⟨rfl, tail⟩ := List.append_inj' other rfl
        cases tail
        have nothing := vacant fun also => same (other.trans also)
        rw [advance_proper proper (advance_cases next step).1, nothing] at step
        cases step
      have moved := carried.step step same free
      rcases ih with before | ⟨apart, onward⟩
      · exact .inl (comesBy_step moved before)
      · exact .inr ⟨apart, comesBy_step moved onward⟩

theorem leads (carried : Carried disk after old new) (leads : disk.Leads path final)
    (clear : ¬ disk.ComesBy (disk.starting path) old) (free : ¬ disk.ComesBy (disk.starting path) new) :
    after.Leads path (moveWorking old new final) := by
  obtain ⟨checked, links, way⟩ := leads
  refine ⟨checked, links, ?_⟩
  rw [carried.starting]
  exact carried.way way clear free

theorem file (carried : Carried disk after old new) (leads : disk.Leads path final)
    (held : disk.view final = some (.file content executable)) (clear : ¬ disk.ComesBy (disk.starting path) old)
    (free : ¬ disk.ComesBy (disk.starting path) new) :
    ∃ place, after.Leads path place ∧ after.view place = some (.file content executable) := by
  have comes := leads_comesBy leads (leaf_solid held rfl)
  have notOld : final ≠ old := fun same => clear (same ▸ comes)
  have notNew : final ≠ new := fun same => free (same ▸ comes)
  exact ⟨_, carried.leads leads clear free, (carried.kept final notOld notNew (by simp [held])).trans held⟩

theorem stopped (carried : Carried disk after old new) (comes : after.ComesBy (after.starting path) old) (final : Place) :
    ¬ after.Leads path final := by
  obtain ⟨above, name, _, rfl, _, proper, _⟩ := carried.beside
  rintro ⟨_, links, way⟩
  exact clear_of_vacant name proper carried.gone _ links final way comes

theorem lost (carried : Carried disk after old new) (vacant : Vacated disk old new)
    (comes : disk.ComesBy (disk.starting path) old) (final : Place) : ¬ after.Leads path final := by
  apply carried.stopped
  rw [carried.starting]
  rcases carried.comesBy vacant comes with before | ⟨itself, _⟩
  · exact before
  · exact absurd rfl itself

theorem still_lost (carried : Carried disk after old new) (vacant : Vacated disk old new) (proper : Proper name)
    (missing : disk.view (place ++ [name]) = none) (apart : ¬ new <+: place ++ [name])
    (comes : disk.ComesBy (disk.starting path) (place ++ [name])) (final : Place) : ¬ after.Leads path final := by
  rcases carried.comesBy vacant comes with before | ⟨different, onward⟩
  · apply carried.stopped
    rwa [carried.starting]
  · have nothing : after.view (moveWorking old new (place ++ [name])) = none := by
      refine Classical.byContradiction fun held => carried.origin _ held ?_
      rw [moved_back apart, missing]
    rintro ⟨_, links, way⟩
    rw [carried.starting] at way
    rw [moved_child name (Ne.symm different)] at nothing onward
    exact clear_of_vacant name proper nothing _ links final way onward

end Carried

theorem Renamed.carried (renamed : Renamed disk after old new) (different : old ≠ new)
    (beside : ∃ above name other, old = above ++ [name] ∧ new = above ++ [other] ∧ Proper name ∧ Proper other)
    (solid : disk.view new ≠ some Node.emptyDir) : Carried disk after old new where
  beside := beside
  gone := renamed.gone different
  directory held := renamed.arrived_self.trans held
  solid := solid
  kept place notOld notNew held := by
    by_cases inside : old <+: place
    · obtain ⟨more, rfl⟩ := inside
      rw [moved_below, renamed.arrived]
    · have aside : ¬ new <+: place := by
        intro below
        obtain ⟨more, rfl⟩ := below
        exact solid (disk.view_above new more (by simpa using notNew) held)
      rw [moved_outside inside, renamed.view, if_neg aside, if_neg inside]
  origin place held := by rwa [renamed.origin place held]
  cwd := renamed.cwd

theorem removed_carried {node : Node} (ordered : disk.top.Ordered) (held : disk.view old = some node)
    (leaf : node.isDir = false) (named : ∃ above name, old = above ++ [name] ∧ Proper name) :
    Carried disk (disk.set old none) old old := by
  obtain ⟨above, name, rfl, proper⟩ := named
  obtain ⟨gone, kept, back⟩ := removed_keeps ordered (by simp) held leaf
  have solid := leaf_solid held leaf
  refine ⟨⟨above, name, name, rfl, rfl, proper, proper⟩, gone, fun directory => absurd directory solid, solid, ?_, ?_, ?_⟩
  · intro place different _ there
    rw [moveWorking_self]
    exact kept place different there
  · intro place there
    have different : place ≠ above ++ [name] := by
      rintro rfl
      exact there gone
    rwa [moveWorking_self, back place different there]
  · rw [moveWorking_self]
    rfl

end

end InkProject.Disk
