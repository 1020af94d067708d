import InkProject.Proofs.Disk.Ending
set_option autoImplicit false

namespace InkProject.Disk

open InkProject.Path

def EndsAt (disk : Disk) (path : Path) (place : Place) : Prop :=
  ∃ parent name slashed, disk.ending path = .ok ⟨parent, some name, slashed⟩ ∧ name.length ≤ nameLimit ∧
    place = parent ++ [name]

section

variable {disk after : Disk} {path source target : Path} {place old new : Place}

theorem endsAt_unique (first : disk.EndsAt path old) (second : disk.EndsAt path new) : old = new := by
  obtain ⟨parent, name, slashed, found, _, rfl⟩ := first
  obtain ⟨_, _, _, other, _, rfl⟩ := second
  rw [found] at other
  cases other
  rfl

theorem endsAt_filled (ends : disk.EndsAt path place) : place ≠ [] := by
  obtain ⟨_, _, _, _, _, rfl⟩ := ends
  simp

theorem endsAt_parent (ends : disk.EndsAt path place) : disk.view place.dropLast = some Node.emptyDir := by
  obtain ⟨parent, name, slashed, found, _, rfl⟩ := ends
  rw [List.dropLast_concat]
  exact ending_parent found

theorem endsAt_way (ends : disk.EndsAt path place) : ∃ front name parent left, path.names = front ++ [name] ∧
    place = parent ++ [name] ∧ Proper name ∧ checkPath path = .ok () ∧
    disk.Way ⟨linkLimit, startOf path.bytes disk.cwd, front⟩ ⟨left, parent, []⟩ ∧
    disk.view parent = some Node.emptyDir := by
  obtain ⟨parent, name, slashed, found, short, rfl⟩ := ends
  obtain ⟨checked, _, links, way, same⟩ := (ending_eq_ok path _).mp found
  rw [Ending.mk.injEq] at same
  obtain ⟨rfl, named, _⟩ := same
  obtain ⟨last, proper⟩ := Option.filter_eq_some_iff.mp named.symm
  obtain ⟨front, whole⟩ := List.getLast?_eq_some_iff.mp last
  have filled : name ≠ [] := by
    have member := List.mem_of_getLast? last
    simpa [Path.names] using (List.mem_filter.mp member).2
  simp only [isName, Bool.and_eq_true, decide_eq_true_eq] at proper
  rw [whole, List.dropLast_concat] at way
  obtain ⟨left, between, before, stays⟩ := way_split disk ⟨_, _, front⟩ [dot] links _ way
  obtain ⟨rfl, top⟩ := way_stay left links between _ dot (.inl rfl) stays
  exact ⟨front, name, parent, left, whole, rfl, ⟨filled, proper.1, proper.2, short⟩, checked, before, top⟩

theorem endsAt_proper (ends : disk.EndsAt path place) : ∃ parent name, place = parent ++ [name] ∧ Proper name := by
  obtain ⟨_, name, parent, _, _, same, proper, _⟩ := endsAt_way ends
  exact ⟨parent, name, same, proper⟩

-- A path that leads to a leaf ends in the leaf's own entry or in a link.
theorem leads_entry {node : Node} (leads : disk.Leads path place) (held : disk.view place = some node)
    (leaf : node.isDir = false) (ends : disk.EndsAt path old) :
    ∃ entry, disk.view old = some entry ∧ entry.isDir = false := by
  obtain ⟨parent, name, found, proper, there⟩ := leads_leaf leads (leaf_solid held leaf)
  obtain rfl := endsAt_unique ends ⟨parent, name, false, found, proper.short, rfl⟩
  rcases there with rfl | ⟨target, link⟩
  · exact ⟨node, held, leaf⟩
  · exact ⟨_, link, rfl⟩

theorem place_eq_ok (ending : Ending) (unnamed : IoError) :
    ending.place unnamed = .ok place ↔ ∃ name, ending.name? = some name ∧ name.length ≤ nameLimit ∧
      place = ending.parent ++ [name] := by
  rw [Ending.place]
  cases ending.name? with
  | none => simp
  | some name =>
    by_cases long : nameLimit < name.length
    · simp [long, Nat.not_le_of_lt long]
    · simp [long, Nat.le_of_not_lt long, eq_comm]

theorem endsAt_of_place {ending : Ending} {unnamed : IoError} (found : disk.ending path = .ok ending)
    (there : ending.place unnamed = .ok place) : disk.EndsAt path place := by
  obtain ⟨name, named, short, rfl⟩ := (place_eq_ok _ unnamed).mp there
  obtain ⟨parent, _, slashed⟩ := ending
  subst named
  exact ⟨parent, name, slashed, found, short, rfl⟩

theorem endsAt_child {directory : Path} {links : Nat} {name : Bytes} (reaches : disk.Reaches directory links place)
    (filled : name ≠ []) (single : slash ∉ name) (ends : disk.EndsAt (directory.child name) new) :
    checkPath (directory.child name) = .ok () ∧ Proper name ∧ new = place ++ [name] := by
  obtain ⟨front, last, parent, left, whole, rfl, proper, checked, way, _⟩ := endsAt_way ends
  rw [names_child filled single] at whole
  obtain ⟨rfl, tail⟩ := List.append_inj' whole rfl
  cases tail
  rw [startOf_child reaches.filled single] at way
  exact ⟨checked, proper, by rw [(way_unique disk _ _ _ _ _ way reaches.way).2]⟩

theorem remove_eq_ok (removed : disk.remove path = .ok after) : ∃ place node, disk.EndsAt path place ∧
    disk.top.at? place = some node ∧ node.isDir = false ∧ after = disk.set place none := by
  rw [remove] at removed
  obtain ⟨ending, found, removed⟩ := (bind_eq_ok _ _ _).mp removed
  obtain ⟨place, there, removed⟩ := (bind_eq_ok _ _ _).mp removed
  refine ⟨place, ?_⟩
  cases held : disk.top.at? place with
  | none => simp [held] at removed
  | some node =>
    refine ⟨node, endsAt_of_place found there, rfl, ?_⟩
    rcases node.dir_or_leaf with ⟨entries, rfl⟩ | leaf
    · simp [held] at removed
    · refine ⟨leaf, ?_⟩
      by_cases slashed : ending.slashed
      · cases node <;> simp_all
      · cases node <;> simp_all [Node.isDir]

theorem view_removed (ordered : disk.top.Ordered) (filled : place ≠ []) (other : Place) :
    (disk.set place none).view other = if place <+: other then none else disk.view other :=
  Entries.view_unset disk.top place ordered filled other

theorem view_renamed (ordered : disk.top.Ordered) (node : Node) (held : disk.top.at? old = some node)
    (filled : new ≠ []) (source : old ≠ []) (parent : disk.view new.dropLast = some Node.emptyDir)
    (apart : ¬ old <+: new) (other : Place) :
    ((disk.set old none).set new (some node)).view other =
      if new <+: other then disk.view (old ++ other.drop new.length)
      else if old <+: other then none else disk.view other := by
  have above : ¬ old <+: new.dropLast := fun inside => apart (inside.trans (List.dropLast_prefix new))
  have kept : (disk.set old none).view new.dropLast = some Node.emptyDir := by
    rw [view_removed ordered source, if_neg above, parent]
  have changed := Entries.view_set (disk.set old none).top new node filled kept other
  rw [← view, view_removed ordered source] at changed
  refine Eq.trans changed ?_
  by_cases inside : new <+: other
  · rw [if_pos inside, if_pos inside, view, Entries.view_append, held]
    rfl
  · rw [if_neg inside, if_neg inside]

end

structure Renamed (disk after : Disk) (old new : Place) : Prop where
  view : ∀ other, after.view other =
    if new <+: other then disk.view (old ++ other.drop new.length)
    else if old <+: other then none else disk.view other
  held : disk.view old ≠ none
  apart : old = new ∨ ¬ old <+: new ∧ ¬ new <+: old
  cwd : after.cwd = moveWorking old new disk.cwd
  ordered : after.top.Ordered

section

variable {disk after : Disk} {source target : Path} {old new : Place}

theorem moveWorking_self (place cwd : Place) : moveWorking place place cwd = cwd := by
  rw [moveWorking]
  split
  · rename_i inside
    obtain ⟨more, rfl⟩ := List.isPrefixOf_iff_prefix.mp inside
    simp
  · rfl

theorem renamed_self (ordered : disk.top.Ordered) (held : disk.view old ≠ none) : Renamed disk disk old old where
  view other := by
    by_cases inside : old <+: other
    · obtain ⟨more, rfl⟩ := inside
      simp
    · simp [inside]
  held := held
  apart := .inl rfl
  cwd := (moveWorking_self old disk.cwd).symm
  ordered := ordered

theorem leaf_apart (node : Node) (held : disk.top.at? old = some node) (leaf : node.isDir = false)
    (different : old ≠ new) (filled : new ≠ []) (parent : disk.view new.dropLast = some Node.emptyDir) :
    ¬ old <+: new := by
  intro holds
  obtain ⟨more, rfl⟩ := holds
  have below : more ≠ [] := by
    rintro rfl
    exact different (by simp)
  rw [List.dropLast_append_of_ne_nil below] at parent
  have there : disk.view old = some node := (view_leaf disk old node leaf).mpr held
  by_cases last : more.dropLast = []
  · rw [last, List.append_nil, there, Option.some.injEq] at parent
    rw [parent] at leaf
    cases leaf
  · rw [view_below_leaf disk old _ node leaf there last] at parent
    cases parent

theorem replaceable_dir {entries : Entries} {place : Place}
    (room : replaceable (.dir entries) (disk.top.at? place) = .ok ()) :
    disk.view place = none ∨ disk.view place = some Node.emptyDir := by
  cases held : disk.top.at? place with
  | none => exact .inl ((Entries.view_eq_none disk.top place).mpr held)
  | some node =>
    rcases node.dir_or_leaf with ⟨inner, rfl⟩ | leaf
    · exact .inr ((view_dir disk place).mpr ⟨inner, held⟩)
    · rw [held] at room
      cases node with
      | dir inner => cases leaf
      | file | link | device => cases room

theorem rename_cases (ordered : disk.top.Ordered) (moved : disk.rename source target = .ok after) :
    ∃ old new, disk.EndsAt source old ∧ disk.EndsAt target new ∧ Renamed disk after old new ∧
      (disk.view old = some Node.emptyDir → disk.view new = none ∨ disk.view new = some Node.emptyDir) := by
  rw [rename] at moved
  obtain ⟨oldEnding, foundOld, moved⟩ := (bind_eq_ok _ _ _).mp moved
  obtain ⟨newEnding, foundNew, moved⟩ := (bind_eq_ok _ _ _).mp moved
  split at moved
  · cases moved
  obtain ⟨old, thereOld, moved⟩ := (bind_eq_ok _ _ _).mp moved
  have endsOld := endsAt_of_place foundOld thereOld
  cases held : disk.top.at? old with
  | none => simp [held] at moved
  | some node =>
    simp only [held] at moved
    obtain ⟨new, thereNew, moved⟩ := (bind_eq_ok _ _ _).mp moved
    have endsNew := endsAt_of_place foundNew thereNew
    refine ⟨old, new, endsOld, endsNew, ?_⟩
    have present : disk.view old ≠ none := by
      rw [view, Entries.view_isSome disk.top old node held]
      simp
    split at moved
    · cases moved
    split at moved
    · rename_i same
      cases moved
      exact ⟨same ▸ renamed_self ordered present, fun directory => .inr (same ▸ directory)⟩
    split at moved
    · cases moved
    split at moved
    · cases moved
    rename_i different inside above
    obtain ⟨_, room, moved⟩ := (bind_eq_ok _ _ _).mp moved
    rw [Except.ok.injEq] at moved
    have filled := endsAt_filled endsNew
    have parent := endsAt_parent endsNew
    have apart : ¬ old <+: new := by
      rcases node.dir_or_leaf with ⟨entries, rfl⟩ | leaf
      · simpa [Node.isDir, List.isPrefixOf_iff_prefix] using inside
      · exact leaf_apart node held leaf different filled parent
    have inner := Entries.ordered_at? disk.top old node ordered held
    subst moved
    refine ⟨?_, fun directory => ?_⟩
    rotate_left
    · obtain ⟨entries, there⟩ := (view_dir disk old).mp directory
      rw [held, Option.some.injEq] at there
      subst there
      exact replaceable_dir room
    exact {
      view := view_renamed ordered node held filled (endsAt_filled endsOld) parent apart
      held := present
      apart := .inr ⟨apart, by simpa [List.isPrefixOf_iff_prefix] using above⟩
      cwd := rfl
      ordered := Entries.ordered_set _ new _ (Entries.ordered_set _ old none ordered (by simp))
        (fun fresh same => Option.some.inj same ▸ inner) }

theorem rename_eq_ok (ordered : disk.top.Ordered) (moved : disk.rename source target = .ok after) :
    ∃ old new, disk.EndsAt source old ∧ disk.EndsAt target new ∧ Renamed disk after old new := by
  obtain ⟨old, new, endsOld, endsNew, renamed, _⟩ := rename_cases ordered moved
  exact ⟨old, new, endsOld, endsNew, renamed⟩

theorem endsAt_leads (ends : disk.EndsAt target new) (directory : disk.view new = some Node.emptyDir) :
    disk.Leads target new := by
  obtain ⟨front, name, parent, left, whole, rfl, proper, checked, way, top⟩ := endsAt_way ends
  have down : disk.Way ⟨left, parent, [name]⟩ ⟨left, parent ++ [name], []⟩ :=
    .single (advance_down proper top _ directory (by simp))
  have arrived : disk.Way ⟨linkLimit, startOf target.bytes disk.cwd, target.names⟩ ⟨left, parent ++ [name], []⟩ := by
    rw [whole]
    exact (way_extended disk _ _ [name] way).trans down
  refine ⟨checked, left, ?_⟩
  rw [starting]
  by_cases slashed : target.endsInSlash = true
  · rw [steps_slashed target (by simp [whole]) slashed]
    exact (way_extended disk _ _ [[]] arrived).trans (way_stays left _ [] [] (.inr rfl) directory)
  · rw [steps_open target (by simpa using slashed)]
    exact arrived

end

end InkProject.Disk
