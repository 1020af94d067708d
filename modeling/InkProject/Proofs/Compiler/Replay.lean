import InkProject.Proofs.Compiler.Failure
/- What a run reports of its relocations: carried out again, one after the other, they
   come to the same disk, and where none is reported nothing was changed. -/
set_option autoImplicit false

namespace InkProject.Compiler

open Disk InkProject.Path

structure Reported (settings : Settings) (disk after : Disk) (chosen : Path) (located : Located) : Prop where
  replayed : replay disk located.relocations = .ok after
  idle : located.relocations = [] → after = disk
  busy : located.relocations ≠ [] → after.top ≠ disk.top
  listed : ∃ settled : Option Relocation, located.relocations =
    (if isHidden (directoryOf chosen) settings.hiddenSuffix then []
      else [⟨.hideDirectory, directoryOf chosen, located.descriptor.directory⟩]) ++ settled.toList ∧
    ∀ relocation, settled = some relocation → relocation.kind ≠ .hideDirectory ∧
      relocation.source = pendingPath settings located.descriptor.directory ∧
      relocation.target = finalPath settings located.descriptor.directory
  directory : if isHidden (directoryOf chosen) settings.hiddenSuffix then located.descriptor.directory = directoryOf chosen
    else hiddenSibling (directoryOf chosen) settings.hiddenSuffix = .ok located.descriptor.directory
  chosen : chosen = (directoryOf chosen).child settings.executable.bytes
  path : located.path = located.descriptor.directory.child settings.executable.bytes

theorem replay_append (disk : Disk) (first second : List Relocation) :
    replay disk (first ++ second) = replay disk first >>= fun between => replay between second :=
  List.foldlM_append

section

variable {settings : Settings} {disk after : Disk} {directory target : Path} {moved : Option Relocation}

theorem hide_replayed (hid : hide settings disk directory = .ok (after, target, moved)) :
    replay disk moved.toList = .ok after := by
  rcases hide_cases hid with ⟨_, rfl, _, rfl⟩ | ⟨_, _, _, renamed, rfl⟩
  · rfl
  · simp only [Option.toList, replay, List.foldlM_cons, List.foldlM_nil, Relocation.apply, renamed]
    rfl

theorem settle_replayed (settled : settle settings disk directory = .ok (after, moved)) :
    replay disk moved.toList = .ok after := by
  rcases settle_cases settled with ⟨_, rfl, rfl⟩ | ⟨_, ⟨_, _, _, removed, rfl⟩ | ⟨_, renamed, rfl⟩⟩
  · rfl
  · simp only [Option.toList, replay, List.foldlM_cons, List.foldlM_nil, Relocation.apply, removed]
    rfl
  · simp only [Option.toList, replay, List.foldlM_cons, List.foldlM_nil, Relocation.apply, renamed]
    rfl

theorem pending_relative (settings : Settings) : (ofString settings.pendingCompanion).isAbsolute = false := by
  have single := settings.companion.bytes_single
  obtain ⟨byte, rest, same⟩ := List.exists_cons_of_ne_nil settings.companion.bytes_filled
  rw [same] at single
  rw [FileName.bytes] at same
  have other : byte ≠ slash := fun start => single (by simp [start])
  simp [isAbsolute, ofString, Settings.pendingCompanion, FileName.pending, Utf8.ofString_append, same, other]

theorem pendingPath_names (settings : Settings) (directory : Path) :
    ∃ front last, (pendingPath settings directory).names = directory.names ++ (front ++ [last]) := by
  have relative := pending_relative settings
  have filled : (ofString settings.pendingCompanion).bytes ≠ [] := pendingName_filled settings
  have named : (ofString settings.pendingCompanion).names ≠ [] := by
    intro empty
    have start := nameless_absolute filled empty [[]]
    simp only [isAbsolute, decide_eq_false_iff_not] at relative
    simp [startOf, relative] at start
  obtain ⟨front, last, whole⟩ := List.eq_nil_or_concat _ |>.resolve_left named
  rw [List.concat_eq_append] at whole
  exact ⟨front, last, by rw [pendingPath, childNamed, names_join relative, whole]⟩

-- The way to the pending library has come by the directory, and so has links to spare for
-- the final name, where it would find the same entry.
theorem pending_elsewhere {old new : Place} (pending : disk.isFile (pendingPath settings directory) = true)
    (unused : disk.exists? (finalPath settings directory) = false)
    (endsOld : disk.EndsAt (pendingPath settings directory) old)
    (endsNew : disk.EndsAt (finalPath settings directory) new) : old ≠ new := by
  intro same
  have single := settings.companion.bytes_single
  have filled := settings.companion.bytes_filled
  obtain ⟨file, content, executable, leads, held⟩ := (isFile_iff disk _).mp pending
  obtain ⟨spare, whole⟩ := leads_names leads
  obtain ⟨before, name, parent, left, cut, rfl, _, _, way, _⟩ := endsAt_way endsOld
  obtain ⟨front, companion, above, links, split, rfl, _, checked, reached, _⟩ := endsAt_way endsNew
  obtain ⟨rfl, tail⟩ := List.append_inj' same rfl
  cases tail
  rw [finalPath, names_child filled single] at split
  obtain ⟨rfl, tail⟩ := List.append_inj' split rfl
  cases tail
  obtain ⟨middle, last, named⟩ := pendingPath_names settings directory
  rw [cut, ← List.append_assoc] at named
  obtain ⟨rfl, tail⟩ := List.append_inj' named rfl
  cases tail
  have start : startOf (pendingPath settings directory).bytes disk.cwd = startOf (finalPath settings directory).bytes disk.cwd := by
    rw [pendingPath, childNamed, startOf_join (pending_relative settings), finalPath, child,
      startOf_join (relative_of_single _ single)]
  rw [start] at way whole
  rw [cut] at whole
  have further := way_through disk _ _ _ _ way (way_extended disk _ _ middle reached)
  have rest := way_through disk _ _ _ _ whole (way_extended disk _ _ [settings.companion.bytes] way)
  have fewer : left ≤ links := way_links _ _ further
  have spared := way_spared (links - left) _ _ rest
  rw [Walker.spared, Walker.spared, Walker.extended, Nat.add_sub_cancel' fewer, List.nil_append] at spared
  have found : disk.Leads (finalPath settings directory) file := by
    refine ⟨checked, spare + (links - left), ?_⟩
    rw [starting, finalPath, steps_open _ (child_endsInSlash filled single), names_child filled single]
    exact (way_extended disk _ _ [settings.companion.bytes] reached).trans spared
  rw [exists_of_isFile ((isFile_iff disk _).mpr ⟨file, content, executable, found, held⟩)] at unused
  cases unused

theorem settle_takes_entry (ordered : disk.top.Ordered) (settled : settle settings disk directory = .ok (after, moved)) :
    (moved = none ∧ after = disk) ∨ (∃ entry, disk.view entry ≠ none ∧ after.view entry = none) ∧
      ∀ other, after.view other = some Node.emptyDir → disk.view other = some Node.emptyDir := by
  rcases settle_cases settled with ⟨_, same, none⟩ | ⟨pending, ⟨_, _, _, removed, _⟩ | ⟨unused, renamed, _⟩⟩
  · exact .inl ⟨none, same⟩
  · obtain ⟨place, node, ends, held, leaf, rfl⟩ := remove_eq_ok removed
    have seen := (view_leaf disk place node leaf).mpr held
    have view (other : Place) := view_removed ordered (endsAt_filled ends) other
    refine .inr ⟨⟨place, by simp [seen], by rw [view, if_pos List.prefix_rfl]⟩, fun other directory => ?_⟩
    rw [view] at directory
    split at directory
    · cases directory
    · exact directory
  · obtain ⟨old, new, endsOld, endsNew, renamed⟩ := rename_eq_ok ordered renamed
    have different := pending_elsewhere pending unused endsOld endsNew
    obtain ⟨file, content, executable, leads, held⟩ := (isFile_iff disk _).mp pending
    obtain ⟨node, seen, leaf⟩ := leads_entry leads held rfl endsOld
    refine .inr ⟨⟨old, renamed.held, renamed.gone different⟩, fun other directory => ?_⟩
    by_cases inside : new <+: other
    · obtain ⟨more, rfl⟩ := inside
      rw [renamed.arrived] at directory
      have here := leaf_below seen leaf (by rw [directory]; simp)
      rw [here, List.append_nil] at directory
      exact absurd directory (leaf_solid seen leaf)
    · rw [renamed.view, if_neg inside] at directory
      split at directory
      · cases directory
      · exact directory

-- No step undoes another: the directory that was hidden is not there again.
theorem relocations_change {place : Place} {between : Disk} {hidden settled : Option Relocation} (formed : disk.WellFormed)
    (top : disk.view place = some Node.emptyDir) (hid : hide settings disk (pathOf place) = .ok (between, directory, hidden))
    (settling : settle settings between directory = .ok (after, settled)) (listed : hidden.toList ++ settled.toList ≠ []) :
    after.top ≠ disk.top := by
  intro same
  have view (other : Place) : after.view other = disk.view other := by rw [Disk.view, Disk.view, same]
  rcases hide_cases hid with ⟨_, rfl, rfl, rfl⟩ | ⟨_, _, unused, renamed, rfl⟩
  · rcases settle_takes_entry formed.ordered settling with ⟨rfl, _⟩ | ⟨⟨entry, held, gone⟩, _⟩
    · exact listed rfl
    · exact held ((view entry).symm.trans gone)
  · obtain ⟨new, _, only⟩ := moved_only formed top unused renamed
    obtain ⟨_, _, _, _, changed⟩ := rename_eq_ok formed.ordered renamed
    have there : after.view place = some Node.emptyDir := (view place).trans top
    have back : between.view place = some Node.emptyDir := by
      rcases settle_takes_entry changed.ordered settling with ⟨_, rfl⟩ | ⟨_, directories⟩
      · exact there
      · exact directories place there
    rw [only.gone] at back
    cases back

end

theorem locate_reported {order : Enumeration} {settings : Settings} {disk : Disk} {located : Located}
    (formed : disk.WellFormed) (done : (locate order settings disk).result = .ok located) :
    ∃ choice, (choose order settings disk).2 = .ok choice ∧
      Reported settings disk (locate order settings disk).disk choice.chosen located := by
  obtain ⟨choice, between, directory, hidden, after, settled, made, hid, settling, same, rfl⟩ := locate_cases done
  obtain ⟨root, place, elected, path⟩ := choose_eq_ok formed choice made
  have parent : directoryOf choice.chosen = pathOf place := by rw [path, elected_directory formed elected]
  have top := elected.below.directory
  have replayed : replay disk (hidden.toList ++ settled.toList) = .ok after := by
    rw [replay_append, hide_replayed hid]
    exact settle_replayed settling
  refine ⟨choice, made, ?_⟩
  rw [same]
  constructor
  case replayed => exact replayed
  case idle =>
    intro empty
    rw [show hidden.toList ++ settled.toList = [] from empty] at replayed
    cases replayed
    rfl
  case busy =>
    rw [parent] at hid
    exact relocations_change formed top hid settling
  case listed =>
    refine ⟨settled, ?_, ?_⟩
    · rcases hide_cases hid with ⟨already, _, _, rfl⟩ | ⟨shown, _, _, _, rfl⟩
      · simp [already]
      · simp [shown, Descriptor.inDirectory]
    · intro relocation some
      rcases settle_cases settling with ⟨_, _, none⟩ | ⟨_, ⟨_, _, _, _, discarded⟩ | ⟨_, _, renamed⟩⟩
      · rw [none] at some
        cases some
      · rw [discarded] at some
        cases some
        exact ⟨RelocationKind.noConfusion, rfl, rfl⟩
      · rw [renamed] at some
        cases some
        exact ⟨RelocationKind.noConfusion, rfl, rfl⟩
  case directory =>
    rcases hide_cases hid with ⟨already, _, rfl, _⟩ | ⟨shown, sibling, _⟩
    · rw [if_pos already]
      rfl
    · rw [if_neg (by simp [shown])]
      exact sibling
  case chosen => rw [parent, path, child_of_dir formed top settings.executable.bytes_single]
  case path => rfl

theorem kept_library_reported :
    let located : Located := ⟨Path.ofString "/Ink~/ink", ⟨⟨"ink", by decide⟩, Path.ofString "/Ink~", true⟩,
      .installed ⟨"rt.dll", by decide⟩, [⟨.hideDirectory, Path.ofString "/Ink", Path.ofString "/Ink~"⟩,
        ⟨.discardDuplicate, Path.ofString "/Ink~/rt.dll.temp", Path.ofString "/Ink~/rt.dll"⟩]⟩
    ((keptDisk [1]).WellFormed ∧ (locate .sorted pendingSettings (keptDisk [1])).result = .ok located) ∧
      ∃ choice, (choose .sorted pendingSettings (keptDisk [1])).2 = .ok choice ∧ Reported pendingSettings (keptDisk [1])
        (locate .sorted pendingSettings (keptDisk [1])).disk choice.chosen located := by
  intro located
  have formed : (keptDisk [1]).WellFormed := wellFormed_of_names (by decide) (by decide)
  have done : (locate .sorted pendingSettings (keptDisk [1])).result = .ok located := by decide +kernel
  exact ⟨⟨formed, done⟩, locate_reported formed done⟩

end InkProject.Compiler
