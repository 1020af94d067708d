import InkProject.Proofs.Compiler.Companion
set_option autoImplicit false

namespace InkProject.Compiler

open Disk InkProject.Path

section

variable {settings : Settings} {disk after : Disk} {place : Place} {target : Path} {moved : Option Relocation}

structure Hidden (settings : Settings) (disk after : Disk) (old new : Place) : Prop where
  shown : ¬ HiddenPlace settings.hiddenSuffix old
  named : ∃ above name, old = above ++ [name] ∧ new = above ++ [name ++ Utf8.ofString settings.hiddenSuffix] ∧
    EntryName (name ++ Utf8.ofString settings.hiddenSuffix)
  vacant : disk.view new = none
  renamed : Renamed disk after old new

theorem Hidden.suffixed {old new : Place} (hidden : Hidden settings disk after old new) :
    HiddenPlace settings.hiddenSuffix new := by
  obtain ⟨above, name, _, rfl, _⟩ := hidden.named
  exact ⟨name ++ Utf8.ofString settings.hiddenSuffix, by simp, List.suffix_append _ _⟩

theorem Hidden.plain {old new : Place} (hidden : Hidden settings disk after old new) (plain : disk.Plain) : after.Plain := by
  obtain ⟨above, name, _, rfl, entry⟩ := hidden.named
  exact hidden.renamed.plain plain ⟨above, _, rfl, entry⟩

theorem unused_vacant {name : Bytes} (plain : disk.Plain) (checked : checkPath ((pathOf place).child name) = .ok ())
    (unused : disk.exists? ((pathOf place).child name) = false) : disk.view (place ++ [name]) = none := by
  refine Classical.byContradiction fun held => ?_
  have leads := leads_child_plain plain held ((checkPath_ok _).mp checked).2.2
  obtain ⟨node, there⟩ := Option.ne_none_iff_exists'.mp (mt (Entries.view_eq_none disk.top _).mpr held)
  rw [(exists?_iff disk _).mpr ⟨_, node, leads, there⟩] at unused
  cases unused

theorem sibling_beside (formed : disk.WellFormed) (directory : disk.view place = some Node.emptyDir)
    (single : '/' ∉ settings.hiddenSuffix.toList) (found : hiddenSibling (pathOf place) settings.hiddenSuffix = .ok target) :
    ∃ above name, place = above ++ [name] ∧ disk.view above = some Node.emptyDir ∧ EntryName name ∧
      slash ∉ name ++ Utf8.ofString settings.hiddenSuffix ∧
      target = (pathOf above).child (name ++ Utf8.ofString settings.hiddenSuffix) := by
  have named := formed.names place (by simp [directory])
  rcases List.eq_nil_or_concat place with rfl | ⟨above, name, rfl⟩
  · rw [hiddenSibling, fileName?_pathOf_nil] at found
    cases found
  rw [List.concat_eq_append] at named directory found ⊢
  have last := named name (by simp)
  have top := disk.view_parent above name (by simp [directory])
  have fresh : slash ∉ name ++ Utf8.ofString settings.hiddenSuffix := by
    rw [List.mem_append, Utf8.slash_mem_ofString, not_or]
    exact ⟨last.single, single⟩
  rw [hiddenSibling, fileName?_pathOf named, Except.ok.injEq,
    withFileName_pathOf named _ fun head => fresh (List.mem_of_head? head)] at found
  exact ⟨above, name, rfl, top, last, fresh, by rw [← found, child_of_dir formed top fresh]⟩

theorem hide_moves (plain : disk.Plain) (directory : disk.view place = some Node.emptyDir)
    (single : '/' ∉ settings.hiddenSuffix.toList) (hid : hide settings disk (pathOf place) = .ok (after, target, moved)) :
    (HiddenPlace settings.hiddenSuffix place ∧ after = disk ∧ target = pathOf place ∧ moved = none) ∨
      ∃ new, Hidden settings disk after place new ∧ target = pathOf new ∧ target.bytes.length < pathLimit ∧
        moved = some ⟨.hideDirectory, pathOf place, target⟩ := by
  have formed := plain.toWellFormed
  have named := formed.names place (by simp [directory])
  rcases hide_cases hid with ⟨already, rfl, rfl, rfl⟩ | ⟨shown, sibling, unused, renamed, rfl⟩
  · exact .inl ⟨(isHidden_pathOf named).mp already, rfl, rfl, rfl⟩
  · obtain ⟨above, name, rfl, top, last, fresh, rfl⟩ := sibling_beside formed directory single sibling
    have filled : name ++ Utf8.ofString settings.hiddenSuffix ≠ [] := by simp [last.filled]
    have reaches := reaches_pathOf formed top
    rw [← child_of_dir formed top last.single] at renamed
    obtain ⟨old, new, endsOld, endsNew, renamed⟩ := rename_eq_ok plain.ordered renamed
    obtain ⟨_, _, rfl⟩ := endsAt_child reaches last.filled last.single endsOld
    obtain ⟨checked, _, rfl⟩ := endsAt_child reaches filled fresh endsNew
    obtain ⟨_, other, same, entry⟩ := endsAt_entry endsNew
    obtain ⟨_, tail⟩ := List.append_inj' same rfl
    cases tail
    have short := ((checkPath_ok _).mp checked).2.2
    refine .inr ⟨_, ⟨?_, ⟨above, name, rfl, rfl, entry⟩, unused_vacant plain checked unused, renamed⟩,
      child_of_dir formed top fresh, short, rfl⟩
    rw [← isHidden_pathOf named, shown]
    exact Bool.false_ne_true

-- The pending library was taken from its place, and nothing else was changed but that it
-- may now stand under its final name.
structure Settled (settings : Settings) (disk after : Disk) (directory library : Place) : Prop where
  plain : after.Plain
  pending : disk.Leads (pendingPath settings (pathOf directory)) library
  file : ∃ content executable, disk.view library = some (.file content executable)
  gone : after.view library = none
  kept : Keeps disk after library
  fresh : ∀ other node, after.view other = some node → disk.view other = some node ∨
    other = directory ++ [settings.companion.bytes] ∧ disk.view other = none ∧ node.isDir = false
  start : ∀ bytes, disk.view (startOf bytes disk.cwd) = some Node.emptyDir →
    startOf bytes after.cwd = startOf bytes disk.cwd

theorem settled_removed (plain : disk.Plain) {library : Place} {content : Bytes} {executable : Bool}
    (pending : disk.Leads (pendingPath settings (pathOf place)) library)
    (held : disk.view library = some (.file content executable))
    (removed : disk.remove (pendingPath settings (pathOf place)) = .ok after) : Settled settings disk after place library := by
  obtain ⟨old, node, ends, _, _, rfl⟩ := remove_eq_ok removed
  obtain rfl := endsAt_unique ends (file_endsAt plain pending (leaf_solid held rfl))
  have filled := endsAt_filled ends
  obtain ⟨gone, kept, back⟩ := removed_keeps plain.ordered filled held rfl
  refine ⟨removed_plain plain filled, pending, ⟨content, executable, held⟩, gone, kept, ?_, fun _ _ => rfl⟩
  intro other node there
  have elsewhere : other ≠ old := by
    intro same
    rw [same, gone] at there
    cases there
  exact .inl ((back other elsewhere (by simp [there])).trans there)

theorem settled_renamed (plain : disk.Plain) (directory : disk.view place = some Node.emptyDir) {library : Place}
    {content : Bytes} {executable : Bool} (pending : disk.Leads (pendingPath settings (pathOf place)) library)
    (held : disk.view library = some (.file content executable))
    (unused : disk.exists? (finalPath settings (pathOf place)) = false)
    (done : disk.rename (pendingPath settings (pathOf place)) (finalPath settings (pathOf place)) = .ok after) :
    Settled settings disk after place library := by
  obtain ⟨old, new, endsOld, endsNew, renamed⟩ := rename_eq_ok plain.ordered done
  obtain rfl := endsAt_unique endsOld (file_endsAt plain pending (leaf_solid held rfl))
  have entry := endsAt_entry endsNew
  obtain ⟨checked, _, rfl⟩ := endsAt_child (reaches_pathOf plain.toWellFormed directory) settings.companion.bytes_filled
    settings.companion.bytes_single endsNew
  have vacant := unused_vacant plain checked unused
  have different : old ≠ place ++ [settings.companion.bytes] := by
    intro same
    rw [same, vacant] at held
    cases held
  refine ⟨renamed.plain plain entry, pending, ⟨content, executable, held⟩, renamed.gone different,
    renamed.keeps held rfl vacant, ?_, fun bytes start => ?_⟩
  · intro other node there
    by_cases inside : place ++ [settings.companion.bytes] <+: other
    · obtain ⟨more, rfl⟩ := inside
      rw [renamed.arrived] at there
      have here := leaf_below held rfl (by rw [there]; simp)
      rw [here, List.append_nil] at there ⊢
      rw [held, Option.some.injEq] at there
      exact .inr ⟨rfl, vacant, there ▸ rfl⟩
    · have seen := renamed.view other
      rw [if_neg inside] at seen
      by_cases below : old <+: other
      · rw [seen, if_pos below] at there
        cases there
      · rw [if_neg below] at seen
        exact .inl (seen ▸ there)
  · rw [renamed.cwd]
    exact startOf_moved held rfl bytes start

theorem settle_moves (plain : disk.Plain) (directory : disk.view place = some Node.emptyDir)
    (done : settle settings disk (pathOf place) = .ok (after, moved)) :
    (disk.isFile (pendingPath settings (pathOf place)) = false ∧ after = disk ∧ moved = none) ∨
      ∃ library, Settled settings disk after place library := by
  rcases settle_cases done with absent | ⟨pending, rest⟩
  · exact .inl absent
  · obtain ⟨library, content, executable, leads, held⟩ := (isFile_iff disk _).mp pending
    refine .inr ⟨library, ?_⟩
    rcases rest with ⟨_, _, _, removed, _⟩ | ⟨unused, renamed, _⟩
    · exact settled_removed plain leads held removed
    · exact settled_renamed plain directory leads held unused renamed

theorem settle_plain (plain : disk.Plain) (directory : disk.view place = some Node.emptyDir)
    (done : settle settings disk (pathOf place) = .ok (after, moved)) : after.Plain := by
  rcases settle_moves plain directory done with ⟨_, rfl, _⟩ | ⟨library, settled⟩
  · exact plain
  · exact settled.plain

theorem Settled.directories {library : Place} (settled : Settled settings disk after place library) (other : Place) :
    after.view other = some Node.emptyDir ↔ disk.view other = some Node.emptyDir := by
  constructor
  · intro there
    rcases settled.fresh other _ there with same | ⟨_, _, leaf⟩
    · exact same
    · cases leaf
  · intro there
    obtain ⟨content, executable, held⟩ := settled.file
    have elsewhere : other ≠ library := by
      intro same
      rw [same, held] at there
      cases there
    exact (settled.kept other elsewhere (by simp [there])).trans there

theorem settle_directories (plain : disk.Plain) (directory : disk.view place = some Node.emptyDir)
    (done : settle settings disk (pathOf place) = .ok (after, moved)) (other : Place) :
    after.view other = some Node.emptyDir ↔ disk.view other = some Node.emptyDir := by
  rcases settle_moves plain directory done with ⟨_, rfl, _⟩ | ⟨library, settled⟩
  · exact Iff.rfl
  · exact settled.directories other

theorem settle_takes (plain : disk.Plain) (directory : disk.view place = some Node.emptyDir)
    (done : settle settings disk (pathOf place) = .ok (after, moved)) {other : Place} {content : Bytes} {executable : Bool}
    (held : disk.view other = some (.file content executable))
    (pending : disk.Leads (pendingPath settings (pathOf place)) other) : after.view other = none := by
  rcases settle_moves plain directory done with ⟨absent, _, _⟩ | ⟨library, settled⟩
  · rw [(isFile_iff disk _).mpr ⟨other, content, executable, pending, held⟩] at absent
    cases absent
  · rw [leads_unique disk _ _ _ pending settled.pending]
    exact settled.gone

theorem settle_spares (plain : disk.Plain) (directory : disk.view place = some Node.emptyDir)
    (done : settle settings disk (pathOf place) = .ok (after, moved)) {other : Place} (held : disk.view other ≠ none)
    (apart : ¬ disk.Leads (pendingPath settings (pathOf place)) other) : after.view other = disk.view other := by
  rcases settle_moves plain directory done with ⟨_, rfl, _⟩ | ⟨library, settled⟩
  · rfl
  · exact settled.kept other (fun same => apart (same ▸ settled.pending)) held

end

end InkProject.Compiler
