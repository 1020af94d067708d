import InkProject.Proofs.Compiler.Steps
/- Putting the companion library in place. It is kept exactly when its final name is free,
   or leads to a file without coming by the pending entry. -/
set_option autoImplicit false

namespace InkProject.Compiler

open Disk Relation

def pendingName (settings : Settings) : Bytes := Utf8.ofString settings.pendingCompanion

structure LibraryKept (settings : Settings) (disk after : Disk) (directory : Path) (place : Place) : Prop where
  installed : after.isFile (finalPath settings directory) = true
  content : after.read (finalPath settings directory) = disk.read (pendingPath settings directory)
  gone : after.view (place ++ [pendingName settings]) = none
  others : Keeps disk after (place ++ [pendingName settings])

theorem pendingName_filled (settings : Settings) : pendingName settings ≠ [] := by
  rw [pendingName, Settings.pendingCompanion, FileName.pending, Utf8.ofString_append]
  have filled := settings.companion.bytes_filled
  rw [FileName.bytes] at filled
  simp [filled]

theorem pendingName_single (settings : Settings) (single : '/' ∉ settings.pendingSuffix.toList) :
    Path.slash ∉ pendingName settings := by
  rw [pendingName, Settings.pendingCompanion, FileName.pending, Utf8.ofString_append, List.mem_append, not_or]
  exact ⟨settings.companion.bytes_single, fun member => single ((Utf8.slash_mem_ofString _).mp member)⟩

section

variable {disk after : Disk} {directory : Path} {links : Nat} {place : Place}

theorem startOf_directory (reaches : disk.Reaches directory links place)
    (top : disk.view place = some Node.emptyDir) :
    disk.view (startOf directory.bytes disk.cwd) = some Node.emptyDir := by
  rcases ReflTransGen.cases_head reaches.way with same | ⟨next, step, _⟩
  · rw [(Walker.mk.inj same).2.1, top]
  · cases ahead : directory.names with
    | nil =>
      rw [ahead] at step
      cases step
    | cons name rest =>
      rw [ahead] at step
      exact (advance_cases next step).1

structure Undisturbed (disk after : Disk) (directory : Path) (x : Place) : Prop where
  start : startOf directory.bytes after.cwd = startOf directory.bytes disk.cwd
  kept : Keeps disk after x
  gone : after.view x = none

theorem starting_undisturbed {x : Place} {name : Bytes} (reaches : disk.Reaches directory links place)
    (undisturbed : Undisturbed disk after directory x) (single : Path.slash ∉ name) :
    after.starting (directory.child name) = disk.starting (directory.child name) := by
  rw [starting, starting, Path.startOf_child reaches.filled single, Path.startOf_child reaches.filled single,
    undisturbed.start]

variable {settings : Settings}

theorem final_held (reaches : disk.Reaches directory links place) {final : Place}
    (leads : disk.Leads (finalPath settings directory) final) (leaf : disk.view final ≠ some Node.emptyDir)
    (held : disk.view final ≠ none) : disk.view (place ++ [settings.companion.bytes]) ≠ none := by
  obtain ⟨parent, name, found, proper, there⟩ := leads_leaf leads leaf
  have ends : disk.EndsAt (finalPath settings directory) (parent ++ [name]) := ⟨parent, name, false, found, proper.short, rfl⟩
  have same := (endsAt_child reaches settings.companion.bytes_filled settings.companion.bytes_single ends).2.2
  rw [← same]
  rcases there with rfl | ⟨target, link⟩
  · exact held
  · simp [link]

theorem discarded_iff (reaches : disk.Reaches directory links place) (proper : Proper (pendingName settings))
    (undisturbed : Undisturbed disk after directory (place ++ [pendingName settings]))
    (back : Keeps after disk (place ++ [pendingName settings]))
    (solid : disk.view (place ++ [pendingName settings]) ≠ some Node.emptyDir) (content : Bytes)
    (pending : disk.read (pendingPath settings directory) = .ok content)
    (final : disk.read (finalPath settings directory) = .ok content) :
    LibraryKept settings disk after directory place ↔
      disk.view (place ++ [settings.companion.bytes]) = none ∨ disk.isFile (finalPath settings directory) = true ∧
        ¬ disk.ComesBy (disk.starting (finalPath settings directory)) (place ++ [pendingName settings]) := by
  have start := starting_undisturbed reaches undisturbed settings.companion.bytes_single
  have files := isFile_taken _ proper undisturbed.kept back undisturbed.gone solid _ start
  constructor
  · intro kept
    exact .inr (files.mp kept.installed)
  · intro holds
    rcases holds with vacant | found
    · obtain ⟨place, leads, held⟩ := read_eq_ok.mp final
      have leaf : disk.view place ≠ some Node.emptyDir ∧ disk.view place ≠ none := by
        rcases held with ⟨_, held⟩ | ⟨_, held, _⟩ <;> simp [held]
      exact absurd vacant (final_held reaches leads leaf.1 leaf.2)
    · obtain ⟨file, clear⟩ := found
      refine ⟨files.mpr ⟨file, clear⟩, ?_, undisturbed.gone, undisturbed.kept⟩
      obtain ⟨place, same, executable, leads, held⟩ := (isFile_iff disk _).mp file
      rw [read_file leads held, Except.ok.injEq] at final
      obtain ⟨leads, held⟩ := leaf_kept undisturbed.kept solid _ place _ start leads held rfl clear
      rw [pending, ← final]
      exact read_file leads held

theorem child_leaf {name : Bytes} {final : Place} {left : Nat} (proper : Proper name)
    (way : disk.Way ⟨links, place, [name]⟩ ⟨left, final, []⟩) :
    disk.view place = some Node.emptyDir ∧ (final = place ++ [name] ∧ (∀ target, disk.view final ≠ some (.link target)) ∨
      ∃ target fewer, links = fewer + 1 ∧ disk.view (place ++ [name]) = some (.link target) ∧
        disk.Way ⟨fewer, startOf target place, steps target⟩ ⟨left, final, []⟩) := by
  rcases ReflTransGen.cases_head way with same | ⟨next, step, rest⟩
  · cases same
  obtain ⟨directory, ⟨here, _⟩ | ⟨up, _⟩ | ⟨_, node, held, leaf, rfl⟩ | ⟨_, target, held, jumped⟩⟩ := advance_cases next step
  · exact absurd here (by simp [proper.filled, proper.not_dot])
  · exact absurd up proper.not_dots
  · have ended := (way_unique disk _ _ _ _ _ rest .refl).2
    refine ⟨directory, .inl ⟨ended, fun target link => ?_⟩⟩
    rw [ended, held, Option.some.injEq] at link
    exact leaf target link
  · cases links with
    | zero => cases jumped
    | succ fewer =>
      cases jumped
      rw [List.append_nil] at rest
      exact ⟨directory, .inr ⟨target, fewer, rfl, held, rest⟩⟩

theorem arrived_leads (reaches : disk.Reaches directory links place) (proper : Proper (pendingName settings))
    (renamed : Renamed disk after (place ++ [pendingName settings]) (place ++ [settings.companion.bytes]))
    (undisturbed : Undisturbed disk after directory (place ++ [pendingName settings]))
    (checked : checkPath (finalPath settings directory) = .ok ()) (named : Proper settings.companion.bytes)
    (single : '/' ∉ settings.pendingSuffix.toList) (file : Place) (content : Bytes) (executable : Bool)
    (leads : disk.Leads (pendingPath settings directory) file)
    (held : disk.view file = some (.file content executable)) :
    ∃ there, after.Leads (finalPath settings directory) there ∧ after.view there = some (.file content executable) := by
  obtain ⟨_, left, way⟩ := (leads_child reaches (pendingName_filled settings) (pendingName_single settings single)).mp leads
  obtain ⟨top, last⟩ := child_leaf proper way
  have leaf : disk.view file ≠ some Node.emptyDir := by simp [held]
  have solid : disk.view (place ++ [pendingName settings]) ≠ some Node.emptyDir := by
    rcases last with ⟨rfl, _⟩ | ⟨target, _, _, link, _⟩
    · exact leaf
    · simp [link]
  have different : place ≠ file := fun same => leaf (same ▸ top)
  have clear := clear_of_leaf links left links place leaf way _ reaches.way different
  have reached : after.Reaches directory links place :=
    ⟨reaches.filled, undisturbed.start ▸ way_kept undisturbed.kept solid _ _ reaches.way clear⟩
  have topAfter : after.view place = some Node.emptyDir := (undisturbed.kept place (by simp) (by simp [top])).trans top
  have arrived := renamed.arrived_self
  have enough (there : Place) (spare : Nat)
      (way : after.Way ⟨links, place, [settings.companion.bytes]⟩ ⟨spare, there, []⟩) :
      after.Leads (finalPath settings directory) there :=
    (leads_child reached settings.companion.bytes_filled settings.companion.bytes_single).mpr ⟨checked, spare, way⟩
  rcases last with ⟨rfl, _⟩ | ⟨target, fewer, rfl, link, inner⟩
  · have there := arrived.trans held
    exact ⟨_, enough _ links (.single (advance_down named topAfter _ there (by simp))), there⟩
  · have elsewhere : file ≠ place ++ [pendingName settings] := by
      rintro rfl
      rw [link] at held
      cases held
    have there := (undisturbed.kept file elsewhere (by simp [held])).trans held
    obtain ⟨least, spare, less, inner, clear⟩ := clear_jump target proper link leaf fewer left inner
    have around := way_spared (fewer - least) _ _ (way_kept undisturbed.kept solid _ _ inner clear)
    rw [Walker.spared, Walker.spared, Nat.add_sub_cancel' less] at around
    have jumped : after.advance ⟨fewer + 1, place, [settings.companion.bytes]⟩ =
        some ⟨fewer, startOf target place, steps target⟩ := by
      rw [advance_jump named topAfter target (arrived.trans link), Walker.jump, List.append_nil]
    exact ⟨file, enough file _ (.head jumped around), there⟩

theorem renamed_iff (ordered : disk.top.Ordered) (reaches : disk.Reaches directory links place)
    (single : '/' ∉ settings.pendingSuffix.toList) (pending : disk.isFile (pendingPath settings directory) = true)
    (unused : disk.exists? (finalPath settings directory) = false)
    (done : disk.rename (pendingPath settings directory) (finalPath settings directory) = .ok after) :
    LibraryKept settings disk after directory place ↔
      disk.view (place ++ [settings.companion.bytes]) = none ∨ disk.isFile (finalPath settings directory) = true ∧
        ¬ disk.ComesBy (disk.starting (finalPath settings directory)) (place ++ [pendingName settings]) := by
  have filled := pendingName_filled settings
  have plain := pendingName_single settings single
  have unfiled : disk.isFile (finalPath settings directory) ≠ true := by
    intro file
    rw [exists_of_isFile file] at unused
    cases unused
  obtain ⟨old, new, endsOld, endsNew, renamed⟩ := rename_eq_ok ordered done
  obtain ⟨_, proper, rfl⟩ := endsAt_child reaches filled plain endsOld
  obtain ⟨checked, named, rfl⟩ :=
    endsAt_child reaches settings.companion.bytes_filled settings.companion.bytes_single endsNew
  obtain ⟨file, content, executable, leads, held⟩ := (isFile_iff disk _).mp pending
  obtain ⟨_, left, way⟩ := (leads_child reaches filled plain).mp leads
  have top := (child_leaf proper way).1
  obtain ⟨node, there, leaf⟩ := leads_entry leads held rfl endsOld
  have start : startOf directory.bytes after.cwd = startOf directory.bytes disk.cwd := by
    rw [renamed.cwd]
    exact startOf_moved there leaf directory.bytes (startOf_directory reaches top)
  have arrived := renamed.arrived_self
  constructor
  · intro kept
    refine .inl (Classical.byContradiction fun taken => unfiled ?_)
    have different : place ++ [settings.companion.bytes] ≠ place ++ [pendingName settings] := by
      intro same
      rw [same, kept.gone, there] at arrived
      cases arrived
    have undisturbed : Undisturbed disk after directory (place ++ [pendingName settings]) := ⟨start, kept.others, kept.gone⟩
    have back := renamed.back there leaf (kept.others _ different taken)
    have starts := starting_undisturbed reaches undisturbed settings.companion.bytes_single
    exact ((isFile_taken _ proper kept.others back kept.gone (leaf_solid there leaf) _ starts).mp kept.installed).1
  · intro holds
    rcases holds with vacant | ⟨file, _⟩
    · have kept := renamed.keeps there leaf vacant
      have gone := renamed.gone (by rintro same; rw [same, vacant] at there; cases there)
      obtain ⟨final, leadsFinal, heldFinal⟩ := arrived_leads reaches proper renamed ⟨start, kept, gone⟩ checked named single
        file content executable leads held
      refine ⟨(isFile_iff after _).mpr ⟨final, content, executable, leadsFinal, heldFinal⟩, ?_, gone, kept⟩
      rw [read_file leadsFinal heldFinal, read_file leads held]
    · exact absurd file unfiled

theorem settle_keeps_iff (ordered : disk.top.Ordered) (leads : disk.Leads directory place)
    (single : '/' ∉ settings.pendingSuffix.toList) (pending : disk.isFile (pendingPath settings directory) = true)
    (moved : Option Relocation) (settled : settle settings disk directory = .ok (after, moved)) :
    LibraryKept settings disk after directory place ↔
      disk.view (place ++ [settings.companion.bytes]) = none ∨ disk.isFile (finalPath settings directory) = true ∧
        ¬ disk.ComesBy (disk.starting (finalPath settings directory)) (place ++ [pendingName settings]) := by
  obtain ⟨links, reaches⟩ := leads_reaches leads
  have filled := pendingName_filled settings
  have plain := pendingName_single settings single
  rcases settle_cases settled with ⟨absent, _⟩ | ⟨_, ⟨content, first, second, removed, _⟩ | ⟨vacant, renamed, _⟩⟩
  · rw [pending] at absent
    cases absent
  · obtain ⟨old, node, ends, held, leaf, rfl⟩ := remove_eq_ok removed
    obtain ⟨_, proper, rfl⟩ := endsAt_child reaches filled plain ends
    have seen := (view_leaf disk _ node leaf).mpr held
    obtain ⟨gone, kept, back⟩ := removed_keeps ordered (by simp) seen leaf
    exact discarded_iff reaches proper ⟨rfl, kept, gone⟩ back (leaf_solid seen leaf) content first second
  · exact renamed_iff ordered reaches single pending vacant renamed

end

def pendingDisk (final : Option Node) : Disk :=
  let pending : Entries := .cons (Utf8.ofString "rt.dll.temp") (.file [1] false) .nil
  let entries := match final with
    | none => pending
    | some node => .cons (Utf8.ofString "rt.dll") node pending
  ⟨.cons (Utf8.ofString "Ink~") (.dir entries) .nil, []⟩

def pendingSettings : Settings :=
  ⟨Path.ofString "/", ⟨"ink", by decide⟩, ⟨"rt.dll", by decide⟩, "~", ".temp"⟩

theorem pending_library_kept : ∃ after moved,
    settle pendingSettings (pendingDisk none) (Path.ofString "/Ink~") = .ok (after, moved) ∧
      LibraryKept pendingSettings (pendingDisk none) after (Path.ofString "/Ink~") [Utf8.ofString "Ink~"] := by
  have leads : (pendingDisk none).Leads (Path.ofString "/Ink~") [Utf8.ofString "Ink~"] :=
    ((locate_eq_ok _ _ _ _).mp rfl).1
  exact ⟨_, _, rfl, (settle_keeps_iff (by decide) leads (by decide) (by decide) _ rfl).mpr (.inl rfl)⟩

theorem linked_library_lost :
    let disk := pendingDisk (some (.link (Utf8.ofString "rt.dll.temp")))
    disk.isFile (pendingPath pendingSettings (Path.ofString "/Ink~")) = true ∧ ∃ after moved,
      settle pendingSettings disk (Path.ofString "/Ink~") = .ok (after, moved) ∧
        ¬ LibraryKept pendingSettings disk after (Path.ofString "/Ink~") [Utf8.ofString "Ink~"] := by
  refine ⟨by decide, _, _, rfl, fun kept => ?_⟩
  exact absurd kept.installed (by decide)

end InkProject.Compiler
