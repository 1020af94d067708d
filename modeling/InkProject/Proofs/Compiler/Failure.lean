import InkProject.Proofs.Compiler.Relocations
import InkProject.Proofs.Disk.Moved
set_option autoImplicit false

namespace InkProject.Compiler

open Disk

structure MovedOnly (disk after : Disk) (old new : Place) : Prop where
  directory : disk.view old = some Node.emptyDir
  vacant : disk.view new = none
  gone : after.view old = none
  kept : ∀ place, disk.view place ≠ none → after.view (moveWorking old new place) = disk.view place
  origin : ∀ place, after.view place ≠ none → disk.view (moveWorking new old place) = after.view place
  cwd : after.cwd = moveWorking old new disk.cwd

structure HiddenOnly (settings : Settings) (disk after : Disk) (chosen target : Path) : Prop where
  shown : isHidden (directoryOf chosen) settings.hiddenSuffix = false
  sibling : hiddenSibling (directoryOf chosen) settings.hiddenSuffix = .ok target
  renamed : disk.rename (directoryOf chosen) target = .ok after
  moved : ∃ old new, chosen = pathOf (old ++ [settings.executable.bytes]) ∧ disk.EndsAt target new ∧
    MovedOnly disk after old new ∧ ('/' ∉ settings.hiddenSuffix.toList → ∃ above name, old = above ++ [name] ∧
      new = above ++ [name ++ Utf8.ofString settings.hiddenSuffix])

section

variable {settings : Settings} {disk after : Disk} {place : Place} {target : Path} {moved : Option Relocation}

-- Nothing stands at the name that a directory is moved to: an empty directory there would be seen.
theorem moved_only (formed : disk.WellFormed) (directory : disk.view place = some Node.emptyDir)
    (unused : disk.exists? target = false) (renamed : disk.rename (pathOf place) target = .ok after) :
    ∃ new, disk.EndsAt target new ∧ MovedOnly disk after place new := by
  obtain ⟨old, new, endsOld, endsNew, only, room⟩ := rename_cases formed.ordered renamed
  obtain rfl := endsAt_pathOf formed directory endsOld
  have vacant : disk.view new = none := by
    rcases room directory with vacant | empty
    · exact vacant
    · obtain ⟨entries, held⟩ := (view_dir disk new).mp empty
      rw [(exists?_iff disk target).mpr ⟨new, _, endsAt_leads endsNew empty, held⟩] at unused
      cases unused
  have different : old ≠ new := by
    rintro rfl
    rw [directory] at vacant
    cases vacant
  exact ⟨new, endsNew, directory, vacant, only.gone different, fun place held => only.moved place vacant held,
    only.origin, only.cwd⟩

theorem hide_only (formed : disk.WellFormed) {chosen : Path} (made : chosen = pathOf (place ++ [settings.executable.bytes]))
    (parent : directoryOf chosen = pathOf place) (directory : disk.view place = some Node.emptyDir)
    (hid : hide settings disk (directoryOf chosen) = .ok (after, target, moved)) :
    after = disk ∨ HiddenOnly settings disk after chosen target := by
  rcases hide_cases hid with ⟨_, same, _⟩ | ⟨shown, sibling, unused, renamed, _⟩
  · exact .inl same
  · have changed := renamed
    have found := sibling
    rw [parent] at changed found
    obtain ⟨new, ends, only⟩ := moved_only formed directory unused changed
    refine .inr ⟨shown, sibling, renamed, place, new, made, ends, only, fun single => ?_⟩
    obtain ⟨above, name, rfl, top, last, fresh, rfl⟩ := sibling_beside formed directory single found
    exact ⟨above, name, rfl, (endsAt_child (reaches_pathOf formed top) (by simp [last.filled]) fresh ends).2.2⟩

end

def Halfway (order : Enumeration) (settings : Settings) (disk after : Disk) (error : LocateError) : Prop :=
  ∃ choice target reason, (choose order settings disk).2 = .ok choice ∧ HiddenOnly settings disk after choice.chosen target ∧
    settle settings after target = .error error ∧
    error = .relocation (pendingPath settings target) (finalPath settings target) reason

theorem locate_failed {order : Enumeration} {settings : Settings} {disk : Disk} {error : LocateError}
    (formed : disk.WellFormed) (failed : (locate order settings disk).result = .error error) :
    ((∀ source target reason, error ≠ .relocation source target reason) → (locate order settings disk).disk = disk) ∧
      ((locate order settings disk).disk = disk ∨ Halfway order settings disk (locate order settings disk).disk error) := by
  have outcome : (locate order settings disk).disk = disk ∨
      Halfway order settings disk (locate order settings disk).disk error := by
    rcases chosen : choose order settings disk with ⟨events, unmade | choice⟩
    · rw [locate, chosen]
      exact .inl rfl
    cases hid : hide settings disk (directoryOf choice.chosen) with
    | error refusal =>
      rw [locate, chosen]
      simp only [hid, true_or]
    | ok step =>
      obtain ⟨between, target, hidden⟩ := step
      have run := locate_settling chosen hid
      cases settling : settle settings between target with
      | ok last =>
        rw [run, settling] at failed
        cases failed
      | error refusal =>
        rw [settling] at run
        rw [run] at failed ⊢
        cases failed
        have made : (choose order settings disk).2 = .ok choice := by rw [chosen]
        obtain ⟨root, place, elected, path⟩ := choose_eq_ok formed choice made
        have parent : directoryOf choice.chosen = pathOf place := by rw [path, elected_directory formed elected]
        rcases hide_only formed path parent elected.below.directory hid with same | only
        · exact .inl same
        · obtain ⟨_, reason, about⟩ := settle_error settling
          exact .inr ⟨choice, target, reason, made, only, settling, about⟩
  refine ⟨fun other => ?_, outcome⟩
  rcases outcome with same | ⟨_, target, reason, _, _, _, about⟩
  · exact same
  · exact absurd about (other _ _ reason)

def keptDisk (content : Bytes) : Disk :=
  let entries : Entries := .cons (Utf8.ofString "ink") (.file [2] true)
    (.cons (Utf8.ofString "rt.dll") (.link (Utf8.ofString "../kept"))
      (.cons (Utf8.ofString "rt.dll.temp") (.file [1] false) .nil))
  ⟨.cons (Utf8.ofString "Ink") (.dir entries) (.cons (Utf8.ofString "kept") (.file content false) .nil), []⟩

theorem differing_library_left :
    let error := LocateError.relocation (Path.ofString "/Ink~/rt.dll.temp") (Path.ofString "/Ink~/rt.dll")
      (.inl .differentCompanion)
    ((keptDisk [3]).WellFormed ∧ (locate .sorted pendingSettings (keptDisk [3])).result = .error error) ∧
      Halfway .sorted pendingSettings (keptDisk [3]) (locate .sorted pendingSettings (keptDisk [3])).disk error := by
  have formed : (keptDisk [3]).WellFormed := wellFormed_of_names (by decide) (by decide)
  have failed : (locate .sorted pendingSettings (keptDisk [3])).result = .error (.relocation
      (Path.ofString "/Ink~/rt.dll.temp") (Path.ofString "/Ink~/rt.dll") (.inl .differentCompanion)) := by decide +kernel
  have changed : (locate .sorted pendingSettings (keptDisk [3])).disk ≠ keptDisk [3] := by decide +kernel
  exact ⟨⟨formed, failed⟩, (locate_failed formed failed).2.resolve_left changed⟩

end InkProject.Compiler
