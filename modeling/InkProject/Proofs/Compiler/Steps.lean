import InkProject.Proofs.Compiler.Choice
import InkProject.Proofs.Disk.Clear
set_option autoImplicit false

namespace InkProject

namespace Disk

section

variable {disk : Disk} {path : Path} {content : Bytes}

theorem read_eq_ok : disk.read path = .ok content ↔ ∃ place, disk.Leads path place ∧
    ((∃ executable, disk.view place = some (.file content executable)) ∨
      ∃ device, disk.view place = some (.device device) ∧ content = []) := by
  rw [read, bind_eq_ok]
  constructor
  · intro holds
    obtain ⟨node, seen, same⟩ := holds
    obtain ⟨place, leads, held⟩ := (look_eq_ok disk path node).mp seen
    cases node with
    | dir | link => cases same
    | file found executable =>
      cases same
      exact ⟨place, leads, .inl ⟨executable, (view_leaf disk place _ rfl).mpr held⟩⟩
    | device device =>
      cases same
      exact ⟨place, leads, .inr ⟨device, (view_leaf disk place _ rfl).mpr held, rfl⟩⟩
  · intro holds
    obtain ⟨place, leads, ⟨executable, held⟩ | ⟨device, held, rfl⟩⟩ := holds
    · have there := (view_leaf disk place _ rfl).mp held
      exact ⟨_, (look_eq_ok disk path _).mpr ⟨place, leads, there⟩, rfl⟩
    · have there := (view_leaf disk place _ rfl).mp held
      exact ⟨_, (look_eq_ok disk path _).mpr ⟨place, leads, there⟩, rfl⟩

theorem read_file {place : Place} {executable : Bool} (leads : disk.Leads path place)
    (held : disk.view place = some (.file content executable)) : disk.read path = .ok content :=
  read_eq_ok.mpr ⟨place, leads, .inl ⟨executable, held⟩⟩

end

end Disk

namespace Compiler

open Disk

section

variable {settings : Settings} {disk after : Disk} {directory target : Path} {moved : Option Relocation}

theorem sameContents_eq_true {a b : Path} (same : sameContents disk a b = .ok true) :
    ∃ content, disk.read a = .ok content ∧ disk.read b = .ok content := by
  rw [sameContents] at same
  obtain ⟨sizeA, _, same⟩ := (bind_eq_ok _ _ _).mp same
  obtain ⟨sizeB, _, same⟩ := (bind_eq_ok _ _ _).mp same
  split at same
  · cases same
  obtain ⟨contentA, readA, same⟩ := (bind_eq_ok _ _ _).mp same
  obtain ⟨contentB, readB, same⟩ := (bind_eq_ok _ _ _).mp same
  have equal : contentA = contentB := by simpa [pure, Except.pure] using same
  exact ⟨contentA, readA, equal ▸ readB⟩

theorem move_eq_ok {kind : RelocationKind} {source : Path} {relocation : Relocation}
    (done : move kind disk source target = .ok (after, relocation)) :
    disk.exists? target = false ∧ relocation = ⟨kind, source, target⟩ ∧ relocation.apply disk = .ok after := by
  rw [move] at done
  split at done
  · cases done
  · rename_i vacant
    dsimp only at done
    split at done
    · cases done
    · rename_i applied
      cases done
      exact ⟨by simpa using vacant, rfl, applied⟩

def finalPath (settings : Settings) (directory : Path) : Path := directory.child settings.companion.bytes
def pendingPath (settings : Settings) (directory : Path) : Path := directory.childNamed settings.pendingCompanion

theorem move_eq_error {kind : RelocationKind} {source : Path} {error : LocateError}
    (failed : move kind disk source target = .error error) : ∃ reason, error = .relocation source target reason := by
  rw [move] at failed
  split at failed
  · cases failed
    exact ⟨_, rfl⟩
  · dsimp only at failed
    split at failed
    · cases failed
      exact ⟨_, rfl⟩
    · cases failed

-- All that settling can do.
theorem settle_cases (settled : settle settings disk directory = .ok (after, moved)) :
    (disk.isFile (pendingPath settings directory) = false ∧ after = disk ∧ moved = none) ∨
      disk.isFile (pendingPath settings directory) = true ∧
        ((∃ content, disk.read (pendingPath settings directory) = .ok content ∧
            disk.read (finalPath settings directory) = .ok content ∧
            disk.remove (pendingPath settings directory) = .ok after ∧
            moved = some ⟨.discardDuplicate, pendingPath settings directory, finalPath settings directory⟩) ∨
          disk.exists? (finalPath settings directory) = false ∧
            disk.rename (pendingPath settings directory) (finalPath settings directory) = .ok after ∧
            moved = some ⟨.renameCompanion, pendingPath settings directory, finalPath settings directory⟩) := by
  rw [finalPath, pendingPath]
  rw [settle] at settled
  by_cases pending : disk.isFile (directory.childNamed settings.pendingCompanion) = true
  · simp only [pending, Bool.not_true, Bool.false_eq_true, if_false] at settled
    refine .inr ⟨pending, ?_⟩
    split at settled
    · split at settled
      · cases settled
      · cases settled
      · rename_i same
        obtain ⟨content, first, second⟩ := sameContents_eq_true same
        split at settled
        · cases settled
        · rename_i removed
          cases settled
          exact .inl ⟨content, first, second, removed, rfl⟩
    · rename_i vacant
      obtain ⟨⟨_, relocation⟩, done, same⟩ := (bind_eq_ok _ _ _).mp settled
      cases same
      obtain ⟨_, rfl, renamed⟩ := move_eq_ok done
      exact .inr ⟨by simpa using vacant, renamed, rfl⟩
  · simp only [pending, Bool.not_false, if_true, Except.ok.injEq, Prod.mk.injEq] at settled
    exact .inl ⟨by simpa using pending, settled.1.symm, settled.2.symm⟩

theorem hide_cases (hidden : hide settings disk directory = .ok (after, target, moved)) :
    (isHidden directory settings.hiddenSuffix = true ∧ after = disk ∧ target = directory ∧ moved = none) ∨
      isHidden directory settings.hiddenSuffix = false ∧
        hiddenSibling directory settings.hiddenSuffix = .ok target ∧ disk.exists? target = false ∧
        disk.rename directory target = .ok after ∧ moved = some ⟨.hideDirectory, directory, target⟩ := by
  rw [hide] at hidden
  by_cases already : isHidden directory settings.hiddenSuffix = true
  · rw [if_pos already] at hidden
    cases hidden
    exact .inl ⟨already, rfl, rfl, rfl⟩
  · rw [if_neg already] at hidden
    obtain ⟨sibling, found, hidden⟩ := (bind_eq_ok _ _ _).mp hidden
    obtain ⟨⟨_, relocation⟩, done, same⟩ := (bind_eq_ok _ _ _).mp hidden
    cases same
    obtain ⟨vacant, rfl, renamed⟩ := move_eq_ok done
    exact .inr ⟨by simpa using already, found, vacant, renamed, rfl⟩

theorem settle_error {error : LocateError} (failed : settle settings disk directory = .error error) :
    disk.isFile (pendingPath settings directory) = true ∧
      ∃ reason, error = .relocation (pendingPath settings directory) (finalPath settings directory) reason := by
  rw [finalPath, pendingPath]
  rw [settle] at failed
  by_cases pending : disk.isFile (directory.childNamed settings.pendingCompanion) = true
  · refine ⟨pending, ?_⟩
    simp only [pending, Bool.not_true, Bool.false_eq_true, if_false] at failed
    split at failed
    · split at failed
      · cases failed
        exact ⟨_, rfl⟩
      · cases failed
        exact ⟨_, rfl⟩
      · split at failed
        · cases failed
          exact ⟨_, rfl⟩
        · cases failed
    · rcases (bind_eq_error _ _ _).mp failed with refused | ⟨_, _, done⟩
      · exact move_eq_error refused
      · cases done
  · simp only [pending, Bool.not_false, if_true] at failed
    cases failed

theorem hide_error {error : LocateError} (failed : hide settings disk directory = .error error) :
    ∃ target reason, error = .relocation directory target reason := by
  rw [hide] at failed
  split at failed
  · cases failed
  · rcases (bind_eq_error _ _ _).mp failed with unnamed | ⟨sibling, _, failed⟩
    · rw [hiddenSibling] at unnamed
      split at unnamed
      · cases unnamed
        exact ⟨_, _, rfl⟩
      · cases unnamed
    · rcases (bind_eq_error _ _ _).mp failed with refused | ⟨_, _, done⟩
      · exact ⟨sibling, move_eq_error refused⟩
      · cases done

variable {order : Enumeration}

def hiddenEvent (directory : Path) : Option Relocation → LocateEvent
  | some relocation => relocation.event
  | none => .alreadyHidden directory

theorem locate_settling {events : List LocateEvent} {choice : Choice} {between : Disk} {hidden : Option Relocation}
    (made : choose order settings disk = (events, .ok choice))
    (hid : hide settings disk (directoryOf choice.chosen) = .ok (between, directory, hidden)) :
    locate order settings disk = match settle settings between directory with
      | .error error => ⟨.error error, between, events ++ [hiddenEvent directory hidden]⟩
      | .ok (after, settled) => ⟨.ok ⟨directory.child settings.executable.bytes,
          Descriptor.inDirectory settings.executable directory settings.hiddenSuffix,
          companionState settings after directory, hidden.toList ++ settled.toList⟩,
        after, events ++ [hiddenEvent directory hidden] ++ settled.toList.map Relocation.event⟩ := by
  rw [locate, made]
  simp only [hid]
  cases hidden <;> rfl

theorem locate_cases {located : Located} (done : (locate order settings disk).result = .ok located) :
    ∃ choice between directory hidden after settled, (choose order settings disk).2 = .ok choice ∧
      hide settings disk (directoryOf choice.chosen) = .ok (between, directory, hidden) ∧
      settle settings between directory = .ok (after, settled) ∧ (locate order settings disk).disk = after ∧
      located = ⟨directory.child settings.executable.bytes,
        Descriptor.inDirectory settings.executable directory settings.hiddenSuffix,
        companionState settings after directory, hidden.toList ++ settled.toList⟩ := by
  rw [locate] at done ⊢
  split at done
  · cases done
  · rename_i events choice chosen
    split at done
    · cases done
    · rename_i between directory hidden hid
      dsimp only at done
      split at done
      · cases done
      · rename_i after settled settling
        cases done
        exact ⟨choice, between, directory, hidden, after, settled, by rw [chosen], hid, settling, rfl, rfl⟩

theorem choose_error {error : LocateError} (failed : (choose order settings disk).2 = .error error)
    (source target : Path) (reason : Refusal ⊕ IoError) : error ≠ .relocation source target reason := by
  rw [choose] at failed
  split at failed
  · rename_i fault unrooted
    cases failed
    rw [searchRoot] at unrooted
    split at unrooted
    · cases unrooted
      exact LocateError.noConfusion
    · split at unrooted
      · cases unrooted
        exact LocateError.noConfusion
      · split at unrooted
        · cases unrooted
          exact LocateError.noConfusion
        · split at unrooted
          · cases unrooted
            exact LocateError.noConfusion
          · cases unrooted
  · dsimp only at failed
    split at failed
    · cases failed
      exact LocateError.noConfusion
    · split at failed
      · cases failed
        exact LocateError.noConfusion
      · cases failed
      · cases failed

theorem locate_relocation {source target : Path} {reason : Refusal ⊕ IoError}
    (failed : (locate order settings disk).result = .error (.relocation source target reason)) :
    ∃ choice, (choose order settings disk).2 = .ok choice ∧
      (source = directoryOf choice.chosen ∨ ∃ between directory hidden,
        hide settings disk (directoryOf choice.chosen) = .ok (between, directory, hidden) ∧
          source = pendingPath settings directory) := by
  rw [locate] at failed
  split at failed
  · rename_i events error chosen
    cases failed
    exact absurd rfl (choose_error (by rw [chosen]) source target reason)
  · rename_i events choice chosen
    refine ⟨choice, by rw [chosen], ?_⟩
    split at failed
    · rename_i error hid
      cases failed
      obtain ⟨_, _, same⟩ := hide_error hid
      cases same
      exact .inl rfl
    · rename_i between directory hidden hid
      dsimp only at failed
      split at failed
      · rename_i error settling
        cases failed
        obtain ⟨_, _, same⟩ := settle_error settling
        cases same
        exact .inr ⟨between, directory, hidden, hid, rfl⟩
      · cases failed

end

end Compiler

end InkProject
