import InkProject.Proofs.Disk.Grown
set_option autoImplicit false

namespace InkProject.Disk

open InkProject.Path

def Holds (disk : Disk) (path : Path) (bytes : Bytes) : Prop :=
  ∃ executable, disk.look path = .ok (.file bytes executable)

def FileOrNothing (disk : Disk) (path : Path) : Prop := disk.isFile path = true ∨ disk.exists? path = false

section

variable {disk : Disk} {path : Path} {place : Place} {bytes other : Bytes}

theorem look_leaf {node : Node} (leaf : node.isDir = false) (leads : disk.Leads path place)
    (held : disk.view place = some node) : disk.look path = .ok node :=
  (look_eq_ok disk path node).mpr ⟨place, leads, (view_leaf disk place node leaf).mp held⟩

theorem Holds.isFile (holds : disk.Holds path bytes) : disk.isFile path = true := by
  obtain ⟨executable, found⟩ := holds
  rw [Disk.isFile, found]

theorem Holds.read (holds : disk.Holds path bytes) : disk.read path = .ok bytes := by
  obtain ⟨executable, found⟩ := holds
  rw [Disk.read, found]
  rfl

theorem Holds.unique (first : disk.Holds path bytes) (second : disk.Holds path other) : bytes = other :=
  Except.ok.inj (first.read.symm.trans second.read)

theorem Holds.fileOrNothing (holds : disk.Holds path bytes) : disk.FileOrNothing path := .inl holds.isFile

theorem exists_holds (file : disk.isFile path = true) : ∃ bytes, disk.Holds path bytes := by
  rw [Disk.isFile] at file
  split at file
  · rename_i content executable found
    exact ⟨content, executable, found⟩
  · cases file

end

structure Rewritten (disk after : Disk) (place : Place) (old new : Bytes) (executable : Bool) : Prop where
  before : disk.view place = some (.file old executable)
  now : after.view place = some (.file new executable)
  others : ∀ other, other ≠ place → after.view other = disk.view other
  cwd : after.cwd = disk.cwd

section

variable {disk after : Disk} {path : Path} {place : Place} {old new content : Bytes} {executable : Bool}

theorem set_rewritten (held : disk.view place = some (.file old executable)) (new : Bytes) :
    Rewritten disk (disk.set place (some (.file new executable))) place old new executable := by
  rcases List.eq_nil_or_concat place with rfl | ⟨parent, name, rfl⟩
  · rw [view_nil] at held
    cases held
  rw [List.concat_eq_append] at held ⊢
  have directory := disk.view_parent parent name (by simp [held])
  refine ⟨held, put_held directory _, fun other different => ?_, rfl⟩
  rw [view_put directory]
  split
  · rename_i inside
    obtain ⟨below, rfl⟩ := inside
    have deeper : below ≠ [] := fun none => different (by rw [none, List.append_nil])
    rw [List.drop_left, Node.view_leaf _ rfl, if_neg deeper, disk.view_below_leaf _ below _ rfl held deeper]
  · rfl

-- Bytes of a file show the way to nothing.
theorem Rewritten.sameWays (rewritten : Rewritten disk after place old new executable) : SameWays disk after where
  directory other held := by
    rw [rewritten.others other fun same => leaf_solid (same ▸ rewritten.before) rfl held, held]
  entry other node held := by
    by_cases same : other = place
    · subst same
      rw [rewritten.before, Option.some.injEq] at held
      exact ⟨_, rewritten.now, fun target => by simp [← held]⟩
    · exact ⟨node, (rewritten.others other same).trans held, fun _ => .rfl⟩
  cwd := rewritten.cwd

theorem Rewritten.holds (rewritten : Rewritten disk after place old new executable) (leads : disk.Leads path place) :
    after.Holds path new :=
  ⟨executable, look_leaf rfl (rewritten.sameWays.leads leads) rewritten.now⟩

theorem write_holds (before : disk.FileOrNothing path) (written : disk.write path content = .ok after) :
    after.Holds path content := by
  rcases write_eq_ok written with ⟨parent, name, missing, rfl⟩ | ⟨place, leads, ⟨old, executable, held, rfl⟩ | ⟨device, held, rfl⟩⟩
  · obtain ⟨leads, held⟩ := (locate_leaf _ _ _ _ rfl).mp (missing.put_leads content)
    exact ⟨false, look_leaf rfl leads held⟩
  · exact (set_rewritten held content).holds leads
  · have found := look_leaf rfl leads held
    rw [FileOrNothing, Disk.isFile, exists?, found] at before
    simp [Except.isOk, Except.toBool] at before

end

end InkProject.Disk
