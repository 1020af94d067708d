import InkProject.Proofs.Compiler.Replay
import InkProject.Proofs.Disk.Carried
/- Paths that were found before the compiler was located, and what they lead to afterwards.
   A path crosses a relocation when its way asks for the entry that is taken: it leads to
   nothing then, and all others lead to what they led to. -/
set_option autoImplicit false

namespace InkProject.Compiler

open Disk InkProject.Path

def Crosses (path : Path) (disk : Disk) (relocation : Relocation) : Prop :=
  ∃ place, disk.EndsAt relocation.source place ∧ disk.ComesBy (disk.starting path) place

def Replaces (disk : Disk) (relocation : Relocation) : Prop :=
  relocation.kind ≠ .discardDuplicate ∧ ∃ place, disk.EndsAt relocation.target place ∧ disk.view place ≠ none

def Sometime (holds : Disk → Relocation → Prop) : Disk → List Relocation → Prop
  | _, [] => False
  | disk, relocation :: rest =>
    holds disk relocation ∨ ∃ next, relocation.apply disk = .ok next ∧ Sometime holds next rest

structure Relocates (relocation : Relocation) (disk after : Disk) (old new : Place) : Prop where
  applied : relocation.apply disk = .ok after
  source : disk.EndsAt relocation.source old
  target : new ≠ old → relocation.kind ≠ .discardDuplicate ∧ disk.EndsAt relocation.target new
  unused : new ≠ old → ∀ path final, disk.Leads path final → ¬ disk.ComesBy (disk.starting path) new
  carried : Carried disk after old new

section

variable {relocation : Relocation} {disk between after : Disk} {old new place : Place} {path : Path}

namespace Relocates

theorem crosses_iff (relocates : Relocates relocation disk after old new) :
    Crosses path disk relocation ↔ disk.ComesBy (disk.starting path) old := by
  constructor
  · rintro ⟨place, ends, comes⟩
    rwa [endsAt_unique relocates.source ends]
  · exact fun comes => ⟨old, relocates.source, comes⟩

theorem vacated (relocates : Relocates relocation disk after old new) (fresh : ¬ Replaces disk relocation) :
    Vacated disk old new := by
  intro different
  obtain ⟨kind, ends⟩ := relocates.target different
  exact Classical.byContradiction fun held => fresh ⟨kind, new, ends, held⟩

theorem keeps_file (relocates : Relocates relocation disk after old new) (file : disk.isFile path = true)
    (clear : ¬ Crosses path disk relocation) : after.isFile path = true ∧ after.read path = disk.read path := by
  obtain ⟨final, content, executable, leads, held⟩ := (isFile_iff disk path).mp file
  rw [relocates.crosses_iff] at clear
  have free : ¬ disk.ComesBy (disk.starting path) new := by
    by_cases same : new = old
    · rwa [same]
    · exact relocates.unused same path final leads
  obtain ⟨place, there, found⟩ := relocates.carried.file leads held clear free
  exact ⟨(isFile_iff after path).mpr ⟨place, content, executable, there, found⟩,
    (read_file there found).trans (read_file leads held).symm⟩

theorem loses (relocates : Relocates relocation disk after old new) (fresh : ¬ Replaces disk relocation)
    (crosses : Crosses path disk relocation) (final : Place) : ¬ after.Leads path final :=
  relocates.carried.lost (relocates.vacated fresh) (relocates.crosses_iff.mp crosses) final

-- What one relocation has lost another one does not bring back from a deeper place.
theorem still_loses {above : Place} {name : Bytes} {source target : Place} {next : Relocation}
    (first : Relocates relocation disk between (above ++ [name]) new) (second : Relocates next between after source target)
    (fresh : ¬ Replaces disk relocation) (later : ¬ Replaces between next) (proper : Proper name)
    (deeper : (above ++ [name]).length < target.length) (crosses : Crosses path disk relocation) (final : Place) :
    ¬ after.Leads path final := by
  have comes := first.carried.comesBy (first.vacated fresh) (first.crosses_iff.mp crosses)
  rcases comes with comes | ⟨itself, _⟩
  · rw [← first.carried.starting] at comes
    refine second.carried.still_lost (second.vacated later) proper first.carried.gone (fun inside => ?_) comes final
    exact absurd inside.length_le (Nat.not_le_of_lt deeper)
  · exact absurd rfl itself

end Relocates

inductive Relocated : Disk → List Relocation → Disk → Prop where
  | none (disk : Disk) : Relocated disk [] disk
  | next {relocation : Relocation} {rest : List Relocation} {disk between after : Disk} {old new : Place}
      (first : Relocates relocation disk between old new) (later : Relocated between rest after) :
      Relocated disk (relocation :: rest) after

theorem Relocated.keeps_file {relocations : List Relocation} (relocated : Relocated disk relocations after)
    (file : disk.isFile path = true) (clear : ¬ Sometime (Crosses path) disk relocations) :
    after.isFile path = true ∧ after.read path = disk.read path := by
  induction relocated with
  | none => exact ⟨file, rfl⟩
  | next relocates _ ih =>
    obtain ⟨found, same⟩ := relocates.keeps_file file fun crosses => clear (.inl crosses)
    obtain ⟨kept, content⟩ := ih found fun later => clear (.inr ⟨_, relocates.applied, later⟩)
    exact ⟨kept, content.trans same⟩

theorem sometime_next (relocates : Relocates relocation disk between old new) (holds : Disk → Relocation → Prop)
    (rest : List Relocation) :
    Sometime holds disk (relocation :: rest) ↔ holds disk relocation ∨ Sometime holds between rest := by
  rw [Sometime]
  constructor
  · rintro (here | ⟨next, applied, later⟩)
    · exact .inl here
    · rw [relocates.applied] at applied
      cases applied
      exact .inr later
  · rintro (here | later)
    · exact .inl here
    · exact .inr ⟨between, relocates.applied, later⟩

end

section

variable {settings : Settings} {disk after : Disk} {place : Place} {directory target : Path} {moved : Option Relocation}

theorem hide_relocates (formed : disk.WellFormed) (top : disk.view place = some Node.emptyDir)
    (single : '/' ∉ settings.hiddenSuffix.toList) (hid : hide settings disk (pathOf place) = .ok (after, target, moved)) :
    (moved = none ∧ after = disk ∧ target = pathOf place) ∨ ∃ relocation above name other, moved = some relocation ∧
      place = above ++ [name] ∧ Proper name ∧ Relocates relocation disk after place (above ++ [other]) ∧
      target = pathOf (above ++ [other]) ∧ after.WellFormed ∧ after.view (above ++ [other]) = some Node.emptyDir := by
  rcases hide_cases hid with ⟨_, rfl, rfl, rfl⟩ | ⟨_, sibling, unused, renamed, rfl⟩
  · exact .inl ⟨rfl, rfl, rfl⟩
  obtain ⟨above, name, rfl, directory, last, fresh, rfl⟩ := sibling_beside formed top single sibling
  obtain ⟨_, ends, only⟩ := moved_only formed top unused renamed
  obtain ⟨old, new, endsOld, endsNew, changed⟩ := rename_eq_ok formed.ordered renamed
  obtain rfl := endsAt_unique endsNew ends
  obtain rfl := endsAt_pathOf formed top endsOld
  obtain ⟨_, proper, rfl⟩ := endsAt_child (reaches_pathOf formed directory) (by simp [last.filled]) fresh endsNew
  have different : above ++ [name] ≠ above ++ [name ++ Utf8.ofString settings.hiddenSuffix] := by
    intro same
    rw [same, only.vacant] at top
    cases top
  have carried := changed.carried different ⟨above, name, _, rfl, rfl, last.proper, proper⟩ (by simp [only.vacant])
  refine .inr ⟨_, above, name, _, rfl, rfl, last.proper, ⟨renamed, endsOld, fun _ => ⟨by simp, endsNew⟩, ?_, carried⟩,
    child_of_dir formed directory fresh, changed.wellFormed formed (endsAt_entry endsNew), carried.directory top⟩
  rintro _ path final ⟨_, links, way⟩
  exact clear_of_vacant _ proper only.vacant _ links final way

theorem settle_relocates (formed : disk.WellFormed) (top : disk.view place = some Node.emptyDir)
    (single : '/' ∉ settings.pendingSuffix.toList) (settled : settle settings disk (pathOf place) = .ok (after, moved)) :
    (moved = none ∧ after = disk) ∨ ∃ relocation old name, moved = some relocation ∧
      Relocates relocation disk after old (place ++ [name]) := by
  have reaches := reaches_pathOf formed top
  have filled := pendingName_filled settings
  have plain := pendingName_single settings single
  rcases settle_cases settled with ⟨_, rfl, rfl⟩ | ⟨pending, ⟨_, _, _, removed, rfl⟩ | ⟨unused, renamed, rfl⟩⟩
  · exact .inl ⟨rfl, rfl⟩
  · obtain ⟨old, node, ends, held, leaf, rfl⟩ := remove_eq_ok removed
    obtain ⟨_, proper, rfl⟩ := endsAt_child reaches filled plain ends
    have seen := (view_leaf disk _ node leaf).mpr held
    exact .inr ⟨_, _, _, rfl, removed, ends, fun different => absurd rfl different, fun different => absurd rfl different,
      removed_carried formed.ordered seen leaf ⟨place, _, rfl, proper⟩⟩
  · obtain ⟨old, new, endsOld, endsNew, changed⟩ := rename_eq_ok formed.ordered renamed
    have different := pending_elsewhere pending unused endsOld endsNew
    have solid : disk.view new ≠ some Node.emptyDir := by
      intro directory
      obtain ⟨entries, held⟩ := (view_dir disk new).mp directory
      rw [(exists?_iff disk _).mpr ⟨new, _, endsAt_leads endsNew directory, held⟩] at unused
      cases unused
    obtain ⟨_, proper, rfl⟩ := endsAt_child reaches filled plain endsOld
    obtain ⟨checked, named, rfl⟩ :=
      endsAt_child reaches settings.companion.bytes_filled settings.companion.bytes_single endsNew
    refine .inr ⟨_, _, _, rfl, renamed, endsOld, fun _ => ⟨by simp, endsNew⟩, fun _ path final leads => ?_,
      changed.carried different ⟨place, _, _, rfl, rfl, proper, named⟩ solid⟩
    exact clear_of_unused reaches settings.companion.bytes_filled settings.companion.bytes_single checked unused leads

end

section

variable {order : Enumeration} {settings : Settings} {disk : Disk} {located : Located}

theorem locate_relocated (path : Path) (formed : disk.WellFormed) (hiddenSingle : '/' ∉ settings.hiddenSuffix.toList)
    (pendingSingle : '/' ∉ settings.pendingSuffix.toList) (done : (locate order settings disk).result = .ok located) :
    Relocated disk located.relocations (locate order settings disk).disk ∧
      (¬ Sometime Replaces disk located.relocations → Sometime (Crosses path) disk located.relocations →
        ∀ final, ¬ (locate order settings disk).disk.Leads path final) := by
  obtain ⟨choice, between, directory, hidden, after, settled, made, hid, settling, same, rfl⟩ := locate_cases done
  obtain ⟨root, place, elected, chosen⟩ := choose_eq_ok formed choice made
  rw [chosen, elected_directory formed elected] at hid
  rw [same]
  dsimp only
  rcases hide_relocates formed elected.below.directory hiddenSingle hid with ⟨rfl, rfl, rfl⟩ | ⟨first, above, name, other,
    rfl, rfl, proper, hides, rfl, later, top⟩
  · rcases settle_relocates formed elected.below.directory pendingSingle settling with ⟨rfl, rfl⟩ | ⟨second, old, _, rfl, settles⟩
    · exact ⟨.none _, fun _ never => never.elim⟩
    · refine ⟨.next settles (.none _), fun fresh crosses => ?_⟩
      simp only [Option.toList, List.nil_append, sometime_next settles] at fresh crosses
      exact settles.loses (fun replaces => fresh (.inl replaces)) (crosses.resolve_right id)
  · rcases settle_relocates later top pendingSingle settling with ⟨rfl, rfl⟩ | ⟨second, old, _, rfl, settles⟩
    · refine ⟨.next hides (.none _), fun fresh crosses => ?_⟩
      simp only [Option.toList, List.append_nil, sometime_next hides] at fresh crosses
      exact hides.loses (fun replaces => fresh (.inl replaces)) (crosses.resolve_right id)
    · refine ⟨.next hides (.next settles (.none _)), fun fresh crosses => ?_⟩
      simp only [Option.toList, List.singleton_append, sometime_next hides, sometime_next settles, not_or] at fresh crosses
      obtain ⟨freshHides, freshSettles, _⟩ := fresh
      rcases crosses with crosses | crosses | never
      · exact hides.still_loses settles freshHides freshSettles proper (by simp) crosses
      · exact settles.loses freshSettles crosses
      · exact never.elim

end

end InkProject.Compiler
