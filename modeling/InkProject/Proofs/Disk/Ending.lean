import InkProject.Proofs.Disk.Way
import InkProject.Proofs.Path.Canonical
set_option autoImplicit false

namespace InkProject

namespace Path

theorem names_cut (a b : Bytes) : (Path.mk (a ++ slash :: b)).names = (Path.mk a).names ++ (Path.mk b).names := by
  simp [names, segments_append]

theorem names_single (name : Bytes) (filled : name ≠ []) (single : slash ∉ name) : (Path.mk name).names = [name] := by
  simp [names, segments_single name single, filled]

theorem relative_of_single (name : Bytes) (single : slash ∉ name) : (Path.mk name).isAbsolute = false := by
  simp only [isAbsolute, decide_eq_false_iff_not]
  exact fun head => single (List.mem_of_head? head)

section

variable {directory other : Path} {name : Bytes}

theorem names_join (relative : other.isAbsolute = false) : (directory.join other).names = directory.names ++ other.names := by
  obtain ⟨bytes⟩ := directory
  rw [join, if_neg (by simp [relative])]
  by_cases empty : bytes = []
  · subst empty
    rfl
  by_cases slashed : (Path.mk bytes).endsInSlash
  · rw [if_pos (.inr slashed)]
    simp only [endsInSlash, decide_eq_true_eq] at slashed
    obtain ⟨before, rfl⟩ := List.getLast?_eq_some_iff.mp slashed
    have trailing : (Path.mk (before ++ [slash])).names = (Path.mk before).names := by
      rw [names_cut]
      simp [names, segments]
    rw [trailing, List.append_assoc, List.singleton_append, names_cut]
  · rw [if_neg (by simp [empty, slashed]), names_cut]

theorem startOf_join (relative : other.isAbsolute = false) (current : Place) :
    Disk.startOf (directory.join other).bytes current =
      if directory.bytes = [] then current else Disk.startOf directory.bytes current := by
  rw [join, if_neg (by simp [relative])]
  simp only [isAbsolute, decide_eq_false_iff_not] at relative
  cases same : directory.bytes with
  | nil => simp [Disk.startOf, relative]
  | cons byte rest =>
    rw [if_neg (List.cons_ne_nil byte rest)]
    split <;> simp [Disk.startOf]

theorem child_bytes (single : slash ∉ name) :
    directory.child name = if directory.bytes = [] ∨ directory.endsInSlash then ⟨directory.bytes ++ name⟩
      else ⟨directory.bytes ++ slash :: name⟩ := by
  rw [child, join, if_neg (by simp [relative_of_single name single])]

theorem child_longer (single : slash ∉ name) : directory.bytes.length ≤ (directory.child name).bytes.length := by
  rw [child_bytes single]
  split <;> simp

theorem names_child (filled : name ≠ []) (single : slash ∉ name) :
    (directory.child name).names = directory.names ++ [name] := by
  rw [child, names_join (relative_of_single name single), names_single name filled single]

theorem child_endsInSlash (filled : name ≠ []) (single : slash ∉ name) : (directory.child name).endsInSlash = false := by
  have last : name.getLast? ≠ some slash := fun same => single (List.mem_of_getLast? same)
  obtain ⟨byte, found⟩ : ∃ byte, name.getLast? = some byte := by
    rw [List.getLast?_eq_some_getLast filled]
    exact ⟨_, rfl⟩
  rw [child_bytes single]
  split <;> simp_all [endsInSlash, List.getLast?_append, List.getLast?_cons]

theorem startOf_child (start : directory.bytes ≠ []) (single : slash ∉ name) (current : Place) :
    Disk.startOf (directory.child name).bytes current = Disk.startOf directory.bytes current := by
  rw [child, startOf_join (relative_of_single name single), if_neg start]

end

end Path

namespace Disk

open InkProject.Path Relation

theorem checkPath_ok (path : Path) :
    checkPath path = .ok () ↔ 0 ∉ path.bytes ∧ path.bytes ≠ [] ∧ path.bytes.length < pathLimit := by
  rw [checkPath]
  by_cases nul : 0 ∈ path.bytes
  · simp [nul]
  by_cases empty : path.bytes = []
  · simp [empty]
  by_cases long : pathLimit ≤ path.bytes.length
  · simp [nul, empty, long]
  · simp [nul, empty, long, Nat.lt_of_not_le long]

theorem steps_open (path : Path) (open_end : path.endsInSlash = false) : steps path.bytes = path.names := by
  simp only [endsInSlash, decide_eq_false_iff_not] at open_end
  rw [steps, ← names]
  simp [open_end]

theorem steps_slashed (path : Path) (filled : path.names ≠ []) (slashed : path.endsInSlash = true) :
    steps path.bytes = path.names ++ [[]] := by
  simp only [endsInSlash, decide_eq_true_eq] at slashed
  rw [steps, ← names]
  simp [slashed, filled]

theorem steps_nameless (path : Path) (empty : path.names = []) : steps path.bytes = [] := by
  rw [steps, ← names]
  simp [empty]

section

variable {disk : Disk}

theorem way_stay (links left : Nat) (place final : Place) (name : Bytes) (here : name = dot ∨ name = [])
    (way : disk.Way ⟨links, place, [name]⟩ ⟨left, final, []⟩) :
    final = place ∧ disk.view place = some Node.emptyDir := by
  rcases ReflTransGen.cases_head way with same | ⟨next, step, rest⟩
  · cases same
  · have directory := (advance_cases next step).1
    rw [advance_stay here directory, Option.some.injEq] at step
    subst step
    exact ⟨(way_unique disk _ _ _ _ _ rest .refl).2, directory⟩

theorem way_stays (links : Nat) (place : Place) (name : Bytes) (rest : List Bytes) (here : name = dot ∨ name = [])
    (directory : disk.view place = some Node.emptyDir) : disk.Way ⟨links, place, name :: rest⟩ ⟨links, place, rest⟩ :=
  .single (advance_stay here directory)

-- A slash at the end only asks for a directory.
theorem leads_names {path : Path} {place : Place} (leads : disk.Leads path place) :
    ∃ links, disk.Way ⟨linkLimit, startOf path.bytes disk.cwd, path.names⟩ ⟨links, place, []⟩ := by
  obtain ⟨_, links, way⟩ := leads
  rw [starting] at way
  by_cases empty : path.names = []
  · rw [steps_nameless path empty] at way
    exact ⟨links, empty ▸ way⟩
  by_cases slashed : path.endsInSlash = true
  · rw [steps_slashed path empty slashed] at way
    obtain ⟨left, between, before, after⟩ := way_split disk ⟨_, _, path.names⟩ [[]] links place way
    obtain ⟨rfl, _⟩ := way_stay left links between place [] (.inr rfl) after
    exact ⟨left, before⟩
  · rw [steps_open path (by simpa using slashed)] at way
    exact ⟨links, way⟩

structure Reaches (disk : Disk) (path : Path) (links : Nat) (place : Place) : Prop where
  filled : path.bytes ≠ []
  way : disk.Way ⟨linkLimit, startOf path.bytes disk.cwd, path.names⟩ ⟨links, place, []⟩

theorem leads_reaches {path : Path} {place : Place} (leads : disk.Leads path place) :
    ∃ links, disk.Reaches path links place := by
  obtain ⟨links, way⟩ := leads_names leads
  exact ⟨links, ((checkPath_ok path).mp leads.1).2.1, way⟩

section

variable {directory : Path} {links : Nat} {place final : Place} {name : Bytes}

theorem reaches_starting (reaches : disk.Reaches directory links place) (filled : name ≠ []) (single : slash ∉ name) :
    disk.Way (disk.starting (directory.child name)) ⟨links, place, [name]⟩ := by
  rw [starting, steps_open _ (child_endsInSlash filled single), names_child filled single,
    startOf_child reaches.filled single]
  exact way_extended disk _ _ [name] reaches.way

theorem leads_child (reaches : disk.Reaches directory links place) (filled : name ≠ []) (single : slash ∉ name) :
    disk.Leads (directory.child name) final ↔ checkPath (directory.child name) = .ok () ∧
      ∃ left, disk.Way ⟨links, place, [name]⟩ ⟨left, final, []⟩ := by
  have start := reaches_starting reaches filled single
  constructor
  · intro holds
    obtain ⟨checked, left, way⟩ := holds
    exact ⟨checked, left, way_through disk _ _ left final way start⟩
  · intro holds
    obtain ⟨checked, left, way⟩ := holds
    exact ⟨checked, left, start.trans way⟩

end

theorem ending_eq_ok (path : Path) (ending : Ending) :
    disk.ending path = .ok ending ↔ checkPath path = .ok () ∧ ∃ parent links,
      disk.Way ⟨linkLimit, startOf path.bytes disk.cwd, path.names.dropLast ++ [dot]⟩ ⟨links, parent, []⟩ ∧
        ending = ⟨parent, path.names.getLast?.filter isName, path.endsInSlash⟩ := by
  have spots := walk_eq_held disk path (path.names.dropLast ++ [dot])
  rw [Disk.ending, ← names]
  cases found : disk.walk .target path (path.names.dropLast ++ [dot]) with
  | error error =>
    simp only [found, reduceCtorEq, false_iff] at spots
    simp only [bind, Except.bind, reduceCtorEq, false_iff]
    intro holds
    obtain ⟨checked, parent, links, way, _⟩ := holds
    exact spots parent ⟨checked, links, way⟩
  | ok spot =>
    cases spot with
    | vacant parent name =>
      simp only [found, Except.ok.injEq, reduceCtorEq, false_iff] at spots
      simp only [bind, Except.bind, reduceCtorEq, false_iff]
      intro holds
      obtain ⟨checked, parent, links, way, _⟩ := holds
      exact spots parent ⟨checked, links, way⟩
    | held final =>
      obtain ⟨checked, links, way⟩ := (spots final).mp found
      simp only [bind, Except.bind, Except.ok.injEq]
      constructor
      · rintro rfl
        exact ⟨checked, final, links, way, rfl⟩
      · intro holds
        obtain ⟨_, parent, left, other, rfl⟩ := holds
        rw [(way_unique disk _ _ _ _ _ way other).2]

theorem ending_parent {path : Path} {ending : Ending} (found : disk.ending path = .ok ending) :
    disk.view ending.parent = some Node.emptyDir := by
  obtain ⟨_, parent, links, way, rfl⟩ := (ending_eq_ok path ending).mp found
  obtain ⟨left, between, _, after⟩ := way_split disk ⟨_, _, path.names.dropLast⟩ [dot] links parent way
  obtain ⟨rfl, directory⟩ := way_stay left links between parent dot (.inl rfl) after
  exact directory

theorem ending_of_way {path : Path} {parent : Place} {name : Bytes} {front : List Bytes} {left : Nat}
    (checked : checkPath path = .ok ()) (whole : path.names = front ++ [name]) (open_end : path.endsInSlash = false)
    (way : disk.Way ⟨linkLimit, startOf path.bytes disk.cwd, front⟩ ⟨left, parent, []⟩)
    (directory : disk.view parent = some Node.emptyDir) (proper : Proper name) :
    disk.ending path = .ok ⟨parent, some name, false⟩ := by
  refine (ending_eq_ok path _).mpr ⟨checked, parent, left, ?_, ?_⟩
  · rw [whole, List.dropLast_concat]
    exact (way_extended disk _ _ [dot] way).trans (way_stays left parent dot [] (.inl rfl) directory)
  · have named : isName name = true := by simp [isName, proper.not_dot, proper.not_dots]
    rw [whole, List.getLast?_concat, Option.filter_some, if_pos named, open_end]

theorem nameless_absolute {path : Path} (filled : path.bytes ≠ []) (empty : path.names = []) (current : Place) :
    startOf path.bytes current = [] := by
  obtain ⟨byte, rest, same⟩ := List.exists_cons_of_ne_nil filled
  by_cases start : byte = slash
  · simp [startOf, same, start]
  · rw [Path.names, same, segments, if_neg start] at empty
    split at empty <;> simp at empty

theorem leads_ahead {path : Path} {place : Place} (leads : disk.Leads path place)
    (leaf : disk.view place ≠ some Node.emptyDir) : path.names ≠ [] ∧ (disk.starting path).ahead ≠ [] := by
  obtain ⟨checked, links, way⟩ := leads
  have named : path.names ≠ [] := by
    intro empty
    rw [starting, steps_nameless path empty] at way
    obtain ⟨_, top⟩ := way_unique disk _ _ _ _ _ way .refl
    rw [top, nameless_absolute ((checkPath_ok path).mp checked).2.1 empty] at leaf
    exact leaf disk.view_nil
  refine ⟨named, ?_⟩
  rw [starting]
  by_cases slashed : path.endsInSlash = true
  · simp [steps_slashed path named slashed]
  · rwa [steps_open path (by simpa using slashed)]

theorem leads_leaf {path : Path} {place : Place} (leads : disk.Leads path place)
    (leaf : disk.view place ≠ some Node.emptyDir) :
    ∃ parent name, disk.ending path = .ok ⟨parent, some name, false⟩ ∧ Proper name ∧
      (place = parent ++ [name] ∨ ∃ target, disk.view (parent ++ [name]) = some (.link target)) := by
  have empty := (leads_ahead leads leaf).1
  obtain ⟨checked, links, way⟩ := leads
  rw [starting] at way
  by_cases slashed : path.endsInSlash = true
  · rw [steps_slashed path empty slashed] at way
    obtain ⟨left, between, _, after⟩ := way_split disk ⟨_, _, path.names⟩ [[]] links place way
    obtain ⟨rfl, directory⟩ := way_stay left links between place [] (.inr rfl) after
    exact absurd directory leaf
  have open_end : path.endsInSlash = false := by simpa using slashed
  obtain ⟨front, name, whole⟩ := List.eq_nil_or_concat path.names |>.resolve_left empty
  rw [List.concat_eq_append] at whole
  rw [steps_open path open_end, whole] at way
  obtain ⟨left, parent, before, after⟩ := way_split disk ⟨_, _, front⟩ [name] links place way
  rcases ReflTransGen.cases_head after with same | ⟨next, step, rest⟩
  · cases same
  obtain ⟨directory, ⟨_, rfl⟩ | ⟨_, rfl⟩ | ⟨proper, _, _, _, rfl⟩ | ⟨proper, target, held, _⟩⟩ := advance_cases next step
  · rw [(way_unique disk _ _ _ _ _ rest .refl).2] at leaf
    exact absurd directory leaf
  · rw [(way_unique disk _ _ _ _ _ rest .refl).2] at leaf
    exact absurd (disk.dir_dropLast parent directory) leaf
  · exact ⟨parent, name, ending_of_way checked whole open_end before directory proper, proper,
      .inl (way_unique disk _ _ _ _ _ rest .refl).2⟩
  · exact ⟨parent, name, ending_of_way checked whole open_end before directory proper, proper, .inr ⟨target, held⟩⟩

end

end Disk

end InkProject
