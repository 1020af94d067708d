import InkProject.Proofs.Compiler.Order
set_option autoImplicit false

namespace InkProject.Compiler

open Disk

structure Progress where
  pending : List Path
  found : List Path

def directoryPath? (directory : Path) (entry : Bytes × Node) : Option Path :=
  (subdirectory? directory entry).map Prod.fst

section

variable (disk : Disk) (order : Enumeration) (name : FileName)

inductive Turn : Progress → Progress → Prop where
  | look {directory : Path} {entries : Entries} {pending found : List Path} (listed : disk.list directory = .ok entries) :
      Turn ⟨directory :: pending, found⟩
        ⟨((order.arrange directory entries.toList).filterMap (directoryPath? directory)).reverse ++ pending,
          found ++ (order.arrange directory entries.toList).filterMap (matches? disk name directory)⟩

inductive Turns : Nat → Progress → Progress → Prop where
  | none (progress : Progress) : Turns 0 progress progress
  | more {count : Nat} {first next last : Progress} (turn : Turn disk order name first next)
      (rest : Turns count next last) : Turns (count + 1) first last

end

section

variable {disk : Disk} {order : Enumeration} {name : FileName} {count total : Nat} {first next last : Progress}

theorem turn_unique {other : Progress} (one : Turn disk order name first next) (two : Turn disk order name first other) :
    next = other := by
  obtain ⟨listed⟩ := one
  obtain ⟨also⟩ := two
  rw [listed] at also
  cases also
  rfl

theorem turns_onward {found : List Path} (whole : Turns disk order name total first ⟨[], found⟩)
    (part : Turns disk order name count first next) :
    ∃ left, count + left = total ∧ Turns disk order name left next ⟨[], found⟩ := by
  induction part generalizing total with
  | none progress => exact ⟨total, Nat.zero_add total, whole⟩
  | more turn rest ih =>
    cases whole with
    | none => cases turn
    | more other onward =>
      rw [turn_unique other turn] at onward
      obtain ⟨left, sum, ends⟩ := ih onward
      exact ⟨left, by omega, ends⟩

variable {pending : List (Path × Entries)} {found : List Path} {place : Place} {entries : Entries}

theorem list_pathOf (formed : disk.WellFormed) (held : disk.top.at? place = some (.dir entries))
    (checked : checkPath (pathOf place) = .ok ()) : disk.list (pathOf place) = .ok entries := by
  have short := ((checkPath_ok _).mp checked).2.2
  exact (list_eq_ok disk _ entries).mpr ⟨place, leads_dir formed ((view_dir disk place).mpr ⟨entries, held⟩) short, held⟩

theorem subdirectory_paths (directory : Path) (listed : List (Bytes × Node)) :
    (listed.filterMap (subdirectory? directory)).map Prod.fst = listed.filterMap (directoryPath? directory) := by
  rw [List.map_filterMap]
  rfl

-- One turn for each directory in what is pending, by induction on a bound that is large enough.
theorem visit_turns (formed : disk.WellFormed) (fuel : Nat) (stands : ∀ item ∈ pending, Stands disk item)
    (enough : turns pending < fuel) (readable : ∀ other, Within disk pending other → checkPath (pathOf other) = .ok ()) :
    Turns disk order name (turns pending) ⟨pending.map Prod.fst, found⟩ ⟨[], (visit disk order name fuel pending found).found⟩ := by
  induction fuel generalizing pending found with
  | zero => exact absurd enough (Nat.not_lt_zero _)
  | succ fuel ih =>
    match pending with
    | [] => exact .none _
    | (directory, entries) :: pending =>
      obtain ⟨place, rfl, held⟩ := stands _ List.mem_cons_self
      have turn (other : Place) : Within disk ((pathOf place, entries) :: pending) other ↔ _ :=
        within_turn order formed held other
      have checked := readable place ((turn place).mpr (.inl rfl))
      have later := stands_turn order formed held fun item member => stands item (List.mem_cons_of_mem _ member)
      have count : turns (((order.arrange (pathOf place) entries.toList).filterMap
          (subdirectory? (pathOf place))).reverse ++ pending) = entries.directories + turns pending := by
        rw [turns_append, turns_subdirectories]
      have bound : turns ((pathOf place, entries) :: pending) = entries.directories + turns pending + 1 := by
        simp only [turns]
        omega
      have less : turns (((order.arrange (pathOf place) entries.toList).filterMap
          (subdirectory? (pathOf place))).reverse ++ pending) < fuel := by omega
      have onward := @ih _ (found ++ (order.arrange (pathOf place) entries.toList).filterMap
        (matches? disk name (pathOf place))) later less fun other within => readable other ((turn other).mpr (.inr within))
      rw [count, List.map_append, List.map_reverse, subdirectory_paths] at onward
      rw [visit, checked, bound]
      exact .more (.look (list_pathOf formed held checked)) onward

end

structure Sought (disk : Disk) (root : Place) (name : FileName) (steps : Place) : Prop where
  directories : ∀ above, above <+: steps → ∃ inner, disk.top.at? (root ++ above) = some (.dir inner)
  entry : ∃ node, disk.top.at? (root ++ steps ++ [name.bytes]) = some node ∧ node.isDir = false
  file : ∃ final content executable, disk.Leads (pathOf (root ++ steps ++ [name.bytes])) final ∧
    disk.top.at? final = some (.file content executable)

section

variable {disk : Disk} {order : Enumeration} {name : FileName} {root steps : Place} {entries : Entries}

theorem sought_iff : Sought disk root name steps ↔ Below disk root (root ++ steps) ∧ Candidate disk name (root ++ steps) := by
  refine ⟨fun sought => ?_, fun holds => ?_⟩
  · obtain ⟨inner, held⟩ := sought.directories steps List.prefix_rfl
    obtain ⟨node, there, leaf⟩ := sought.entry
    obtain ⟨final, content, executable, leads, holds⟩ := sought.file
    refine ⟨⟨List.prefix_append root steps, (view_dir disk _).mpr ⟨inner, held⟩⟩, ⟨node, ?_, leaf⟩, ?_⟩
    · exact (view_leaf disk _ node leaf).mpr there
    · exact (isFile_iff disk _).mpr ⟨final, content, executable, leads, (view_leaf disk final _ rfl).mpr holds⟩
  · obtain ⟨below, candidate⟩ := holds
    obtain ⟨node, seen, leaf⟩ := candidate.entry
    obtain ⟨final, content, executable, leads, seenFile⟩ := (isFile_iff disk _).mp candidate.file
    refine ⟨fun above inside => ?_, ⟨node, (view_leaf disk _ node leaf).mp seen, leaf⟩, ?_⟩
    · exact (view_dir disk _).mp (dir_above _ _ ((List.prefix_append_right_inj root).mpr inside) below.directory)
    · exact ⟨final, content, executable, leads, (view_leaf disk final _ rfl).mp seenFile⟩

-- No loop of turns is endless, and the one that ends has found exactly what is looked for.
structure Explored (disk : Disk) (order : Enumeration) (name : FileName) (root : Place) (entries : Entries) : Prop where
  complete : (search disk order name (pathOf root) entries).failure = none
  ends : Turns disk order name (entries.directories + 1) ⟨[pathOf root], []⟩
    ⟨[], (search disk order name (pathOf root) entries).found⟩
  onward : ∀ count progress, Turns disk order name count ⟨[pathOf root], []⟩ progress →
    ∃ left, count + left = entries.directories + 1 ∧
      Turns disk order name left progress ⟨[], (search disk order name (pathOf root) entries).found⟩
  once : (search disk order name (pathOf root) entries).found.Nodup
  exact : ∀ path, path ∈ (search disk order name (pathOf root) entries).found ↔
    ∃ steps, Sought disk root name steps ∧ path = pathOf (root ++ steps ++ [name.bytes])

theorem search_explores (order : Enumeration) (name : FileName) (formed : disk.WellFormed)
    (held : disk.top.at? root = some (.dir entries))
    (readable : ∀ place, Below disk root place → checkPath (pathOf place) = .ok ()) :
    Explored disk order name root entries := by
  have complete : (search disk order name (pathOf root) entries).failure = none := search_ends order formed held readable
  have ends : Turns disk order name (entries.directories + 1) ⟨[pathOf root], []⟩
      ⟨[], (search disk order name (pathOf root) entries).found⟩ := by
    have enough : turns [(pathOf root, entries)] < entries.directories + 2 := by simp [turns]
    exact visit_turns formed (entries.directories + 2) (stands_root held) enough fun other within =>
      readable other ((within_root held formed other).mp within)
  refine ⟨complete, ends, fun count progress part => turns_onward ends part, search_nodup order formed held, fun path => ?_⟩
  rw [(search_complete formed held complete).2 path]
  refine ⟨fun holds => ?_, fun holds => ?_⟩
  · obtain ⟨place, below, candidate, same⟩ := holds
    obtain ⟨steps, rfl⟩ := below.inside
    exact ⟨steps, sought_iff.mpr ⟨below, candidate⟩, same⟩
  · obtain ⟨steps, sought, same⟩ := holds
    obtain ⟨below, candidate⟩ := sought_iff.mp sought
    exact ⟨root ++ steps, below, candidate, same⟩

variable {settings : Settings} {text : String} {path : Path}

theorem ranked_eq_nil (suffix : String) (found : List Path) : ranked suffix found = [] ↔ found = [] := by
  simp only [List.eq_nil_iff_forall_not_mem, mem_ranked]

theorem choose_notFound (checked : settings.check = .ok ()) (leads : disk.Leads settings.root root)
    (held : disk.top.at? root = some (.dir entries))
    (complete : (search disk order settings.executable (pathOf root) entries).failure = none) :
    (choose order settings disk).2 = .error (.notFound text path) ↔
      (search disk order settings.executable (pathOf root) entries).found = [] ∧
        text = settings.executable.text ∧ path = pathOf root := by
  have rooted := (searchRoot_eq_ok (pathOf root) entries).mpr ⟨checked, root, leads, held, rfl⟩
  rw [← ranked_eq_nil settings.hiddenSuffix, choose, rooted]
  simp only [complete]
  cases ranked settings.hiddenSuffix (search disk order settings.executable (pathOf root) entries).found with
  | nil => simp [eq_comm]
  | cons chosen ignored => cases ignored <;> simp

theorem locate_notFound : (locate order settings disk).result = .error (.notFound text path) ↔
    (choose order settings disk).2 = .error (.notFound text path) := by
  rcases chosen : choose order settings disk with ⟨events, unmade | choice⟩
  · rw [locate, chosen]
    simp
  · refine ⟨fun failed => ?_, fun failed => by cases failed⟩
    cases hid : hide settings disk (directoryOf choice.chosen) with
    | error refusal =>
      obtain ⟨target, reason, rfl⟩ := hide_error hid
      rw [locate, chosen] at failed
      simp only [hid] at failed
      cases failed
    | ok step =>
      obtain ⟨between, target, hidden⟩ := step
      rw [locate_settling chosen hid] at failed
      cases settling : settle settings between target with
      | ok last =>
        rw [settling] at failed
        cases failed
      | error refusal =>
        obtain ⟨_, reason, rfl⟩ := settle_error settling
        rw [settling] at failed
        cases failed

end

structure MissingReported (disk : Disk) (order : Enumeration) (settings : Settings) (root : Place) : Prop where
  missing : (∃ text path, (locate order settings disk).result = .error (.notFound text path)) ↔
    ¬ ∃ steps, Sought disk root settings.executable steps
  named : ∀ text path, (locate order settings disk).result = .error (.notFound text path) →
    text = settings.executable.text ∧ path = pathOf root

theorem search_exact {disk : Disk} {root : Place} {entries : Entries} (order : Enumeration) (name : FileName)
    (formed : disk.WellFormed) (held : disk.top.at? root = some (.dir entries))
    (readable : ∀ place, Below disk root place → ∃ inner, disk.list (pathOf place) = .ok inner) :
    Explored disk order name root entries ∧ ∀ settings, settings.check = .ok () → disk.Leads settings.root root →
      settings.executable = name → MissingReported disk order settings root := by
  have short : ∀ place, Below disk root place → checkPath (pathOf place) = .ok () := by
    intro place below
    obtain ⟨inner, listed⟩ := readable place below
    obtain ⟨_, leads, _⟩ := (list_eq_ok disk _ inner).mp listed
    exact leads.1
  have explored := search_explores order name formed held short
  refine ⟨explored, fun settings checked leads same => ?_⟩
  subst same
  have told (text : String) (path : Path) : (locate order settings disk).result = .error (.notFound text path) ↔ _ :=
    locate_notFound.trans (choose_notFound checked leads held explored.complete)
  refine ⟨?missing, ?named⟩
  case missing =>
    have empty : (search disk order settings.executable (pathOf root) entries).found = [] ↔
        ¬ ∃ steps, Sought disk root settings.executable steps := by
      rw [List.eq_nil_iff_forall_not_mem]
      refine ⟨fun nothing some_steps => ?_, fun nothing path member => ?_⟩
      · obtain ⟨steps, sought⟩ := some_steps
        exact nothing _ ((explored.exact _).mpr ⟨steps, sought, rfl⟩)
      · obtain ⟨steps, sought, _⟩ := (explored.exact path).mp member
        exact nothing ⟨steps, sought⟩
    simp only [told, ← empty]
    refine ⟨fun holds => ?_, fun nothing => ⟨_, _, nothing, rfl, rfl⟩⟩
    obtain ⟨_, _, nothing, _⟩ := holds
    exact nothing
  case named =>
    intro text path failed
    exact ((told text path).mp failed).2

def loopedDisk : Disk :=
  let shown : Entries := .cons (Utf8.ofString "ink") (.link (Utf8.ofString "../B/ink"))
    (.cons (Utf8.ofString "up") (.link (Utf8.ofString "..")) .nil)
  let real : Entries := .cons (Utf8.ofString "ink") (.file [2] true) .nil
  let named : Entries := .cons (Utf8.ofString "ink") (.link (Utf8.ofString "gone")) .nil
  ⟨.cons (Utf8.ofString "A") (.dir shown) (.cons (Utf8.ofString "B") (.dir real)
    (.cons (Utf8.ofString "ink") (.dir named) .nil)), []⟩

theorem looped_disk_explored :
    let found := (search loopedDisk .sorted pendingSettings.executable (pathOf []) loopedDisk.top).found
    ((loopedDisk.WellFormed ∧ loopedDisk.top.at? [] = some (.dir loopedDisk.top)) ∧
      (∀ place, Below loopedDisk [] place → ∃ inner, loopedDisk.list (pathOf place) = .ok inner) ∧
      pendingSettings.check = .ok () ∧ loopedDisk.Leads pendingSettings.root []) ∧
      Explored loopedDisk .sorted pendingSettings.executable [] loopedDisk.top ∧
      MissingReported loopedDisk .sorted pendingSettings [] ∧
      found = [Path.ofString "/B/ink", Path.ofString "/A/ink"] := by
  intro found
  have formed : loopedDisk.WellFormed := wellFormed_of_names (by decide) (by decide)
  have leads : loopedDisk.Leads pendingSettings.root [] := ((locate_eq_ok _ _ _ _).mp rfl).1
  have complete : (search loopedDisk .sorted pendingSettings.executable (pathOf []) loopedDisk.top).failure = none := by
    decide
  have readable : ∀ place, Below loopedDisk [] place → ∃ inner, loopedDisk.list (pathOf place) = .ok inner := by
    intro place below
    obtain ⟨inner, held⟩ := (view_dir loopedDisk place).mp below.directory
    exact ⟨inner, list_pathOf formed held ((search_complete formed rfl complete).1 place below)⟩
  obtain ⟨explored, reported⟩ := search_exact .sorted pendingSettings.executable formed rfl readable
  exact ⟨⟨⟨formed, rfl⟩, readable, by decide, leads⟩, explored, reported pendingSettings (by decide) leads rfl, by decide⟩

end InkProject.Compiler
