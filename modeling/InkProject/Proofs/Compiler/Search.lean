import InkProject.Compiler.Candidates
import InkProject.Proofs.Disk.Plain
/- The search below some directories: what it finds is what stands there under the name
   that is looked for, whatever the order in which directories give their entries. -/
set_option autoImplicit false

namespace InkProject.Compiler

open Disk

structure Candidate (disk : Disk) (name : FileName) (directory : Place) : Prop where
  entry : ∃ node, disk.view (directory ++ [name.bytes]) = some node ∧ node.isDir = false
  file : disk.isFile (pathOf (directory ++ [name.bytes])) = true

def Stands (disk : Disk) (item : Path × Entries) : Prop :=
  ∃ place, item.1 = pathOf place ∧ disk.top.at? place = some (.dir item.2)

def Within (disk : Disk) (pending : List (Path × Entries)) (place : Place) : Prop :=
  ∃ item ∈ pending, ∃ top, item.1 = pathOf top ∧ disk.top.at? top = some (.dir item.2) ∧ top <+: place ∧
    disk.view place = some Node.emptyDir

def turns : List (Path × Entries) → Nat
  | [] => 0
  | item :: rest => item.2.directories + 1 + turns rest

section

variable {disk : Disk} {order : Enumeration} {place : Place} {entries : Entries}

theorem mem_arrange (held : disk.top.at? place = some (.dir entries)) (ordered : disk.top.Ordered)
    (directory : Path) (name : Bytes) (node : Node) :
    (name, node) ∈ order.arrange directory entries.toList ↔ disk.top.at? (place ++ [name]) = some node := by
  have sorted := Entries.ordered_at? disk.top place _ ordered held
  rw [Node.Ordered] at sorted
  rw [(order.perm directory entries.toList).mem_iff, Entries.mem_toList entries name node sorted,
    Entries.at?_child disk.top entries place name held]

theorem child_entry (formed : disk.WellFormed) {name : Bytes} (held : disk.view (place ++ [name]) ≠ none) :
    (pathOf place).child name = pathOf (place ++ [name]) :=
  child_of_dir formed (disk.view_parent place name held) (formed.names _ held name (by simp)).single

theorem at_view {node : Node} (held : disk.top.at? place = some node) : disk.view place ≠ none := by
  rw [Disk.view, Entries.view_isSome disk.top place node held]
  simp

theorem mem_subdirectories (order : Enumeration) (formed : disk.WellFormed) (held : disk.top.at? place = some (.dir entries))
    (item : Path × Entries) :
    item ∈ (order.arrange (pathOf place) entries.toList).filterMap (subdirectory? (pathOf place)) ↔
      ∃ name, item.1 = pathOf (place ++ [name]) ∧ disk.top.at? (place ++ [name]) = some (.dir item.2) := by
  rw [List.mem_filterMap]
  constructor
  · intro holds
    obtain ⟨⟨name, node⟩, member, made⟩ := holds
    have there := (mem_arrange held formed.ordered (pathOf place) name node).mp member
    cases node with
    | file | link | device => cases made
    | dir inner =>
      cases made
      exact ⟨name, child_entry formed (at_view there), there⟩
  · intro holds
    obtain ⟨name, path, there⟩ := holds
    refine ⟨(name, .dir item.2), (mem_arrange held formed.ordered _ name _).mpr there, ?_⟩
    rw [subdirectory?, child_entry formed (at_view there), ← path]

theorem matches?_leaf (name : FileName) (directory : Path) (entry : Bytes) (node : Node) (leaf : node.isDir = false) :
    matches? disk name directory (entry, node) =
      if entry = name.bytes ∧ disk.isFile (directory.child entry) then some (directory.child entry) else none := by
  cases node with
  | dir inner => cases leaf
  | file | link | device => rfl

theorem mem_matches (formed : disk.WellFormed) (held : disk.top.at? place = some (.dir entries)) (name : FileName)
    (path : Path) :
    path ∈ (order.arrange (pathOf place) entries.toList).filterMap (matches? disk name (pathOf place)) ↔
      Candidate disk name place ∧ path = pathOf (place ++ [name.bytes]) := by
  rw [List.mem_filterMap]
  constructor
  · intro holds
    obtain ⟨⟨entry, node⟩, member, made⟩ := holds
    have there := (mem_arrange held formed.ordered (pathOf place) entry node).mp member
    rcases node.dir_or_leaf with ⟨inner, rfl⟩ | leaf
    · cases made
    rw [matches?_leaf name _ entry node leaf, Option.ite_none_right_eq_some] at made
    obtain ⟨⟨rfl, file⟩, same⟩ := made
    cases same
    rw [child_entry formed (at_view there)] at file ⊢
    exact ⟨⟨⟨node, (view_leaf disk _ node leaf).mpr there, leaf⟩, file⟩, rfl⟩
  · intro holds
    obtain ⟨⟨⟨node, seen, leaf⟩, file⟩, rfl⟩ := holds
    have there := (view_leaf disk _ node leaf).mp seen
    refine ⟨(name.bytes, node), (mem_arrange held formed.ordered _ _ node).mpr there, ?_⟩
    rw [← child_entry formed (at_view there)] at file ⊢
    rw [matches?_leaf name _ _ node leaf, if_pos ⟨rfl, file⟩]

theorem turns_append (a b : List (Path × Entries)) : turns (a ++ b) = turns a + turns b := by
  induction a with
  | nil => simp [turns]
  | cons item a ih =>
    rw [List.cons_append, turns, turns, ih]
    omega

theorem turns_perm {a b : List (Path × Entries)} (perm : a.Perm b) : turns a = turns b := by
  induction perm with
  | nil => rfl
  | cons item _ ih => rw [turns, turns, ih]
  | swap item other rest =>
    simp only [turns]
    omega
  | trans _ _ first second => exact first.trans second

theorem turns_toList (directory : Path) (entries : Entries) :
    turns (entries.toList.filterMap (subdirectory? directory)) = entries.directories := by
  match entries with
  | .nil => rfl
  | .cons name node rest =>
    have later := turns_toList directory rest
    rw [Entries.toList, Entries.directories, ← later]
    cases node with
    | dir inner =>
      have first : subdirectory? directory (name, .dir inner) = some (directory.child name, inner) := rfl
      rw [List.filterMap_cons_some first, turns, Node.directories]
    | file | link | device => rw [List.filterMap_cons_none rfl, Node.directories, Nat.zero_add]

theorem turns_subdirectories (directory : Path) (entries : Entries) :
    turns ((order.arrange directory entries.toList).filterMap (subdirectory? directory)).reverse =
      entries.directories := by
  have same := ((order.perm directory entries.toList).filterMap (subdirectory? directory))
  rw [← turns_toList directory entries]
  exact turns_perm ((List.reverse_perm _).trans same)

theorem place_unique {a b : Place} (formed : disk.WellFormed) (heldA : disk.view a ≠ none) (heldB : disk.view b ≠ none)
    (same : pathOf a = pathOf b) : a = b :=
  pathOf_key_injective a b (formed.names _ heldA) (formed.names _ heldB) (by rw [same])

variable {pending : List (Path × Entries)}

theorem within_turn (order : Enumeration) (formed : disk.WellFormed) (held : disk.top.at? place = some (.dir entries)) (other : Place) :
    Within disk ((pathOf place, entries) :: pending) other ↔ other = place ∨ Within disk
      (((order.arrange (pathOf place) entries.toList).filterMap (subdirectory? (pathOf place))).reverse ++ pending) other := by
  constructor
  · intro holds
    obtain ⟨item, member, top, path, there, inside, directory⟩ := holds
    rcases List.mem_cons.mp member with rfl | later
    · obtain rfl := place_unique formed (at_view there) (at_view held) path.symm
      obtain ⟨more, rfl⟩ := inside
      cases more with
      | nil => exact .inl (List.append_nil _)
      | cons name rest =>
        rw [show top ++ name :: rest = top ++ [name] ++ rest by simp] at directory ⊢
        obtain ⟨inner, below⟩ := (view_dir disk _).mp (dir_above (top ++ [name]) _ ⟨rest, rfl⟩ directory)
        have member := (mem_subdirectories order formed there (pathOf (top ++ [name]), inner)).mpr ⟨name, rfl, below⟩
        exact .inr ⟨_, List.mem_append_left _ (List.mem_reverse.mpr member), top ++ [name], rfl, below, ⟨rest, rfl⟩, directory⟩
    · exact .inr ⟨item, List.mem_append_right _ later, top, path, there, inside, directory⟩
  · intro holds
    rcases holds with rfl | ⟨item, member, top, path, there, inside, directory⟩
    · exact ⟨_, List.mem_cons_self, other, rfl, held, List.prefix_rfl, (view_dir disk other).mpr ⟨_, held⟩⟩
    · rcases List.mem_append.mp member with new | old
      · obtain ⟨name, same, below⟩ := (mem_subdirectories order formed held item).mp (List.mem_reverse.mp new)
        obtain rfl := place_unique formed (at_view there) (at_view below) (path.symm.trans same)
        exact ⟨_, List.mem_cons_self, place, rfl, held, (List.prefix_append place [name]).trans inside, directory⟩
      · exact ⟨item, List.mem_cons_of_mem _ old, top, path, there, inside, directory⟩

theorem stands_turn (order : Enumeration) (formed : disk.WellFormed) (held : disk.top.at? place = some (.dir entries))
    (stands : ∀ item ∈ pending, Stands disk item) : ∀ item ∈
      ((order.arrange (pathOf place) entries.toList).filterMap (subdirectory? (pathOf place))).reverse ++ pending,
      Stands disk item := by
  intro item member
  rcases List.mem_append.mp member with new | old
  · obtain ⟨name, same, below⟩ := (mem_subdirectories order formed held item).mp (List.mem_reverse.mp new)
    exact ⟨_, same, below⟩
  · exact stands item old

variable {name : FileName} {found : List Path}

theorem visit_complete (formed : disk.WellFormed) (fuel : Nat) (stands : ∀ item ∈ pending, Stands disk item)
    (enough : turns pending < fuel) (complete : (visit disk order name fuel pending found).failure = none) :
    (∀ other, Within disk pending other → checkPath (pathOf other) = .ok ()) ∧
      ∀ path, path ∈ (visit disk order name fuel pending found).found ↔ path ∈ found ∨ ∃ other,
        Within disk pending other ∧ Candidate disk name other ∧ path = pathOf (other ++ [name.bytes]) := by
  induction fuel generalizing pending found with
  | zero => exact absurd enough (Nat.not_lt_zero _)
  | succ fuel ih =>
    match pending with
    | [] => simp [visit, Within]
    | (directory, entries) :: pending =>
      obtain ⟨place, rfl, held⟩ := stands _ List.mem_cons_self
      rw [visit] at complete ⊢
      cases checked : checkPath (pathOf place) with
      | error error => simp [checked] at complete
      | ok checks =>
        simp only [checked] at complete ⊢
        have less : turns (((order.arrange (pathOf place) entries.toList).filterMap
            (subdirectory? (pathOf place))).reverse ++ pending) < fuel := by
          rw [turns_append, turns_subdirectories]
          rw [turns] at enough
          dsimp only at enough
          omega
        have later := stands_turn order formed held fun item member => stands item (List.mem_cons_of_mem _ member)
        obtain ⟨short, members⟩ := ih later less complete
        refine ⟨fun other within => ?_, fun path => ?_⟩
        · rcases (within_turn order formed held other).mp within with rfl | below
          · exact checked
          · exact short other below
        · rw [members path, List.mem_append, mem_matches formed held name path]
          simp only [within_turn order formed held]
          constructor
          · intro holds
            rcases holds with (old | ⟨here, same⟩) | ⟨other, below, rest⟩
            · exact .inl old
            · exact .inr ⟨place, .inl rfl, here, same⟩
            · exact .inr ⟨other, .inr below, rest⟩
          · intro holds
            rcases holds with old | ⟨other, rfl | below, rest⟩
            · exact .inl (.inl old)
            · exact .inl (.inr rest)
            · exact .inr ⟨other, below, rest⟩

theorem visit_failed (formed : disk.WellFormed) (fuel : Nat) (stands : ∀ item ∈ pending, Stands disk item)
    (directory : Path) (error : IoError)
    (failed : (visit disk order name fuel pending found).failure = some (directory, error)) :
    ∃ other, Within disk pending other ∧ directory = pathOf other ∧ checkPath directory = .error error := by
  induction fuel generalizing pending found with
  | zero => cases failed
  | succ fuel ih =>
    match pending with
    | [] => cases failed
    | (path, entries) :: pending =>
      obtain ⟨place, rfl, held⟩ := stands _ List.mem_cons_self
      rw [visit] at failed
      cases checked : checkPath (pathOf place) with
      | error error =>
        simp only [checked, Option.some.injEq, Prod.mk.injEq] at failed
        obtain ⟨rfl, rfl⟩ := failed
        exact ⟨place, (within_turn order formed held place).mpr (.inl rfl), rfl, checked⟩
      | ok checks =>
        simp only [checked] at failed
        have later := stands_turn order formed held fun item member => stands item (List.mem_cons_of_mem _ member)
        obtain ⟨other, below, rest⟩ := ih later failed
        exact ⟨other, (within_turn order formed held other).mpr (.inr below), rest⟩

end

section

variable {disk : Disk} {order : Enumeration} {place : Place} {entries : Entries} {pending : List (Path × Entries)}
  {name : FileName} {found : List Path}

def Under (disk : Disk) (item : Path × Entries) (place : Place) : Prop :=
  ∃ top, item.1 = pathOf top ∧ disk.top.at? top = some (.dir item.2) ∧ top <+: place ∧ disk.view place = some Node.emptyDir

def Apart (disk : Disk) (a b : Path × Entries) : Prop := ∀ place, Under disk a place → ¬ Under disk b place

theorem arrange_names (order : Enumeration) (held : disk.top.at? place = some (.dir entries)) (ordered : disk.top.Ordered) (directory : Path) :
    (order.arrange directory entries.toList).Pairwise fun a b => a.1 ≠ b.1 := by
  have sorted := Entries.ordered_at? disk.top place _ ordered held
  rw [Node.Ordered] at sorted
  exact ((order.perm directory entries.toList).pairwise_iff fun different => Ne.symm different).mpr
    (Entries.toList_names entries sorted)

theorem subdirectories_apart (order : Enumeration) (formed : disk.WellFormed)
    (held : disk.top.at? place = some (.dir entries)) :
    ((order.arrange (pathOf place) entries.toList).filterMap (subdirectory? (pathOf place))).Pairwise (Apart disk) := by
  have names := List.Pairwise.and_mem.mp (arrange_names order held formed.ordered (pathOf place))
  refine names.filterMap _ fun a b both x first y second other inX inY => ?_
  obtain ⟨memberA, memberB, different⟩ := both
  obtain ⟨nameA, nodeA⟩ := a
  obtain ⟨nameB, nodeB⟩ := b
  have thereA := (mem_arrange held formed.ordered _ _ _).mp memberA
  have thereB := (mem_arrange held formed.ordered _ _ _).mp memberB
  cases nodeA with
  | file | link | device => cases first
  | dir innerA =>
    cases nodeB with
    | file | link | device => cases second
    | dir innerB =>
      cases first
      cases second
      obtain ⟨topA, pathA, heldA, insideA, _⟩ := inX
      obtain ⟨topB, pathB, heldB, insideB, _⟩ := inY
      rw [child_entry formed (at_view thereA)] at pathA
      rw [child_entry formed (at_view thereB)] at pathB
      obtain rfl := place_unique formed (at_view thereA) (at_view heldA) pathA
      obtain rfl := place_unique formed (at_view thereB) (at_view heldB) pathB
      have same := List.prefix_of_prefix_length_le insideA insideB (by simp)
      exact different (by simpa using List.IsPrefix.eq_of_length same (by simp))

theorem matches?_name {directory : Path} {entry : Bytes × Node} {path : Path}
    (found : matches? disk name directory entry = some path) : entry.1 = name.bytes := by
  obtain ⟨entry, node⟩ := entry
  rcases node.dir_or_leaf with ⟨inner, rfl⟩ | leaf
  · cases found
  · rw [matches?_leaf name _ entry node leaf, Option.ite_none_right_eq_some] at found
    exact found.1.1

theorem matches_nodup (order : Enumeration) (formed : disk.WellFormed) (held : disk.top.at? place = some (.dir entries))
    (name : FileName) :
    ((order.arrange (pathOf place) entries.toList).filterMap (matches? disk name (pathOf place))).Nodup := by
  have names := arrange_names order held formed.ordered (pathOf place)
  refine names.filterMap _ fun a b different x first y second same => ?_
  exact different ((matches?_name first).trans (matches?_name second).symm)

-- What is looked at next stands neither in what was looked at nor in anything else that is pending.
theorem apart_turn (order : Enumeration) (formed : disk.WellFormed) (held : disk.top.at? place = some (.dir entries))
    (apart : ((pathOf place, entries) :: pending).Pairwise (Apart disk)) :
    (((order.arrange (pathOf place) entries.toList).filterMap (subdirectory? (pathOf place))).reverse ++ pending).Pairwise
      (Apart disk) ∧ ¬ Within disk
        (((order.arrange (pathOf place) entries.toList).filterMap (subdirectory? (pathOf place))).reverse ++ pending) place := by
  obtain ⟨first, others⟩ := List.pairwise_cons.mp apart
  have here : Under disk (pathOf place, entries) place :=
    ⟨place, rfl, held, List.prefix_rfl, (view_dir disk place).mpr ⟨entries, held⟩⟩
  constructor
  · refine List.pairwise_append.mpr ⟨?_, others, ?_⟩
    · rw [List.pairwise_reverse]
      exact (subdirectories_apart order formed held).imp fun apart other inB inA => apart other inA inB
    · intro sub member item later other inSub
      obtain ⟨inner, path, below⟩ := (mem_subdirectories order formed held sub).mp (List.mem_reverse.mp member)
      obtain ⟨top, same, there, inside, directory⟩ := inSub
      obtain rfl := place_unique formed (at_view there) (at_view below) (same.symm.trans path)
      exact first item later other ⟨place, rfl, held, (List.prefix_append place [inner]).trans inside, directory⟩
  · intro within
    obtain ⟨item, member, under⟩ := within
    rcases List.mem_append.mp member with new | old
    · obtain ⟨inner, path, below⟩ := (mem_subdirectories order formed held item).mp (List.mem_reverse.mp new)
      obtain ⟨top, same, there, inside, _⟩ := under
      obtain rfl := place_unique formed (at_view there) (at_view below) (same.symm.trans path)
      exact absurd inside.length_le (by simp)
    · exact first item old place here under

theorem visit_nodup (formed : disk.WellFormed) (fuel : Nat) (stands : ∀ item ∈ pending, Stands disk item)
    (apart : pending.Pairwise (Apart disk)) (distinct : found.Nodup)
    (fresh : ∀ path ∈ found, ∀ other, Within disk pending other → path ≠ pathOf (other ++ [name.bytes])) :
    (visit disk order name fuel pending found).found.Nodup := by
  induction fuel generalizing pending found with
  | zero => exact distinct
  | succ fuel ih =>
    match pending with
    | [] => exact distinct
    | (directory, entries) :: pending =>
      obtain ⟨place, rfl, held⟩ := stands _ List.mem_cons_self
      rw [visit]
      cases checked : checkPath (pathOf place) with
      | error error => exact distinct
      | ok checks =>
        dsimp only
        obtain ⟨parted, left⟩ := apart_turn order formed held apart
        have turn (other : Place) : Within disk ((pathOf place, entries) :: pending) other ↔ _ :=
          within_turn order formed held other
        have matched (path : Path) :
            path ∈ (order.arrange (pathOf place) entries.toList).filterMap (matches? disk name (pathOf place)) ↔ _ :=
          mem_matches formed held name path
        refine ih (stands_turn order formed held fun item member => stands item (List.mem_cons_of_mem _ member)) parted ?_ ?_
        · refine List.nodup_append.mpr ⟨distinct, matches_nodup order formed held name, fun old inside new member => ?_⟩
          obtain ⟨_, rfl⟩ := (matched new).mp member
          exact fresh old inside place ((turn place).mpr (.inl rfl))
        · intro path member other within
          rcases List.mem_append.mp member with old | new
          · exact fresh path old other ((turn other).mpr (.inr within))
          · obtain ⟨⟨⟨node, seen, _⟩, _⟩, rfl⟩ := (matched path).mp new
            have named := formed.names _ (by rw [seen]; exact Option.some_ne_none node)
            have elsewhere : other ≠ place := by
              rintro rfl
              exact left within
            obtain ⟨_, _, _, _, _, _, directory⟩ := within
            have above := formed.names other (by simp [directory])
            have beside : ∀ part ∈ other ++ [name.bytes], EntryName part := by
              intro part inside
              rcases List.mem_append.mp inside with before | last
              · exact above part before
              · exact named part (List.mem_append_right _ last)
            intro same
            have equal := pathOf_key_injective _ _ named beside (by rw [same])
            exact elsewhere (List.append_cancel_right equal).symm

end

section

variable {disk : Disk} {order : Enumeration} {name : FileName} {root : Place} {entries : Entries}

structure Below (disk : Disk) (root place : Place) : Prop where
  inside : root <+: place
  directory : disk.view place = some Node.emptyDir

theorem within_root (held : disk.top.at? root = some (.dir entries)) (formed : disk.WellFormed) (place : Place) :
    Within disk [(pathOf root, entries)] place ↔ Below disk root place := by
  constructor
  · intro holds
    obtain ⟨item, member, top, path, there, inside, directory⟩ := holds
    rw [List.mem_singleton.mp member] at path there
    obtain rfl := place_unique formed (at_view there) (at_view held) path.symm
    exact ⟨inside, directory⟩
  · intro holds
    obtain ⟨inside, directory⟩ := holds
    exact ⟨_, List.mem_singleton.mpr rfl, root, rfl, held, inside, directory⟩

theorem stands_root (held : disk.top.at? root = some (.dir entries)) :
    ∀ item ∈ [(pathOf root, entries)], Stands disk item := by
  intro item member
  rw [List.mem_singleton.mp member]
  exact ⟨root, rfl, held⟩

theorem search_complete (formed : disk.WellFormed) (held : disk.top.at? root = some (.dir entries))
    (complete : (search disk order name (pathOf root) entries).failure = none) :
    (∀ place, Below disk root place → checkPath (pathOf place) = .ok ()) ∧
      ∀ path, path ∈ (search disk order name (pathOf root) entries).found ↔ ∃ place,
        Below disk root place ∧ Candidate disk name place ∧ path = pathOf (place ++ [name.bytes]) := by
  have enough : turns [(pathOf root, entries)] < entries.directories + 2 := by simp [turns]
  have result := visit_complete formed (entries.directories + 2) (stands_root held) enough complete
  simp only [within_root held formed, List.not_mem_nil, false_or] at result
  exact result

theorem search_nodup (order : Enumeration) (formed : disk.WellFormed) (held : disk.top.at? root = some (.dir entries)) :
    (search disk order name (pathOf root) entries).found.Nodup :=
  visit_nodup formed (entries.directories + 2) (stands_root held) (List.pairwise_singleton _ _) List.nodup_nil
    fun _ member => nomatch member

theorem search_failed (formed : disk.WellFormed) (held : disk.top.at? root = some (.dir entries)) (directory : Path)
    (error : IoError) (failed : (search disk order name (pathOf root) entries).failure = some (directory, error)) :
    ∃ place, Below disk root place ∧ directory = pathOf place ∧ checkPath directory = .error error := by
  simpa only [within_root held formed] using
    visit_failed formed (entries.directories + 2) (stands_root held) directory error failed

theorem search_ends (order : Enumeration) (formed : disk.WellFormed) (held : disk.top.at? root = some (.dir entries))
    (short : ∀ place, Below disk root place → checkPath (pathOf place) = .ok ()) :
    (search disk order name (pathOf root) entries).failure = none := by
  cases failure : (search disk order name (pathOf root) entries).failure with
  | none => rfl
  | some failed =>
    obtain ⟨path, error⟩ := failed
    obtain ⟨place, below, rfl, bad⟩ := search_failed formed held path error failure
    rw [short place below] at bad
    cases bad

end

end InkProject.Compiler
