import InkProject.Proofs.Disk.Change
set_option autoImplicit false

namespace InkProject.Disk

open InkProject.Path Relation

structure SameWays (disk after : Disk) : Prop where
  directory : ∀ place, disk.view place = some Node.emptyDir → after.view place = some Node.emptyDir
  entry : ∀ place node, disk.view place = some node →
    ∃ alike, after.view place = some alike ∧ ∀ target, node = .link target ↔ alike = .link target
  cwd : after.cwd = disk.cwd

structure Grown (disk after : Disk) : Prop where
  kept : ∀ place node, disk.view place = some node → after.view place = some node
  cwd : after.cwd = disk.cwd

section

variable {disk between after : Disk} {path : Path} {place parent : Place} {name : Bytes}

theorem SameWays.advance (same : SameWays disk after) {a b : Walker} (step : disk.advance a = some b) :
    after.advance a = some b := by
  obtain ⟨links, place, ahead⟩ := a
  cases ahead with
  | nil => cases step
  | cons name rest =>
    obtain ⟨directory, _⟩ := advance_cases b step
    exact advance_alike (same.directory place directory) (same.entry _) step

theorem SameWays.way (same : SameWays disk after) {a b : Walker} (way : disk.Way a b) : after.Way a b :=
  ReflTransGen.mono (fun _ _ step => same.advance step) _ _ way

theorem SameWays.leads (same : SameWays disk after) (leads : disk.Leads path place) : after.Leads path place := by
  obtain ⟨checked, links, way⟩ := leads
  refine ⟨checked, links, ?_⟩
  rw [starting, same.cwd]
  exact same.way way

theorem Grown.refl (disk : Disk) : Grown disk disk := ⟨fun _ _ held => held, rfl⟩

theorem Grown.trans (first : Grown disk between) (second : Grown between after) : Grown disk after :=
  ⟨fun place node held => second.kept place node (first.kept place node held), second.cwd.trans first.cwd⟩

theorem Grown.held (grown : Grown disk after) (held : disk.view place ≠ none) : after.view place ≠ none := by
  obtain ⟨node, there⟩ := Option.ne_none_iff_exists'.mp held
  simp [grown.kept place node there]

theorem Grown.sameWays (grown : Grown disk after) : SameWays disk after where
  directory place := grown.kept place _
  entry place node held := ⟨node, grown.kept place node held, fun _ => .rfl⟩
  cwd := grown.cwd

theorem Grown.leads (grown : Grown disk after) (leads : disk.Leads path place) : after.Leads path place :=
  grown.sameWays.leads leads

theorem locate_leaf (disk : Disk) (path : Path) (place : Place) (node : Node) (leaf : node.isDir = false) :
    disk.locate true path = .ok (place, node) ↔ disk.Leads path place ∧ disk.view place = some node := by
  rw [locate_eq_ok, view_leaf disk place node leaf]

theorem Grown.locate (grown : Grown disk after) {node : Node} (leaf : node.isDir = false)
    (found : disk.locate true path = .ok (place, node)) : after.locate true path = .ok (place, node) := by
  rw [locate_leaf _ _ _ _ leaf] at found ⊢
  exact ⟨grown.leads found.1, grown.kept _ _ found.2⟩

theorem Grown.file (grown : Grown disk after) {content : Bytes} {executable : Bool}
    (held : disk.top.at? place = some (.file content executable)) :
    after.top.at? place = some (.file content executable) :=
  (view_leaf after place _ rfl).mp (grown.kept place _ ((view_leaf disk place _ rfl).mpr held))

theorem read_located {content : Bytes} {executable : Bool} (found : disk.locate true path = .ok (place, .file content executable)) :
    disk.read path = .ok content := by
  rw [read, look, found]
  rfl

theorem view_put (directory : disk.view parent = some Node.emptyDir) (node : Node) (other : Place) :
    (disk.set (parent ++ [name]) (some node)).view other =
      if parent ++ [name] <+: other then node.view (other.drop (parent ++ [name]).length) else disk.view other :=
  Entries.view_set disk.top (parent ++ [name]) node (by simp) (by rwa [List.dropLast_concat]) other

theorem put_grown (directory : disk.view parent = some Node.emptyDir) (vacant : disk.view (parent ++ [name]) = none)
    (node : Node) : Grown disk (disk.set (parent ++ [name]) (some node)) where
  kept other there held := by
    have outside : ¬ parent ++ [name] <+: other := fun inside => held_above _ other inside (by simp [held]) vacant
    rw [view_put directory, if_neg outside, held]
  cwd := rfl

theorem put_held (directory : disk.view parent = some Node.emptyDir) (node : Node) :
    (disk.set (parent ++ [name]) (some node)).view (parent ++ [name]) = some node.bare := by
  rw [view_put directory, if_pos (List.prefix_refl _), List.drop_length, Node.view_nil]

theorem makeDir_eq_ok (made : disk.makeDir path = .ok after) : ∃ parent name, disk.EndsAt path (parent ++ [name]) ∧
    disk.view parent = some Node.emptyDir ∧ disk.view (parent ++ [name]) = none ∧
    after = disk.set (parent ++ [name]) (some Node.emptyDir) := by
  rw [makeDir] at made
  obtain ⟨ending, found, made⟩ := (bind_eq_ok _ _ _).mp made
  obtain ⟨place, there, made⟩ := (bind_eq_ok _ _ _).mp made
  have ends := endsAt_of_place found there
  have directory := endsAt_parent ends
  obtain ⟨parent, name, rfl, _⟩ := endsAt_proper ends
  rw [List.dropLast_concat] at directory
  cases held : disk.top.at? (parent ++ [name]) with
  | some node =>
    rw [held] at made
    cases made
  | none =>
    rw [held] at made
    cases made
    exact ⟨parent, name, ends, directory, (Entries.view_eq_none disk.top _).mpr held, rfl⟩

theorem makeDir_grown (made : disk.makeDir path = .ok after) : Grown disk after := by
  obtain ⟨parent, name, _, directory, vacant, rfl⟩ := makeDir_eq_ok made
  exact put_grown directory vacant _

theorem makeDirsFrom_grown (disk : Disk) (fuel : Nat) (path : Path) : Grown disk (disk.makeDirsFrom fuel path).1 := by
  induction fuel generalizing path with
  | zero => exact .refl disk
  | succ fuel ih =>
    rw [makeDirsFrom]
    split
    · exact .refl disk
    cases made : disk.makeDir path with
    | ok after => exact makeDir_grown made
    | error error =>
      dsimp only
      split
      · exact .refl disk
      cases path.parent? with
      | none => exact .refl disk
      | some parent =>
        have above := ih parent
        dsimp only
        split
        · rename_i failed
          rwa [failed] at above
        · rename_i between done
          rw [done] at above
          cases made : between.makeDir path with
          | ok after => exact above.trans (makeDir_grown made)
          | error error => exact above

theorem makeDirs_grown (disk : Disk) (path : Path) : Grown disk (disk.makeDirs path).1 :=
  makeDirsFrom_grown disk _ path

end

structure Missing (disk : Disk) (path : Path) (parent : Place) (name : Bytes) : Prop where
  checked : checkPath path = .ok ()
  way : ∃ links, disk.Way (disk.starting path) ⟨links, parent, [name]⟩
  proper : Proper name
  directory : disk.view parent = some Node.emptyDir
  vacant : disk.view (parent ++ [name]) = none

section

variable {disk after : Disk} {path : Path} {links : Nat} {place parent : Place} {name last : Bytes} {rest : List Bytes}
  {content : Bytes}

theorem walkFrom_stuck_vacant (stuck : disk.advance ⟨links, place, name :: rest⟩ = none)
    (found : disk.walkFrom .target links place (name :: rest) = .ok (.vacant parent last)) :
    rest = [] ∧ parent = place ∧ last = name ∧ Proper name ∧ disk.view place = some Node.emptyDir ∧
      disk.view (place ++ [name]) = none := by
  rw [walkFrom_cons] at found
  rw [advance] at stuck
  rcases disk.view_cases place with ⟨entries, held, directory⟩ | ⟨_, other⟩
  · simp only [held] at found
    rw [if_neg (by simp [directory])] at stuck
    by_cases here : name = dot ∨ name = []
    · rw [if_pos here] at stuck
      cases stuck
    rw [if_neg here] at stuck found
    by_cases up : name = dots
    · rw [if_pos up] at stuck
      cases stuck
    rw [if_neg up] at stuck found
    by_cases long : nameLimit < name.length
    · rw [if_pos long] at found
      cases found
    rw [if_neg long] at stuck found
    have child := view_child disk place entries name held
    cases missing : entries.find? name with
    | none =>
      rw [missing] at found child
      dsimp only at found
      split at found
      · rename_i empty
        cases found
        rw [not_or] at here
        exact ⟨List.isEmpty_iff.mp empty, rfl, rfl, ⟨here.2, here.1, up, Nat.le_of_not_lt long⟩, directory, child⟩
      · cases found
    | some node =>
      rw [child, missing] at stuck
      rw [missing] at found
      cases node with
      | link target =>
        cases links with
        | zero => cases found
        | succ links => cases stuck
      | dir | file | device => cases stuck
  · split at found
    · exact absurd ‹_› (other _)
    · cases found

theorem walk_missing (found : disk.walk .target path (steps path.bytes) = .ok (.vacant parent name)) :
    disk.Missing path parent name := by
  rw [walk, bind_eq_ok] at found
  obtain ⟨⟨⟩, checked, found⟩ := found
  obtain ⟨⟨left, halt, rest⟩, way, ended⟩ := way_halts disk linkLimit (startOf path.bytes disk.cwd) (steps path.bytes)
  rw [way_walkFrom disk _ _ way] at found
  cases rest with
  | nil =>
    rw [walkFrom_nil] at found
    cases found
  | cons next rest =>
    obtain ⟨rfl, rfl, rfl, proper, directory, vacant⟩ := walkFrom_stuck_vacant ended found
    exact ⟨checked, ⟨left, way⟩, proper, directory, vacant⟩

-- What makes a file goes the way of what looks for one, unless it comes to a slash at the end.
theorem walkWith_creation {onLink other : Place → List Bytes → Except IoError Spot} {spot : Spot}
    (same : ∀ place names, onLink place names = .ok spot → other place names = .ok spot) (place : Place)
    (names : List Bytes) (found : disk.walkWith .creation onLink place names = .ok spot) :
    disk.walkWith .target other place names = .ok spot := by
  induction names generalizing place with
  | nil => exact found
  | cons name rest ih =>
    rw [walkWith] at found ⊢
    rcases disk.view_cases place with ⟨entries, held, _⟩ | ⟨_, other⟩
    · simp only [held, reduceCtorEq, false_and, and_false, if_false, true_and] at found ⊢
      by_cases slashed : rest = [[]]
      · rw [if_pos slashed] at found
        cases found
      rw [if_neg slashed] at found
      by_cases here : name = dot ∨ name = []
      · rw [if_pos here] at found ⊢
        exact ih _ found
      rw [if_neg here] at found ⊢
      by_cases up : name = dots
      · rw [if_pos up] at found ⊢
        exact ih _ found
      rw [if_neg up] at found ⊢
      by_cases long : nameLimit < name.length
      · rw [if_pos long] at found
        cases found
      rw [if_neg long] at found ⊢
      cases inner : entries.find? name with
      | none =>
        rw [inner] at found
        exact found
      | some node =>
        rw [inner] at found
        cases node with
        | link target => exact same _ _ found
        | dir | file | device => exact ih _ found
    · split at found
      · exact absurd ‹_› (other _)
      · cases found

theorem walkFrom_creation {spot : Spot} (links : Nat) (place : Place) (names : List Bytes)
    (found : disk.walkFrom .creation links place names = .ok spot) :
    disk.walkFrom .target links place names = .ok spot := by
  induction links generalizing place names with
  | zero => exact walkWith_creation (fun _ _ failed => by cases failed) place names found
  | succ links ih => exact walkWith_creation ih place names found

theorem walk_creation {names : List Bytes} {spot : Spot} (found : disk.walk .creation path names = .ok spot) :
    disk.walk .target path names = .ok spot := by
  rw [walk, bind_eq_ok] at found ⊢
  obtain ⟨⟨⟩, checked, found⟩ := found
  exact ⟨(), checked, walkFrom_creation _ _ _ found⟩

theorem Missing.put_leads (missing : disk.Missing path parent name) (content : Bytes) :
    (disk.set (parent ++ [name]) (some (.file content false))).locate true path =
      .ok (parent ++ [name], .file content false) := by
  have grown := put_grown missing.directory missing.vacant (.file content false)
  have held := @put_held disk parent name missing.directory (.file content false)
  obtain ⟨links, way⟩ := missing.way
  refine (locate_leaf _ _ _ _ rfl).mpr ⟨⟨missing.checked, links, ?_⟩, held⟩
  exact (grown.sameWays.way way).tail (advance_down missing.proper (grown.kept _ _ missing.directory) _ held (by simp [Node.bare]))

-- All that a write can do.
theorem write_eq_ok (written : disk.write path content = .ok after) :
    (∃ parent name, disk.Missing path parent name ∧ after = disk.set (parent ++ [name]) (some (.file content false))) ∨
      ∃ place, disk.Leads path place ∧
        ((∃ old executable, disk.view place = some (.file old executable) ∧
          after = disk.set place (some (.file content executable))) ∨
        ∃ device, disk.view place = some (.device device) ∧ after = disk) := by
  rw [write, bind_eq_ok] at written
  obtain ⟨spot, found, written⟩ := written
  have found := walk_creation found
  cases spot with
  | vacant parent name =>
    cases written
    exact .inl ⟨parent, name, walk_missing found, rfl⟩
  | held place =>
    refine .inr ⟨place, (walk_eq_held disk path _ place).mp found, ?_⟩
    cases held : disk.top.at? place with
    | none =>
      simp only [held] at written
      cases written
    | some node =>
      simp only [held] at written
      cases node with
      | file old executable =>
        cases written
        exact .inl ⟨old, executable, (view_leaf disk place _ rfl).mpr held, rfl⟩
      | device device =>
        dsimp only at written
        split at written
        · cases written
        · cases written
          exact .inr ⟨device, (view_leaf disk place _ rfl).mpr held, rfl⟩
      | link | dir => cases written

theorem write_fresh (absent : disk.exists? path = false) (written : disk.write path content = .ok after) :
    ∃ place, disk.view place = none ∧ Grown disk after ∧ after.locate true path = .ok (place, .file content false) := by
  have nothing {place : Place} {node : Node} (leads : disk.Leads path place) : disk.top.at? place ≠ some node := by
    intro held
    rw [(exists?_iff disk path).mpr ⟨place, node, leads, held⟩] at absent
    cases absent
  rcases write_eq_ok written with ⟨parent, name, missing, rfl⟩ | ⟨place, leads, ⟨old, executable, held, _⟩ | ⟨device, held, _⟩⟩
  · exact ⟨_, missing.vacant, put_grown missing.directory missing.vacant _, missing.put_leads content⟩
  · exact absurd ((view_leaf disk place _ rfl).mp held) (nothing leads)
  · exact absurd ((view_leaf disk place _ rfl).mp held) (nothing leads)

end

end InkProject.Disk
