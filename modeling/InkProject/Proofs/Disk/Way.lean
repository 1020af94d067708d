import InkProject.Disk.Operations
import InkProject.Proofs.Disk.View
import InkProject.Proofs.Results
import Mathlib.Logic.Relation
import Mathlib.Tactic.SplitIfs
/- The way that a path takes through a disk, one name or one link at a time. Where a path
   leads is where its way ends. -/
set_option autoImplicit false

namespace InkProject.Disk

open InkProject.Path Relation

def view (disk : Disk) (place : Place) : Option Node := disk.top.view place

theorem view_nil (disk : Disk) : disk.view [] = some Node.emptyDir := Entries.view_nil disk.top

theorem view_above (disk : Disk) (a b : Place) (below : b ≠ []) (held : disk.view (a ++ b) ≠ none) :
    disk.view a = some Node.emptyDir := Entries.view_above disk.top a b below held

theorem view_parent (disk : Disk) (place : Place) (name : Bytes) (held : disk.view (place ++ [name]) ≠ none) :
    disk.view place = some Node.emptyDir := view_above disk place [name] (by simp) held

theorem held_above {disk : Disk} (place new : Place) (inside : place <+: new) (held : disk.view new ≠ none) :
    disk.view place ≠ none := by
  obtain ⟨more, rfl⟩ := inside
  by_cases here : more = []
  · simpa [here] using held
  · simp [disk.view_above place more here held]

theorem dir_above {disk : Disk} (place new : Place) (inside : place <+: new)
    (directory : disk.view new = some Node.emptyDir) : disk.view place = some Node.emptyDir := by
  obtain ⟨more, rfl⟩ := inside
  by_cases here : more = []
  · simpa [here] using directory
  · exact disk.view_above place more here (by simp [directory])

theorem dir_dropLast (disk : Disk) (place : Place) (directory : disk.view place = some Node.emptyDir) :
    disk.view place.dropLast = some Node.emptyDir := by
  by_cases top : place = []
  · rw [top]
    exact view_nil disk
  · exact Entries.view_dropLast disk.top place (by rw [← view, directory]; simp) top

theorem view_below_leaf (disk : Disk) (a b : Place) (node : Node) (leaf : node.isDir = false)
    (held : disk.view a = some node) (below : b ≠ []) : disk.view (a ++ b) = none :=
  Entries.view_below_leaf disk.top a b node leaf held below

theorem view_dir (disk : Disk) (place : Place) :
    disk.view place = some Node.emptyDir ↔ ∃ entries, disk.top.at? place = some (.dir entries) :=
   Entries.view_eq_dir disk.top place

theorem view_leaf (disk : Disk) (place : Place) (node : Node) (leaf : node.isDir = false) :
    disk.view place = some node ↔ disk.top.at? place = some node := Entries.view_eq_leaf disk.top place node leaf

theorem leaf_solid {disk : Disk} {place : Place} {node : Node} (held : disk.view place = some node)
    (leaf : node.isDir = false) : disk.view place ≠ some Node.emptyDir := by
  rw [held, Ne, Option.some.injEq]
  rintro rfl
  cases leaf

structure Walker where
  links : Nat
  place : Place
  ahead : List Bytes

namespace Walker

def jump (place : Place) (target : Bytes) (rest : List Bytes) : Nat → Option Walker
  | 0 => none
  | links + 1 => some ⟨links, startOf target place, steps target ++ rest⟩

def extended (walker : Walker) (more : List Bytes) : Walker := { walker with ahead := walker.ahead ++ more }

end Walker

def advance (disk : Disk) : Walker → Option Walker
  | ⟨_, _, []⟩ => none
  | ⟨links, place, name :: rest⟩ =>
    if disk.view place ≠ some Node.emptyDir then none
    else if name = dot ∨ name = [] then some ⟨links, place, rest⟩
    else if name = dots then some ⟨links, place.dropLast, rest⟩
    else if nameLimit < name.length then none
    else match disk.view (place ++ [name]) with
      | none => none
      | some (.link target) => Walker.jump place target rest links
      | some _ => some ⟨links, place ++ [name], rest⟩

def Way (disk : Disk) : Walker → Walker → Prop := ReflTransGen fun a b => disk.advance a = some b

def starting (disk : Disk) (path : Path) : Walker :=
  ⟨linkLimit, startOf path.bytes disk.cwd, steps path.bytes⟩

def Leads (disk : Disk) (path : Path) (place : Place) : Prop :=
  checkPath path = .ok () ∧ ∃ links, disk.Way (disk.starting path) ⟨links, place, []⟩

theorem view_cases (disk : Disk) (place : Place) :
    (∃ entries, disk.top.at? place = some (.dir entries) ∧ disk.view place = some Node.emptyDir) ∨
      (disk.view place ≠ some Node.emptyDir ∧ ∀ entries, disk.top.at? place ≠ some (.dir entries)) := by
  by_cases directory : disk.view place = some Node.emptyDir
  · obtain ⟨entries, held⟩ := (view_dir disk place).mp directory
    exact .inl ⟨entries, held, directory⟩
  · refine .inr ⟨directory, fun entries held => directory ?_⟩
    exact (view_dir disk place).mpr ⟨entries, held⟩

theorem view_child (disk : Disk) (place : Place) (entries : Entries) (name : Bytes)
    (held : disk.top.at? place = some (.dir entries)) :
    disk.view (place ++ [name]) = (entries.find? name).map Node.bare := by
  rw [view, Entries.view, Entries.at?_child disk.top entries place name held]

section

variable {disk : Disk} {links : Nat} {place : Place} {name : Bytes} {rest : List Bytes}

theorem walkFrom_nil (purpose : Purpose) : disk.walkFrom purpose links place [] = .ok (.held place) := by
  cases links <;> rfl

def followed (disk : Disk) (place : Place) (ahead : List Bytes) : Nat → Except IoError Spot
  | 0 => .error .tooManyLinks
  | links + 1 => disk.walkFrom .target links place ahead

theorem walkFrom_cons : disk.walkFrom .target links place (name :: rest) =
    match disk.top.at? place with
    | some (.dir entries) =>
      if name = dot ∨ name = [] then disk.walkFrom .target links place rest
      else if name = dots then disk.walkFrom .target links place.dropLast rest
      else if nameLimit < name.length then .error .nameTooLong
      else match entries.find? name with
        | none => if rest.isEmpty then .ok (.vacant place name) else .error .notFound
        | some (.link target) => disk.followed (startOf target place) (steps target ++ rest) links
        | some _ => disk.walkFrom .target links (place ++ [name]) rest
    | _ => .error .notDirectory := by
  cases links <;>
  · rw [walkFrom, walkWith]
    simp only [reduceCtorEq, false_and, and_false, if_false]
    rfl

theorem walkFrom_advance (next : Walker) (moves : disk.advance ⟨links, place, name :: rest⟩ = some next) :
    disk.walkFrom .target links place (name :: rest) = disk.walkFrom .target next.links next.place next.ahead := by
  rw [walkFrom_cons]
  rw [advance] at moves
  rcases disk.view_cases place with ⟨entries, held, directory⟩ | ⟨other, _⟩
  · simp only [held]
    rw [if_neg (by simp [directory])] at moves
    by_cases here : name = dot ∨ name = []
    · rw [if_pos here] at moves ⊢
      exact Option.some.inj moves ▸ rfl
    rw [if_neg here] at moves ⊢
    by_cases up : name = dots
    · rw [if_pos up] at moves ⊢
      exact Option.some.inj moves ▸ rfl
    rw [if_neg up] at moves ⊢
    by_cases long : nameLimit < name.length
    · rw [if_pos long] at moves
      cases moves
    rw [if_neg long] at moves ⊢
    rw [view_child disk place entries name held] at moves
    cases found : entries.find? name with
    | none => simp [found] at moves
    | some node =>
      cases node with
      | link target =>
        cases links with
        | zero => simp [found, Node.bare, Walker.jump] at moves
        | succ links =>
          simp only [found, Option.map_some, Node.bare, Walker.jump, Option.some.injEq] at moves
          exact moves ▸ rfl
      | dir | file | device =>
        simp only [found, Option.map_some, Node.bare, Option.some.injEq] at moves
        exact moves ▸ rfl
  · rw [if_pos other] at moves
    cases moves

theorem walkFrom_stuck (stuck : disk.advance ⟨links, place, name :: rest⟩ = none) (final : Place) :
    disk.walkFrom .target links place (name :: rest) ≠ .ok (.held final) := by
  rw [walkFrom_cons]
  rw [advance] at stuck
  rcases disk.view_cases place with ⟨entries, held, directory⟩ | ⟨_, other⟩
  · simp only [held]
    rw [if_neg (by simp [directory])] at stuck
    by_cases here : name = dot ∨ name = []
    · rw [if_pos here] at stuck
      cases stuck
    rw [if_neg here] at stuck ⊢
    by_cases up : name = dots
    · rw [if_pos up] at stuck
      cases stuck
    rw [if_neg up] at stuck ⊢
    by_cases long : nameLimit < name.length
    · simp [long]
    rw [if_neg long] at stuck ⊢
    rw [view_child disk place entries name held] at stuck
    cases found : entries.find? name with
    | none => by_cases last : rest.isEmpty <;> simp [last]
    | some node =>
      cases node with
      | link target =>
        cases links with
        | zero => simp [followed]
        | succ links => simp [found, Node.bare, Walker.jump] at stuck
      | dir | file | device => simp [found, Node.bare] at stuck
  · split
    · exact absurd ‹_› (other _)
    · simp

end

structure Proper (name : Bytes) : Prop where
  filled : name ≠ []
  not_dot : name ≠ dot
  not_dots : name ≠ dots
  short : name.length ≤ nameLimit

section

variable {disk : Disk} {links : Nat} {place : Place} {name : Bytes} {rest : List Bytes}

theorem advance_stay (here : name = dot ∨ name = []) (directory : disk.view place = some Node.emptyDir) :
    disk.advance ⟨links, place, name :: rest⟩ = some ⟨links, place, rest⟩ := by
  rw [advance, if_neg (by simp [directory]), if_pos here]

theorem advance_up (directory : disk.view place = some Node.emptyDir) :
    disk.advance ⟨links, place, dots :: rest⟩ = some ⟨links, place.dropLast, rest⟩ := by
  rw [advance, if_neg (by simp [directory]), if_neg (by decide), if_pos rfl]

theorem advance_proper (proper : Proper name) (directory : disk.view place = some Node.emptyDir) :
    disk.advance ⟨links, place, name :: rest⟩ = match disk.view (place ++ [name]) with
      | none => none
      | some (.link target) => Walker.jump place target rest links
      | some _ => some ⟨links, place ++ [name], rest⟩ := by
  rw [advance, if_neg (by simp [directory]), if_neg (by simp [proper.filled, proper.not_dot]), if_neg proper.not_dots,
    if_neg (Nat.not_lt_of_le proper.short)]

theorem advance_down (proper : Proper name) (directory : disk.view place = some Node.emptyDir) (node : Node)
    (held : disk.view (place ++ [name]) = some node) (solid : ∀ target, node ≠ .link target) :
    disk.advance ⟨links, place, name :: rest⟩ = some ⟨links, place ++ [name], rest⟩ := by
  rw [advance_proper proper directory, held]
  cases node with
  | link target => exact absurd rfl (solid target)
  | dir | file | device => rfl

theorem advance_jump (proper : Proper name) (directory : disk.view place = some Node.emptyDir) (target : Bytes)
    (held : disk.view (place ++ [name]) = some (.link target)) :
    disk.advance ⟨links, place, name :: rest⟩ = Walker.jump place target rest links := by
  rw [advance_proper proper directory, held]

theorem advance_cases (next : Walker) (step : disk.advance ⟨links, place, name :: rest⟩ = some next) :
    disk.view place = some Node.emptyDir ∧
      ((name = dot ∨ name = []) ∧ next = ⟨links, place, rest⟩ ∨
        name = dots ∧ next = ⟨links, place.dropLast, rest⟩ ∨
        Proper name ∧ (∃ node, disk.view (place ++ [name]) = some node ∧ (∀ target, node ≠ .link target) ∧
          next = ⟨links, place ++ [name], rest⟩) ∨
        Proper name ∧ ∃ target, disk.view (place ++ [name]) = some (.link target) ∧
          Walker.jump place target rest links = some next) := by
  by_cases other : disk.view place ≠ some Node.emptyDir
  · rw [advance, if_pos other] at step
    cases step
  have directory := Classical.not_not.mp other
  refine ⟨directory, ?_⟩
  by_cases here : name = dot ∨ name = []
  · rw [advance_stay here directory, Option.some.injEq] at step
    exact .inl ⟨here, step.symm⟩
  by_cases up : name = dots
  · subst up
    rw [advance_up directory, Option.some.injEq] at step
    exact .inr (.inl ⟨rfl, step.symm⟩)
  by_cases long : nameLimit < name.length
  · rw [advance, if_neg (by simp [directory]), if_neg here, if_neg up, if_pos long] at step
    cases step
  simp only [not_or] at here
  have proper : Proper name := ⟨here.2, here.1, up, Nat.le_of_not_lt long⟩
  rw [advance_proper proper directory] at step
  cases held : disk.view (place ++ [name]) with
  | none =>
    rw [held] at step
    cases step
  | some node =>
    rw [held] at step
    cases node with
    | link target => exact .inr (.inr (.inr ⟨proper, target, rfl, step⟩))
    | dir | file | device => exact .inr (.inr (.inl ⟨proper, _, rfl, by simp, (Option.some.inj step).symm⟩))

-- A step asks for a directory, and of the entry in it only whether it is a link and which.
theorem advance_alike {other : Disk} {next : Walker} (directory : other.view place = some Node.emptyDir)
    (entry : ∀ node, disk.view (place ++ [name]) = some node →
      ∃ alike, other.view (place ++ [name]) = some alike ∧ ∀ target, node = .link target ↔ alike = .link target)
    (step : disk.advance ⟨links, place, name :: rest⟩ = some next) :
    other.advance ⟨links, place, name :: rest⟩ = some next := by
  obtain ⟨_, moves⟩ := advance_cases next step
  rcases moves with ⟨here, rfl⟩ | ⟨rfl, rfl⟩ | ⟨proper, node, held, solid, rfl⟩ | ⟨proper, target, held, jumped⟩
  · exact advance_stay here directory
  · exact advance_up directory
  · obtain ⟨alike, there, same⟩ := entry node held
    exact advance_down proper directory alike there fun target link => solid target ((same target).mpr link)
  · obtain ⟨alike, there, same⟩ := entry _ held
    obtain rfl := (same target).mp rfl
    rw [advance_jump proper directory target there, jumped]

end

theorem way_walkFrom (disk : Disk) (a b : Walker) (way : disk.Way a b) :
    disk.walkFrom .target a.links a.place a.ahead = disk.walkFrom .target b.links b.place b.ahead := by
  induction way using ReflTransGen.head_induction_on with
  | refl => rfl
  | @head first next step _ ih =>
    obtain ⟨links, place, ahead⟩ := first
    cases ahead with
    | nil => simp [advance] at step
    | cons name rest => rw [walkFrom_advance next step, ih]

-- Every way comes to an end, by induction on the links that are left, and for each on the names ahead.
theorem way_halts (disk : Disk) (links : Nat) (place : Place) (ahead : List Bytes) :
    ∃ halt, disk.Way ⟨links, place, ahead⟩ halt ∧ disk.advance halt = none := by
  induction links using Nat.strongRecOn generalizing place ahead with
  | _ links outer =>
    induction ahead generalizing place with
    | nil => exact ⟨⟨links, place, []⟩, .refl, rfl⟩
    | cons name rest ih =>
      cases step : disk.advance ⟨links, place, name :: rest⟩ with
      | none => exact ⟨_, .refl, step⟩
      | some next =>
        have shorter : next.links < links ∨ next.links = links ∧ next.ahead = rest := by
          obtain ⟨_, ⟨_, rfl⟩ | ⟨_, rfl⟩ | ⟨_, _, _, _, rfl⟩ | ⟨_, target, _, jumped⟩⟩ := advance_cases next step
          · exact .inr ⟨rfl, rfl⟩
          · exact .inr ⟨rfl, rfl⟩
          · exact .inr ⟨rfl, rfl⟩
          · cases links with
            | zero => cases jumped
            | succ links => exact .inl (Option.some.inj jumped ▸ Nat.lt_succ_self links)
        rcases shorter with less | ⟨same, ahead⟩
        · obtain ⟨halt, way, ended⟩ := outer next.links less next.place next.ahead
          exact ⟨halt, .head step way, ended⟩
        · obtain ⟨halt, way, ended⟩ := ih next.place
          refine ⟨halt, .head step ?_, ended⟩
          rwa [← same, ← ahead] at way

theorem walkFrom_way (disk : Disk) (links : Nat) (place final : Place) (ahead : List Bytes)
    (found : disk.walkFrom .target links place ahead = .ok (.held final)) :
    ∃ left, disk.Way ⟨links, place, ahead⟩ ⟨left, final, []⟩ := by
  obtain ⟨⟨left, halt, rest⟩, way, ended⟩ := way_halts disk links place ahead
  rw [way_walkFrom disk _ _ way] at found
  cases rest with
  | nil =>
    rw [walkFrom_nil, Except.ok.injEq, Spot.held.injEq] at found
    exact ⟨left, found ▸ way⟩
  | cons name rest => exact absurd found (walkFrom_stuck ended final)

theorem walkFrom_eq_held (disk : Disk) (links : Nat) (place final : Place) (ahead : List Bytes) :
    disk.walkFrom .target links place ahead = .ok (.held final) ↔
      ∃ left, disk.Way ⟨links, place, ahead⟩ ⟨left, final, []⟩ := by
  constructor
  · exact walkFrom_way disk links place final ahead
  · intro holds
    obtain ⟨left, way⟩ := holds
    rw [way_walkFrom disk _ _ way, walkFrom_nil]

theorem advance_extended (disk : Disk) (walker : Walker) (more : List Bytes) (going : walker.ahead ≠ []) :
    disk.advance (walker.extended more) = (disk.advance walker).map (·.extended more) := by
  obtain ⟨links, place, ahead⟩ := walker
  cases ahead with
  | nil => exact absurd rfl going
  | cons name rest =>
    simp only [Walker.extended, List.cons_append, advance]
    split_ifs
    · rfl
    · rfl
    · rfl
    · rfl
    · split
      · rfl
      · cases links with
        | zero => rfl
        | succ links => simp [Walker.jump]
      · rfl

theorem way_extended (disk : Disk) (a b : Walker) (more : List Bytes) (way : disk.Way a b) :
    disk.Way (a.extended more) (b.extended more) := by
  induction way using ReflTransGen.head_induction_on with
  | refl => exact .refl
  | @head first next step _ ih =>
    refine .head ?_ ih
    have going : first.ahead ≠ [] := by
      obtain ⟨links, place, ahead⟩ := first
      rintro rfl
      cases step
    rw [advance_extended disk first more going, step]
    rfl

theorem way_split (disk : Disk) (a : Walker) (more : List Bytes) (links : Nat) (final : Place)
    (way : disk.Way (a.extended more) ⟨links, final, []⟩) :
    ∃ left between, disk.Way a ⟨left, between, []⟩ ∧ disk.Way ⟨left, between, more⟩ ⟨links, final, []⟩ := by
  generalize whole : a.extended more = start at way
  induction way using ReflTransGen.head_induction_on generalizing a with
  | refl =>
    obtain ⟨start, place, ahead⟩ := a
    simp only [Walker.extended, Walker.mk.injEq, List.append_eq_nil_iff] at whole
    obtain ⟨rfl, rfl, rfl, rfl⟩ := whole
    exact ⟨start, place, .refl, .refl⟩
  | @head first next step rest ih =>
    obtain ⟨start, place, ahead⟩ := a
    cases ahead with
    | nil => exact ⟨start, place, .refl, by rw [show (⟨start, place, more⟩ : Walker) = first from whole]; exact .head step rest⟩
    | cons name others =>
      rw [← whole, advance_extended disk _ more (by simp)] at step
      obtain ⟨moved, steps, rfl⟩ := Option.map_eq_some_iff.mp step
      obtain ⟨left, between, before, after⟩ := ih moved rfl
      exact ⟨left, between, .head steps before, after⟩

theorem way_unique (disk : Disk) (a : Walker) (l m : Nat) (x y : Place) (first : disk.Way a ⟨l, x, []⟩)
    (second : disk.Way a ⟨m, y, []⟩) : l = m ∧ x = y := by
  induction first using ReflTransGen.head_induction_on with
  | refl =>
    rcases ReflTransGen.cases_head second with same | ⟨next, step, _⟩
    · cases same
      exact ⟨rfl, rfl⟩
    · cases step
  | head step _ ih =>
    rcases ReflTransGen.cases_head second with rfl | ⟨next, other, rest⟩
    · cases step
    · rw [step] at other
      cases other
      exact ih rest

-- There is one way only, so to its end it goes by whatever was come to.
theorem way_through (disk : Disk) (a b : Walker) (links : Nat) (final : Place) (whole : disk.Way a ⟨links, final, []⟩)
    (part : disk.Way a b) : disk.Way b ⟨links, final, []⟩ := by
  induction part using ReflTransGen.head_induction_on with
  | refl => exact whole
  | head step _ ih =>
    rcases ReflTransGen.cases_head whole with rfl | ⟨next, other, rest⟩
    · cases step
    · rw [step] at other
      cases other
      exact ih rest

theorem leads_unique (disk : Disk) (path : Path) (x y : Place) (first : disk.Leads path x)
    (second : disk.Leads path y) : x = y := by
  obtain ⟨_, l, toX⟩ := first
  obtain ⟨_, m, toY⟩ := second
  exact (way_unique disk _ l m x y toX toY).2

theorem walk_eq_held (disk : Disk) (path : Path) (names : List Bytes) (final : Place) :
    disk.walk .target path names = .ok (.held final) ↔
      checkPath path = .ok () ∧ ∃ left, disk.Way ⟨linkLimit, startOf path.bytes disk.cwd, names⟩ ⟨left, final, []⟩ := by
  rw [walk, ← walkFrom_eq_held]
  cases checkPath path with
  | error error => simp [bind, Except.bind]
  | ok checked => simp [bind, Except.bind]

theorem locate_eq_ok (disk : Disk) (path : Path) (place : Place) (node : Node) :
    disk.locate true path = .ok (place, node) ↔ disk.Leads path place ∧ disk.top.at? place = some node := by
  have spots := walk_eq_held disk path (steps path.bytes)
  rw [locate, if_pos rfl]
  cases found : disk.walk .target path (steps path.bytes) with
  | error error =>
    simp only [found, reduceCtorEq, false_iff] at spots
    simp only [bind, Except.bind, reduceCtorEq, false_iff]
    exact fun held => spots place held.1
  | ok spot =>
    cases spot with
    | vacant parent name =>
      simp only [found, Except.ok.injEq, reduceCtorEq, false_iff] at spots
      simp only [bind, Except.bind, reduceCtorEq, false_iff]
      exact fun held => spots place held.1
    | held final =>
      have leads : disk.Leads path final := (spots final).mp found
      simp only [bind, Except.bind]
      constructor
      · intro held
        cases there : disk.top.at? final with
        | none => simp [there] at held
        | some other =>
          simp only [there, Except.ok.injEq, Prod.mk.injEq] at held
          obtain ⟨rfl, rfl⟩ := held
          exact ⟨leads, there⟩
      · intro holds
        obtain ⟨other, there⟩ := holds
        rw [leads_unique disk path final place leads other, there]

theorem look_eq_ok (disk : Disk) (path : Path) (node : Node) :
    disk.look path = .ok node ↔ ∃ place, disk.Leads path place ∧ disk.top.at? place = some node := by
  rw [look, bind_eq_ok]
  constructor
  · intro holds
    obtain ⟨⟨place, there⟩, found, same⟩ := holds
    cases same
    exact ⟨place, (locate_eq_ok disk path place _).mp found⟩
  · intro holds
    obtain ⟨place, held⟩ := holds
    exact ⟨(place, node), (locate_eq_ok disk path place node).mpr held, rfl⟩

theorem exists?_iff (disk : Disk) (path : Path) :
    disk.exists? path = true ↔ ∃ place node, disk.Leads path place ∧ disk.top.at? place = some node := by
  have seen := look_eq_ok disk path
  rw [exists?]
  constructor
  · intro present
    cases found : disk.look path with
    | error error => simp [found, Except.isOk, Except.toBool] at present
    | ok node =>
      obtain ⟨place, held⟩ := (seen node).mp found
      exact ⟨place, node, held⟩
  · intro holds
    obtain ⟨place, node, held⟩ := holds
    rw [(seen node).mpr ⟨place, held⟩]
    rfl

theorem isFile_iff (disk : Disk) (path : Path) :
    disk.isFile path = true ↔ ∃ place content executable, disk.Leads path place ∧
      disk.view place = some (.file content executable) := by
  have seen := look_eq_ok disk path
  rw [isFile]
  constructor
  · intro present
    split at present
    · rename_i content executable found
      obtain ⟨place, leads, held⟩ := (seen _).mp found
      exact ⟨place, content, executable, leads, (view_leaf disk place _ rfl).mpr held⟩
    · cases present
  · intro holds
    obtain ⟨place, content, executable, leads, held⟩ := holds
    rw [(seen _).mpr ⟨place, leads, (view_leaf disk place _ rfl).mp held⟩]

theorem exists_of_isFile {disk : Disk} {path : Path} (file : disk.isFile path = true) : disk.exists? path = true := by
  obtain ⟨place, content, executable, leads, held⟩ := (isFile_iff disk path).mp file
  exact (exists?_iff disk path).mpr ⟨place, _, leads, (view_leaf disk place _ rfl).mp held⟩

theorem isDir_iff (disk : Disk) (path : Path) :
    disk.isDir path = true ↔ ∃ place, disk.Leads path place ∧ disk.view place = some Node.emptyDir := by
  have seen := look_eq_ok disk path
  rw [isDir]
  constructor
  · intro present
    split at present
    · rename_i entries found
      obtain ⟨place, leads, held⟩ := (seen _).mp found
      exact ⟨place, leads, (view_dir disk place).mpr ⟨entries, held⟩⟩
    · cases present
  · intro holds
    obtain ⟨place, leads, held⟩ := holds
    obtain ⟨entries, there⟩ := (view_dir disk place).mp held
    rw [(seen _).mpr ⟨place, leads, there⟩]

theorem canonical_eq_ok (disk : Disk) (path canonical : Path) :
    disk.canonical path = .ok canonical ↔ ∃ place node, disk.Leads path place ∧ disk.top.at? place = some node ∧
      canonical = pathOf place := by
  rw [Disk.canonical, bind_eq_ok]
  constructor
  · intro holds
    obtain ⟨⟨place, node⟩, found, same⟩ := holds
    obtain ⟨leads, held⟩ := (locate_eq_ok disk path place node).mp found
    cases same
    exact ⟨place, node, leads, held, rfl⟩
  · intro holds
    obtain ⟨place, node, leads, held, rfl⟩ := holds
    exact ⟨(place, node), (locate_eq_ok disk path place node).mpr ⟨leads, held⟩, rfl⟩

theorem list_eq_ok (disk : Disk) (path : Path) (entries : Entries) :
    disk.list path = .ok entries ↔ ∃ place, disk.Leads path place ∧ disk.top.at? place = some (.dir entries) := by
  rw [← look_eq_ok, Disk.list, bind_eq_ok]
  constructor
  · intro holds
    obtain ⟨node, seen, same⟩ := holds
    cases node <;> cases same
    exact seen
  · exact fun seen => ⟨_, seen, rfl⟩

end InkProject.Disk
