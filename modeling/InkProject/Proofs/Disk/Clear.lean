import InkProject.Proofs.Disk.Change
/- Ways that keep clear of a place are not changed by what happens there. -/
set_option autoImplicit false

namespace InkProject.Disk

open InkProject.Path Relation

def ComesBy (disk : Disk) (walker : Walker) (place : Place) : Prop :=
  ∃ links above name rest, disk.Way walker ⟨links, above, name :: rest⟩ ∧ above ++ [name] = place

def Keeps (disk after : Disk) (place : Place) : Prop :=
  ∀ other, other ≠ place → disk.view other ≠ none → after.view other = disk.view other

def Walker.spared (walker : Walker) (more : Nat) : Walker := { walker with links := walker.links + more }

section

variable {disk after : Disk} {place : Place}

theorem comesBy_step {a b : Walker} (step : disk.advance a = some b) (comes : disk.ComesBy b place) : disk.ComesBy a place := by
  obtain ⟨links, above, name, rest, way, same⟩ := comes
  exact ⟨links, above, name, rest, .head step way, same⟩

theorem comesBy_here {links : Nat} {above : Place} {name : Bytes} {rest : List Bytes} (same : above ++ [name] = place) :
    disk.ComesBy ⟨links, above, name :: rest⟩ place :=
  ⟨links, above, name, rest, .refl, same⟩

theorem advance_kept (kept : Keeps disk after place) (solid : disk.view place ≠ some Node.emptyDir) (a b : Walker)
    (step : disk.advance a = some b) (clear : ¬ disk.ComesBy a place) : after.advance a = some b := by
  obtain ⟨links, above, ahead⟩ := a
  cases ahead with
  | nil => cases step
  | cons name rest =>
    have elsewhere : above ++ [name] ≠ place := fun same => clear (comesBy_here same)
    obtain ⟨directory, _⟩ := advance_cases b step
    have different : above ≠ place := fun same => solid (same ▸ directory)
    have there : after.view above = some Node.emptyDir := by rw [kept above different (by simp [directory]), directory]
    refine advance_alike there (fun node held => ⟨node, ?_, fun _ => .rfl⟩) step
    rw [kept _ elsewhere (by simp [held]), held]

theorem way_kept (kept : Keeps disk after place) (solid : disk.view place ≠ some Node.emptyDir) (a b : Walker)
    (way : disk.Way a b) (clear : ¬ disk.ComesBy a place) : after.Way a b := by
  induction way using ReflTransGen.head_induction_on with
  | refl => exact .refl
  | @head first next step _ ih =>
    exact .head (advance_kept kept solid first next step clear) (ih fun comes => clear (comesBy_step step comes))

theorem comesBy_kept (kept : Keeps disk after place) (solid : disk.view place ≠ some Node.emptyDir) (a : Walker)
    (links : Nat) (final : Place) (way : disk.Way a ⟨links, final, []⟩) (clear : ¬ disk.ComesBy a place) :
    ¬ after.ComesBy a place := by
  induction way using ReflTransGen.head_induction_on with
  | refl =>
    intro holds
    obtain ⟨left, above, name, rest, way, _⟩ := holds
    rcases ReflTransGen.cases_head way with same | ⟨next, step, _⟩
    · cases same
    · cases step
  | @head first next step _ ih =>
    intro holds
    obtain ⟨left, above, name, rest, way, same⟩ := holds
    rcases ReflTransGen.cases_head way with rfl | ⟨other, also, later⟩
    · exact clear (comesBy_here same)
    · rw [advance_kept kept solid first next step clear, Option.some.injEq] at also
      subst also
      exact ih (fun comes => clear (comesBy_step step comes)) ⟨left, above, name, rest, later, same⟩

theorem leads_kept (kept : Keeps disk after place) (solid : disk.view place ≠ some Node.emptyDir) (path : Path)
    (final : Place) (start : after.starting path = disk.starting path) (leads : disk.Leads path final)
    (clear : ¬ disk.ComesBy (disk.starting path) place) : after.Leads path final := by
  obtain ⟨checked, links, way⟩ := leads
  exact ⟨checked, links, start ▸ way_kept kept solid _ _ way clear⟩

theorem comesBy_end (a : Walker) (links : Nat) (final : Place) (leaf : disk.view final ≠ some Node.emptyDir)
    (ahead : a.ahead ≠ []) (way : disk.Way a ⟨links, final, []⟩) : disk.ComesBy a final := by
  induction way using ReflTransGen.head_induction_on with
  | refl => exact absurd rfl ahead
  | @head first next step rest ih =>
    by_cases going : next.ahead = []
    · have ended : next.place = final := by
        rcases ReflTransGen.cases_head rest with rfl | ⟨other, more, _⟩
        · rfl
        · obtain ⟨left, above, names⟩ := next
          cases going
          cases more
      obtain ⟨left, above, names⟩ := first
      cases names with
      | nil => exact absurd rfl ahead
      | cons name others =>
        obtain ⟨directory, cases⟩ := advance_cases next step
        rcases cases with ⟨_, rfl⟩ | ⟨_, rfl⟩ | ⟨_, _, _, _, rfl⟩ | ⟨_, target, _, jumped⟩
        · exact absurd (ended ▸ directory) leaf
        · exact absurd (ended ▸ disk.dir_dropLast above directory) leaf
        · exact ⟨left, above, name, others, .refl, ended⟩
        · have start : disk.view next.place = some Node.emptyDir := by
            cases left with
            | zero => cases jumped
            | succ left =>
              cases jumped
              rw [startOf]
              split
              · exact disk.view_nil
              · exact directory
          exact absurd (ended ▸ start) leaf
    · exact comesBy_step step (ih going)

theorem leads_comesBy {path : Path} {final : Place} (leads : disk.Leads path final)
    (leaf : disk.view final ≠ some Node.emptyDir) : disk.ComesBy (disk.starting path) final := by
  have ahead := (leads_ahead leads leaf).2
  obtain ⟨_, links, way⟩ := leads
  exact comesBy_end _ links final leaf ahead way

theorem clear_of_vacant (name : Bytes) (proper : Proper name) (vacant : disk.view (place ++ [name]) = none) (a : Walker)
    (links : Nat) (final : Place) (way : disk.Way a ⟨links, final, []⟩) : ¬ disk.ComesBy a (place ++ [name]) := by
  intro holds
  obtain ⟨left, above, other, rest, before, same⟩ := holds
  obtain ⟨rfl, last⟩ := List.append_inj' same rfl
  cases last
  rcases ReflTransGen.cases_head (way_through disk a _ links final way before) with stopped | ⟨next, step, _⟩
  · cases stopped
  · obtain ⟨directory, _⟩ := advance_cases next step
    rw [advance_proper proper directory, vacant] at step
    cases step

theorem leaf_kept (kept : Keeps disk after place) (solid : disk.view place ≠ some Node.emptyDir) (path : Path)
    (final : Place) (node : Node) (start : after.starting path = disk.starting path) (leads : disk.Leads path final)
    (held : disk.view final = some node) (leaf : node.isDir = false)
    (clear : ¬ disk.ComesBy (disk.starting path) place) :
    after.Leads path final ∧ after.view final = some node := by
  have no_directory := leaf_solid held leaf
  have elsewhere : final ≠ place := by
    rintro rfl
    exact clear (leads_comesBy leads no_directory)
  exact ⟨leads_kept kept solid path final start leads clear, (kept final elsewhere (by simp [held])).trans held⟩

theorem isFile_taken (name : Bytes) (proper : Proper name) (kept : Keeps disk after (place ++ [name]))
    (back : Keeps after disk (place ++ [name])) (vacant : after.view (place ++ [name]) = none)
    (solid : disk.view (place ++ [name]) ≠ some Node.emptyDir) (path : Path)
    (start : after.starting path = disk.starting path) :
    after.isFile path = true ↔
      disk.isFile path = true ∧ ¬ disk.ComesBy (disk.starting path) (place ++ [name]) := by
  simp only [isFile_iff]
  constructor
  · intro holds
    obtain ⟨final, content, executable, leads, held⟩ := holds
    obtain ⟨checked, links, way⟩ := leads
    have clear := clear_of_vacant name proper vacant _ links final way
    have none_there : after.view (place ++ [name]) ≠ some Node.emptyDir := by simp [vacant]
    have elsewhere : final ≠ place ++ [name] := by
      rintro rfl
      rw [vacant] at held
      cases held
    have leads := leads_kept back none_there path final start.symm ⟨checked, links, way⟩ clear
    have same := back final elsewhere (by simp [held])
    refine ⟨⟨final, content, executable, leads, same.trans held⟩, ?_⟩
    rw [← start]
    exact comesBy_kept back none_there _ links final way clear
  · intro holds
    obtain ⟨⟨final, content, executable, leads, held⟩, clear⟩ := holds
    obtain ⟨leads, same⟩ := leaf_kept kept solid path final _ start leads held rfl clear
    exact ⟨final, content, executable, leads, same⟩

theorem advance_spared (more : Nat) (a b : Walker) (step : disk.advance a = some b) :
    disk.advance (a.spared more) = some (b.spared more) := by
  obtain ⟨links, above, ahead⟩ := a
  cases ahead with
  | nil => cases step
  | cons name rest =>
    obtain ⟨directory, cases⟩ := advance_cases b step
    rcases cases with ⟨here, rfl⟩ | ⟨rfl, rfl⟩ | ⟨proper, node, held, leaf, rfl⟩ | ⟨proper, target, held, jumped⟩
    · exact advance_stay here directory
    · exact advance_up directory
    · exact advance_down proper directory node held leaf
    · refine (advance_jump proper directory target held).trans ?_
      cases links with
      | zero => cases jumped
      | succ links =>
        cases jumped
        rw [Nat.succ_add]
        rfl

theorem way_spared (more : Nat) (a b : Walker) (way : disk.Way a b) : disk.Way (a.spared more) (b.spared more) := by
  induction way using ReflTransGen.head_induction_on with
  | refl => exact .refl
  | head step _ ih => exact .head (advance_spared more _ _ step) ih

theorem way_links (a b : Walker) (way : disk.Way a b) : b.links ≤ a.links := by
  induction way using ReflTransGen.head_induction_on with
  | refl => exact Nat.le_refl _
  | @head first next step _ ih =>
    refine Nat.le_trans ih ?_
    obtain ⟨links, above, ahead⟩ := first
    cases ahead with
    | nil => cases step
    | cons name rest =>
      obtain ⟨_, ⟨_, rfl⟩ | ⟨_, rfl⟩ | ⟨_, _, _, _, rfl⟩ | ⟨_, target, _, jumped⟩⟩ := advance_cases next step
      · exact Nat.le_refl _
      · exact Nat.le_refl _
      · exact Nat.le_refl _
      · cases links with
        | zero => cases jumped
        | succ links =>
          cases jumped
          exact Nat.le_succ links

theorem way_end (above : Place) (ahead : List Bytes) (l m left spare : Nat) (x y : Place)
    (first : disk.Way ⟨l, above, ahead⟩ ⟨left, x, []⟩) (second : disk.Way ⟨m, above, ahead⟩ ⟨spare, y, []⟩) : x = y := by
  have more := way_spared m _ _ first
  have also := way_spared l _ _ second
  rw [Walker.spared, Walker.spared] at more also
  rw [Nat.add_comm m l] at also
  exact (way_unique disk _ _ _ _ _ more also).2

end

section

variable {disk : Disk} {place final : Place} {name : Bytes}

theorem way_past (links left spare : Nat) (other : Place) (rest : List Bytes)
    (leaf : disk.view final ≠ some Node.emptyDir) (way : disk.Way ⟨links, place, [name]⟩ ⟨left, final, []⟩) (more : Nat)
    (past : disk.Way ⟨more, place, name :: rest⟩ ⟨spare, other, []⟩) : rest = [] ∧ other = final := by
  obtain ⟨between, there, before, after⟩ := way_split disk ⟨more, place, [name]⟩ rest spare other past
  obtain rfl := way_end place [name] more links between left there final before way
  rcases ReflTransGen.cases_head after with same | ⟨next, step, _⟩
  · cases same
    exact ⟨rfl, rfl⟩
  · cases rest with
    | nil => cases step
    | cons other rest => exact absurd (advance_cases next step).1 leaf

theorem clear_of_leaf (links left spare : Nat) (other : Place) (leaf : disk.view final ≠ some Node.emptyDir)
    (way : disk.Way ⟨links, place, [name]⟩ ⟨left, final, []⟩) (a : Walker) (whole : disk.Way a ⟨spare, other, []⟩)
    (different : other ≠ final) : ¬ disk.ComesBy a (place ++ [name]) := by
  intro holds
  obtain ⟨more, above, last, rest, before, same⟩ := holds
  obtain ⟨rfl, tail⟩ := List.append_inj' same rfl
  cases tail
  have past := way_through disk a _ spare other whole before
  exact different (way_past links left spare other rest leaf way more past).2

-- A link that leads somewhere also does so by a way that does not come by the link again:
-- each time that it does, the rest is a way with fewer links.
theorem clear_jump (target : Bytes) (proper : Proper name) (held : disk.view (place ++ [name]) = some (.link target))
    (leaf : disk.view final ≠ some Node.emptyDir) (links left : Nat)
    (way : disk.Way ⟨links, startOf target place, steps target⟩ ⟨left, final, []⟩) :
    ∃ fewer spare, fewer ≤ links ∧ disk.Way ⟨fewer, startOf target place, steps target⟩ ⟨spare, final, []⟩ ∧
      ¬ disk.ComesBy ⟨fewer, startOf target place, steps target⟩ (place ++ [name]) := by
  induction links using Nat.strongRecOn generalizing left with
  | _ links ih =>
    by_cases clear : disk.ComesBy ⟨links, startOf target place, steps target⟩ (place ++ [name])
    · obtain ⟨more, above, last, rest, before, same⟩ := clear
      obtain ⟨rfl, tail⟩ := List.append_inj' same rfl
      cases tail
      have bound := way_links _ _ before
      rcases ReflTransGen.cases_head (way_through disk _ _ left final way before) with stopped | ⟨next, step, after⟩
      · cases stopped
      have directory := (advance_cases next step).1
      rw [advance_jump proper directory target held] at step
      cases more with
      | zero => cases step
      | succ fewer =>
        cases step
        obtain ⟨spare, between, inner, _⟩ := way_split disk ⟨fewer, startOf target above, steps target⟩ rest left final after
        obtain rfl := way_end _ _ fewer links spare left between final inner way
        obtain ⟨least, spare, less, clear⟩ := ih fewer (Nat.lt_of_succ_le bound) spare inner
        exact ⟨least, spare, Nat.le_trans less (Nat.le_of_succ_le bound), clear⟩
    · exact ⟨links, left, Nat.le_refl links, way, clear⟩

end

section

variable {disk : Disk} {place final : Place} {name : Bytes} {rest : List Bytes} {path directory : Path} {links left : Nat}

theorem way_held (way : disk.Way ⟨links, place, name :: rest⟩ ⟨left, final, []⟩) : disk.view final ≠ none := by
  rcases ReflTransGen.cases_tail way with same | ⟨⟨more, above, ahead⟩, _, step⟩
  · cases same
  cases ahead with
  | nil => cases step
  | cons name rest =>
    obtain ⟨top, moves⟩ := advance_cases _ step
    rcases moves with ⟨_, same⟩ | ⟨_, same⟩ | ⟨_, node, held, _, same⟩ | ⟨_, target, _, jumped⟩
    · cases same
      simp [top]
    · cases same
      simp [disk.dir_dropLast above top]
    · cases same
      simp [held]
    · cases more with
      | zero => cases jumped
      | succ more =>
        rw [Walker.jump, Option.some.injEq, Walker.mk.injEq] at jumped
        rw [← jumped.2.1, startOf]
        split
        · simp [disk.view_nil]
        · simp [top]

-- A name that leads to nothing is on no path that leads to something: all links are left to
-- whoever is in the directory already.
theorem clear_of_unused (reaches : disk.Reaches directory linkLimit place) (filled : name ≠ []) (single : slash ∉ name)
    (checked : checkPath (directory.child name) = .ok ()) (unused : disk.exists? (directory.child name) = false)
    (leads : disk.Leads path final) : ¬ disk.ComesBy (disk.starting path) (place ++ [name]) := by
  rintro ⟨links, above, last, rest, before, same⟩
  obtain ⟨rfl, tail⟩ := List.append_inj' same rfl
  cases tail
  obtain ⟨_, left, way⟩ := leads
  have onward := way_through disk _ _ left final way before
  obtain ⟨spare, middle, there, _⟩ := way_split disk ⟨links, above, [name]⟩ rest left final onward
  have fewer : links ≤ linkLimit := way_links _ _ before
  have spared := way_spared (linkLimit - links) _ _ there
  rw [Walker.spared, Walker.spared, Nat.add_sub_cancel' fewer] at spared
  have found := (leads_child reaches filled single).mpr ⟨checked, _, spared⟩
  obtain ⟨node, held⟩ := Option.ne_none_iff_exists'.mp (mt (Entries.view_eq_none disk.top _).mpr (way_held there))
  rw [(exists?_iff disk _).mpr ⟨_, node, found, held⟩] at unused
  cases unused

end

section

variable {disk after : Disk} {old new : Place}

theorem leaf_below {node : Node} {more : Place} (held : disk.view old = some node) (leaf : node.isDir = false)
    (there : disk.view (old ++ more) ≠ none) : more = [] := by
  refine Classical.byContradiction fun below => there ?_
  exact disk.view_below_leaf old more node leaf held below

theorem removed_keeps {node : Node} (ordered : disk.top.Ordered) (filled : old ≠ []) (held : disk.view old = some node)
    (leaf : node.isDir = false) : (disk.set old none).view old = none ∧ Keeps disk (disk.set old none) old ∧
      Keeps (disk.set old none) disk old := by
  have seen (other : Place) := view_removed ordered filled other
  refine ⟨by simp [seen], fun other different there => ?_, fun other different there => ?_⟩
  · have outside : ¬ old <+: other := by
      intro holds
      obtain ⟨more, rfl⟩ := holds
      exact different (by simp [leaf_below held leaf there])
    rw [seen, if_neg outside]
  · have outside : ¬ old <+: other := fun inside => there (by rw [seen, if_pos inside])
    rw [seen, if_neg outside]

theorem dir_not_leaf {node : Node} {place : Place} (held : disk.view old = some node) (leaf : node.isDir = false)
    (directory : disk.view place = some Node.emptyDir) : ¬ old <+: place := by
  exact fun inside => leaf_solid held leaf (dir_above old place inside directory)

theorem startOf_moved {node : Node} (held : disk.view old = some node) (leaf : node.isDir = false) (bytes : Bytes)
    (directory : disk.view (startOf bytes disk.cwd) = some Node.emptyDir) :
    startOf bytes (moveWorking old new disk.cwd) = startOf bytes disk.cwd := by
  by_cases absolute : bytes.head? = some slash
  · rw [startOf, startOf, if_pos absolute, if_pos absolute]
  · rw [startOf, if_neg absolute] at directory
    have outside := dir_not_leaf held leaf directory
    rw [startOf, startOf, if_neg absolute, if_neg absolute, moveWorking, if_neg (by simpa [List.isPrefixOf_iff_prefix])]

theorem Renamed.gone (renamed : Renamed disk after old new) (different : old ≠ new) : after.view old = none := by
  have apart := renamed.apart.resolve_left different
  rw [renamed.view, if_neg apart.2, if_pos List.prefix_rfl]

theorem Renamed.arrived (renamed : Renamed disk after old new) (more : Place) :
    after.view (new ++ more) = disk.view (old ++ more) := by
  rw [renamed.view, if_pos (List.prefix_append new more), List.drop_left]

theorem Renamed.arrived_self (renamed : Renamed disk after old new) : after.view new = disk.view old := by
  have arrived := renamed.arrived []
  rwa [List.append_nil, List.append_nil] at arrived

theorem Renamed.keeps {node : Node} (renamed : Renamed disk after old new) (held : disk.view old = some node)
    (leaf : node.isDir = false) (vacant : disk.view new = none) : Keeps disk after old := by
  intro other different there
  have aside : ¬ new <+: other := fun inside => held_above new other inside there vacant
  have outside : ¬ old <+: other := by
    intro holds
    obtain ⟨more, rfl⟩ := holds
    exact different (by simp [leaf_below held leaf there])
  rw [renamed.view, if_neg aside, if_neg outside]

theorem Renamed.back {node : Node} (renamed : Renamed disk after old new) (held : disk.view old = some node)
    (leaf : node.isDir = false) (same : after.view new = disk.view new) : Keeps after disk old := by
  intro other different there
  by_cases inside : new <+: other
  · obtain ⟨more, rfl⟩ := inside
    rw [renamed.arrived] at there
    rw [leaf_below held leaf there, List.append_nil, same]
  · have outside : ¬ old <+: other := fun below => there (by rw [renamed.view, if_neg inside, if_pos below])
    rw [renamed.view, if_neg inside, if_neg outside]

end

end InkProject.Disk
