import InkProject.Proofs.Disk.Change
set_option autoImplicit false

namespace InkProject

mutual
def Node.Every (holds : Bytes → Node → Prop) : Node → Prop
  | .file _ _ | .link _ | .device _ => True
  | .dir entries => entries.Every holds

def Entries.Every (holds : Bytes → Node → Prop) : Entries → Prop
  | .nil => True
  | .cons name node rest => holds name node.bare ∧ node.Every holds ∧ rest.Every holds
end

section

variable {holds : Bytes → Node → Prop}

mutual
def Node.decideEvery [decision : ∀ name node, Decidable (holds name node)] : (node : Node) → Decidable (node.Every holds)
  | .file _ _ | .link _ | .device _ => isTrue trivial
  | .dir entries => entries.decideEvery

def Entries.decideEvery [decision : ∀ name node, Decidable (holds name node)] :
    (entries : Entries) → Decidable (entries.Every holds)
  | .nil => isTrue trivial
  | .cons _ node rest => match decision _ node.bare, node.decideEvery, rest.decideEvery with
    | isTrue here, isTrue below, isTrue beside => isTrue ⟨here, below, beside⟩
    | isFalse not, _, _ => isFalse fun all => not all.1
    | _, isFalse not, _ => isFalse fun all => not all.2.1
    | _, _, isFalse not => isFalse fun all => not all.2.2
end

instance [∀ name node, Decidable (holds name node)] (entries : Entries) : Decidable (entries.Every holds) :=
  entries.decideEvery

end

mutual
def Node.decideOrdered : (node : Node) → Decidable node.Ordered
  | .file _ _ | .link _ | .device _ => isTrue trivial
  | .dir entries => entries.decideOrdered

def Entries.decideOrdered : (entries : Entries) → Decidable entries.Ordered
  | .nil => isTrue trivial
  | .cons name node rest =>
    match (inferInstance : Decidable (∀ other ∈ rest.names, name < other)), node.decideOrdered, rest.decideOrdered with
    | isTrue least, isTrue below, isTrue beside => isTrue ⟨least, below, beside⟩
    | isFalse not, _, _ => isFalse fun all => not all.1
    | _, isFalse not, _ => isFalse fun all => not all.2.1
    | _, _, isFalse not => isFalse fun all => not all.2.2
end

instance (entries : Entries) : Decidable entries.Ordered := entries.decideOrdered

namespace Entries

variable {holds : Bytes → Node → Prop}

theorem every_find? (entries : Entries) (name : Bytes) (node : Node) (all : entries.Every holds)
    (held : entries.find? name = some node) : holds name node.bare ∧ node.Every holds := by
  match entries with
  | .nil => simp [find?] at held
  | .cons other first rest =>
    rw [Entries.Every] at all
    by_cases same : name = other
    · rw [find?, if_pos same, Option.some.injEq] at held
      exact same ▸ held ▸ ⟨all.1, all.2.1⟩
    · rw [find?, if_neg same] at held
      exact every_find? rest name node all.2.2 held

theorem every_view (entries : Entries) (all : entries.Every holds) (place : Place) (name : Bytes) (node : Node)
    (held : entries.view (place ++ [name]) = some node) : holds name node := by
  induction place generalizing entries with
  | nil =>
    rw [List.nil_append, view_cons] at held
    obtain ⟨found, member, same⟩ := Option.bind_eq_some_iff.mp held
    rw [Node.view_nil, Option.some.injEq] at same
    exact same ▸ (every_find? entries name found all member).1
  | cons first rest ih =>
    rw [List.cons_append, view_cons] at held
    obtain ⟨found, member, inside⟩ := Option.bind_eq_some_iff.mp held
    rcases found.dir_or_leaf with ⟨inner, rfl⟩ | leaf
    · have below := (every_find? entries first _ all member).2
      rw [Node.Every] at below
      exact ih inner below inside
    · rw [Node.view_leaf found leaf, if_neg (by simp)] at inside
      cases inside

end Entries

namespace Disk

open InkProject.Path

structure WellFormed (disk : Disk) : Prop where
  ordered : disk.top.Ordered
  named : ∀ place name, disk.view (place ++ [name]) ≠ none → EntryName name

structure Plain (disk : Disk) : Prop extends WellFormed disk where
  solid : ∀ place node, disk.view place = some node →
    node = Node.emptyDir ∨ ∃ content executable, node = .file content executable

def PlainEntry (name : Bytes) (node : Node) : Prop :=
  EntryName name ∧ match node with
    | .dir _ | .file _ _ => True
    | .link _ | .device _ => False

instance (name : Bytes) (node : Node) : Decidable (PlainEntry name node) := by
  cases node <;> exact inferInstanceAs (Decidable (_ ∧ _))

section

variable {disk after : Disk} {place old new : Place}

theorem wellFormed_of_every {holds : Bytes → Node → Prop} (names : ∀ name node, holds name node → EntryName name)
    (ordered : disk.top.Ordered) (entries : disk.top.Every holds) : disk.WellFormed where
  ordered := ordered
  named place name held := by
    obtain ⟨node, found⟩ := Option.ne_none_iff_exists'.mp held
    exact names name node (Entries.every_view disk.top entries place name node found)

theorem wellFormed_of_names (ordered : disk.top.Ordered) (named : disk.top.Every fun name _ => EntryName name) :
    disk.WellFormed := wellFormed_of_every (fun _ _ entry => entry) ordered named

theorem plain_of_every (ordered : disk.top.Ordered) (entries : disk.top.Every PlainEntry) : disk.Plain where
  toWellFormed := wellFormed_of_every (fun _ _ entry => entry.1) ordered entries
  solid place node held := by
    rcases List.eq_nil_or_concat place with rfl | ⟨above, name, rfl⟩
    · rw [view, Entries.view_nil, Option.some.injEq] at held
      exact .inl held.symm
    · rw [List.concat_eq_append] at held
      have entry := (Entries.every_view disk.top entries above name node held).2
      cases node with
      | dir inner =>
        have bare : inner = .nil := by
          rw [view, Entries.view] at held
          obtain ⟨found, _, same⟩ := Option.map_eq_some_iff.mp held
          cases found <;> simp_all [Node.bare]
        exact .inl (bare ▸ rfl)
      | file content executable => exact .inr ⟨content, executable, rfl⟩
      | link target => exact absurd entry id
      | device device => exact absurd entry id

theorem WellFormed.names (formed : disk.WellFormed) (place : Place) (held : disk.view place ≠ none) :
    ∀ name ∈ place, EntryName name := by
  intro name member
  obtain ⟨before, later, rfl⟩ := List.append_of_mem member
  apply formed.named before name
  exact held_above _ (before ++ name :: later) ⟨later, by simp⟩ held

theorem EntryName.proper {name : Bytes} (named : EntryName name) : Proper name :=
  ⟨named.filled, named.not_dot, named.not_dots, named.short⟩

-- Directories that really stand one in the other are walked through one by one.
theorem way_real (formed : disk.WellFormed) (links : Nat) (a b : Place) (more : List Bytes)
    (directory : disk.view (a ++ b) = some Node.emptyDir) :
    disk.Way ⟨links, a, b ++ more⟩ ⟨links, a ++ b, more⟩ := by
  induction b generalizing a with
  | nil => rw [List.append_nil, List.nil_append]; exact .refl
  | cons name rest ih =>
    rw [show a ++ name :: rest = a ++ [name] ++ rest by simp] at directory ⊢
    have below := dir_above (a ++ [name]) _ ⟨rest, rfl⟩ directory
    have proper := (formed.named a name (by simp [below])).proper
    have here := disk.view_parent a name (by simp [below])
    exact .head (advance_down proper here _ below (by simp)) (ih (a ++ [name]) directory)

theorem checkPath_pathOf (place : Place) (named : ∀ name ∈ place, 0 ∉ name) :
    checkPath (pathOf place) = .ok () ↔ (pathOf place).bytes.length < pathLimit := by
  have plain : 0 ∉ glue place := by
    induction place with
    | nil => simp [glue]
    | cons name rest ih =>
      have here := named name (by simp)
      have later := ih fun other member => named other (by simp [member])
      by_cases last : rest = []
      · simpa [last, glue] using here
      · rw [glue_cons name rest last]
        simp [here, later, slash]
  rw [checkPath_ok]
  simp [pathOf_bytes, plain, slash]

theorem reaches_pathOf (formed : disk.WellFormed) (directory : disk.view place = some Node.emptyDir) :
    disk.Reaches (pathOf place) linkLimit place where
  filled := by simp [pathOf_bytes]
  way := by
    have named := formed.names place (by simp [directory])
    rw [names_pathOf place fun name member => ⟨(named name member).filled, (named name member).single⟩, startOf_pathOf]
    simpa using way_real formed linkLimit [] place [] directory

theorem leads_dir (formed : disk.WellFormed) (directory : disk.view place = some Node.emptyDir)
    (short : (pathOf place).bytes.length < pathLimit) : disk.Leads (pathOf place) place := by
  have named := formed.names place (by simp [directory])
  have single : ∀ name ∈ place, name ≠ [] ∧ slash ∉ name :=
    fun name member => ⟨(named name member).filled, (named name member).single⟩
  have way := (reaches_pathOf formed directory).way
  refine ⟨(checkPath_pathOf place fun name member => (named name member).plain).mpr short, linkLimit, ?_⟩
  rw [starting, steps_pathOf place single]
  rwa [names_pathOf place single] at way

theorem child_of_dir {name : Bytes} (formed : disk.WellFormed) (directory : disk.view place = some Node.emptyDir)
    (single : slash ∉ name) : (pathOf place).child name = pathOf (place ++ [name]) := by
  have named := formed.names place (by simp [directory])
  refine child_pathOf place name (fun other member => ?_) (fun head => single (List.mem_of_head? head))
  exact ⟨(named other member).filled, (named other member).single⟩

end

section

variable {disk : Disk} {place : Place} {name : Bytes}

theorem Plain.no_link (plain : disk.Plain) (place : Place) (target : Bytes) : disk.view place ≠ some (.link target) := by
  intro held
  rcases plain.solid place _ held with bad | ⟨_, _, bad⟩ <;> cases bad

theorem way_child (plain : disk.Plain) (directory : disk.view place = some Node.emptyDir) (links left : Nat)
    (final : Place) (way : disk.Way ⟨links, place, [name]⟩ ⟨left, final, []⟩) :
    disk.view final = some Node.emptyDir ∨ Proper name ∧ final = place ++ [name] ∧ disk.view final ≠ none := by
  rcases Relation.ReflTransGen.cases_head way with same | ⟨next, step, rest⟩
  · cases same
  obtain ⟨_, ⟨_, rfl⟩ | ⟨_, rfl⟩ | ⟨proper, node, held, _, rfl⟩ | ⟨_, target, held, _⟩⟩ := advance_cases next step
  · rw [(way_unique disk _ _ _ _ _ rest .refl).2]
    exact .inl directory
  · rw [(way_unique disk _ _ _ _ _ rest .refl).2]
    exact .inl (disk.dir_dropLast place directory)
  · rw [(way_unique disk _ _ _ _ _ rest .refl).2]
    exact .inr ⟨proper, rfl, by simp [held]⟩
  · exact absurd held (plain.no_link _ target)

theorem leads_child_plain (plain : disk.Plain) (held : disk.view (place ++ [name]) ≠ none)
    (short : ((pathOf place).child name).bytes.length < pathLimit) :
    disk.Leads ((pathOf place).child name) (place ++ [name]) := by
  have named := plain.names _ held
  have last := named name (by simp)
  have directory := disk.view_parent place name held
  have path := child_of_dir plain.toWellFormed directory last.single
  refine (leads_child (reaches_pathOf plain.toWellFormed directory) last.filled last.single).mpr ⟨?_, linkLimit, ?_⟩
  · rw [path] at short ⊢
    exact (checkPath_pathOf _ fun other member => (named other member).plain).mpr short
  · obtain ⟨node, found⟩ := Option.ne_none_iff_exists'.mp held
    refine .single (advance_down last.proper directory node found ?_)
    rintro target rfl
    exact plain.no_link _ target found

theorem isFile_child (plain : disk.Plain) (directory : disk.view place = some Node.emptyDir) (filled : name ≠ [])
    (single : slash ∉ name) :
    disk.isFile ((pathOf place).child name) = true ↔
      (∃ content executable, disk.view (place ++ [name]) = some (.file content executable)) ∧
        ((pathOf place).child name).bytes.length < pathLimit := by
  rw [isFile_iff]
  constructor
  · intro holds
    obtain ⟨final, content, executable, leads, held⟩ := holds
    obtain ⟨checked, left, way⟩ := (leads_child (reaches_pathOf plain.toWellFormed directory) filled single).mp leads
    rcases way_child plain directory _ _ _ way with bad | ⟨_, rfl, _⟩
    · rw [held] at bad
      cases bad
    · exact ⟨⟨content, executable, held⟩, ((checkPath_ok _).mp checked).2.2⟩
  · intro holds
    obtain ⟨⟨content, executable, held⟩, short⟩ := holds
    exact ⟨_, content, executable, leads_child_plain plain (by simp [held]) short, held⟩

end

section

variable {disk after : Disk} {path : Path} {old new : Place}

theorem endsAt_entry (ends : disk.EndsAt path new) : ∃ above name, new = above ++ [name] ∧ EntryName name := by
  obtain ⟨above, name, rfl, proper⟩ := endsAt_proper ends
  refine ⟨above, name, rfl, proper.filled, ?_, ?_, proper.not_dot, proper.not_dots, proper.short⟩
  all_goals
    obtain ⟨parent, last, slashed, found, _, same⟩ := ends
    obtain ⟨_, tail⟩ := List.append_inj' same rfl
    cases tail
    obtain ⟨checked, _, _, _, shape⟩ := (ending_eq_ok _ _).mp found
    rw [Ending.mk.injEq] at shape
    have member := List.mem_of_getLast? (Option.filter_eq_some_iff.mp shape.2.1.symm).1
    rw [Path.names, List.mem_filter] at member
  · exact segment_single path.bytes name member.1
  · exact fun nul => ((checkPath_ok path).mp checked).1 (segment_bytes path.bytes name member.1 0 nul)

theorem endsAt_pathOf {place : Place} (formed : disk.WellFormed) (directory : disk.view place = some Node.emptyDir)
    (ends : disk.EndsAt (pathOf place) old) : old = place := by
  have named := formed.names place (by simp [directory])
  rcases List.eq_nil_or_concat place with rfl | ⟨above, name, rfl⟩
  · obtain ⟨parent, name, _, found, _, _⟩ := ends
    obtain ⟨_, _, _, _, same⟩ := (ending_eq_ok _ _).mp found
    cases same
  · rw [List.concat_eq_append] at directory named ends ⊢
    have last := named name (by simp)
    have top := disk.view_parent above name (by simp [directory])
    rw [← child_of_dir formed top last.single] at ends
    exact (endsAt_child (reaches_pathOf formed top) last.filled last.single ends).2.2

theorem Renamed.wellFormed (renamed : Renamed disk after old new) (formed : disk.WellFormed)
    (last : ∃ above name, new = above ++ [name] ∧ EntryName name) : after.WellFormed where
  ordered := renamed.ordered
  named place name held := by
    rw [renamed.view] at held
    split at held
    · rename_i inside
      obtain ⟨more, whole⟩ := inside
      rcases List.eq_nil_or_concat more with rfl | ⟨before, final, rfl⟩
      · obtain ⟨above, other, rfl, entry⟩ := last
        rw [List.append_nil] at whole
        obtain ⟨_, same⟩ := List.append_inj' whole rfl
        cases same
        exact entry
      · rw [List.concat_eq_append, ← List.append_assoc] at whole
        obtain ⟨rfl, same⟩ := List.append_inj' whole rfl
        cases same
        rw [List.append_assoc, List.drop_left, ← List.append_assoc] at held
        exact formed.named _ name held
    · split at held
      · exact absurd rfl held
      · exact formed.named place name held

theorem Renamed.plain (renamed : Renamed disk after old new) (plain : disk.Plain)
    (last : ∃ above name, new = above ++ [name] ∧ EntryName name) : after.Plain where
  toWellFormed := renamed.wellFormed plain.toWellFormed last
  solid place node held := by
    rw [renamed.view] at held
    split at held
    · exact plain.solid _ node held
    · split at held
      · cases held
      · exact plain.solid place node held

theorem removed_plain (plain : disk.Plain) (filled : old ≠ []) : (disk.set old none).Plain where
  ordered := Entries.ordered_set disk.top old none plain.ordered (by simp)
  named place name held := by
    rw [view_removed plain.ordered filled] at held
    split at held
    · exact absurd rfl held
    · exact plain.named place name held
  solid place node held := by
    rw [view_removed plain.ordered filled] at held
    split at held
    · cases held
    · exact plain.solid place node held

theorem file_endsAt (plain : disk.Plain) {place : Place} (leads : disk.Leads path place)
    (leaf : disk.view place ≠ some Node.emptyDir) : disk.EndsAt path place := by
  obtain ⟨parent, name, found, proper, same | ⟨target, link⟩⟩ := leads_leaf leads leaf
  · exact ⟨parent, name, false, found, proper.short, same⟩
  · exact absurd link (plain.no_link _ target)

end

end Disk

end InkProject
