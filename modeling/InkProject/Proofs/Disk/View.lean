import InkProject.Disk.Tree
/- A tree of directories seen as what stands at each place. A change at one place is seen
   at that place and below it only. -/
set_option autoImplicit false

namespace InkProject

def Node.bare : Node → Node
  | .dir _ => .dir .nil
  | node => node

def Node.at? (place : Place) : Node → Option Node
  | .dir inner => inner.at? place
  | node => if place.isEmpty then some node else none

def Node.view (node : Node) (place : Place) : Option Node := (node.at? place).map Node.bare

def Entries.view (entries : Entries) (place : Place) : Option Node := (entries.at? place).map Node.bare

abbrev Node.emptyDir : Node := .dir .nil

namespace Node

@[simp] theorem bare_dir (entries : Entries) : (Node.dir entries).bare = emptyDir := rfl

theorem dir_or_leaf (node : Node) : (∃ inner, node = .dir inner) ∨ node.isDir = false := by
  cases node with
  | dir inner => exact .inl ⟨inner, rfl⟩
  | file | link | device => exact .inr rfl

theorem bare_leaf (node : Node) (leaf : node.isDir = false) : node.bare = node := by
  cases node <;> simp_all [Node.bare, Node.isDir]

theorem at?_nil (node : Node) : node.at? [] = some node := by
  cases node with
  | dir inner => cases inner <;> rfl
  | file | link | device => rfl

theorem at?_leaf (node : Node) (leaf : node.isDir = false) (place : Place) (below : place ≠ []) :
    node.at? place = none := by
  cases node <;> simp_all [Node.at?, Node.isDir]

theorem view_nil (node : Node) : node.view [] = some node.bare := by rw [Node.view, at?_nil]; rfl

theorem view_dir (inner : Entries) (place : Place) : (Node.dir inner).view place = inner.view place := rfl

theorem view_leaf (node : Node) (leaf : node.isDir = false) (place : Place) :
    node.view place = if place = [] then some node else none := by
  by_cases here : place = []
  · rw [here, view_nil, bare_leaf node leaf]
    rfl
  · rw [Node.view, at?_leaf node leaf place here, if_neg here]
    rfl

end Node

namespace Entries

@[simp] theorem at?_nil (entries : Entries) : entries.at? [] = some (.dir entries) := by
  cases entries <;> rfl

theorem at?_cons (entries : Entries) (name : Bytes) (place : Place) :
    entries.at? (name :: place) = (entries.find? name).bind (Node.at? place) := by
  cases entries with
  | nil => rfl
  | cons other node rest =>
    rw [Entries.at?]
    cases (Entries.cons other node rest).find? name with
    | none => rfl
    | some found => cases found <;> rfl

theorem at?_append (entries : Entries) (a b : Place) :
    entries.at? (a ++ b) = (entries.at? a).bind (Node.at? b) := by
  induction a generalizing entries with
  | nil => simp [Node.at?]
  | cons name rest ih =>
    rw [List.cons_append, at?_cons, at?_cons]
    cases entries.find? name with
    | none => rfl
    | some node =>
      rcases node.dir_or_leaf with ⟨inner, rfl⟩ | leaf
      · exact ih inner
      · cases rest with
        | nil => simp [Node.at?_nil]
        | cons next others => simp [Node.at?_leaf node leaf]

theorem at?_child (entries inner : Entries) (place : Place) (name : Bytes)
    (directory : entries.at? place = some (.dir inner)) : entries.at? (place ++ [name]) = inner.find? name := by
  rw [at?_append, directory, Option.bind_some, Node.at?, at?_cons]
  cases inner.find? name with
  | none => rfl
  | some node => exact Node.at?_nil node

theorem view_append (entries : Entries) (a b : Place) :
    entries.view (a ++ b) = (entries.at? a).bind fun node => node.view b := by
  rw [view, at?_append]
  cases entries.at? a <;> rfl

theorem view_eq_dir (entries : Entries) (place : Place) :
    entries.view place = some Node.emptyDir ↔ ∃ inner, entries.at? place = some (.dir inner) := by
  rw [view]
  cases entries.at? place with
  | none => simp
  | some node =>
    rcases node.dir_or_leaf with ⟨inner, rfl⟩ | leaf
    · simp
    · simp only [Option.map_some, Node.bare_leaf node leaf, Option.some.injEq]
      constructor
      · rintro rfl
        exact ⟨.nil, rfl⟩
      · intro holds
        obtain ⟨inner, rfl⟩ := holds
        exact absurd leaf (by simp [Node.isDir])

theorem view_eq_leaf (entries : Entries) (place : Place) (node : Node) (leaf : node.isDir = false) :
    entries.view place = some node ↔ entries.at? place = some node := by
  rw [view]
  cases entries.at? place with
  | none => simp
  | some found =>
    rcases found.dir_or_leaf with ⟨inner, rfl⟩ | plain
    · have different (other : Entries) : Node.dir other ≠ node := by
        rintro rfl
        exact absurd leaf (by simp [Node.isDir])
      simp [different]
    · rw [Option.map_some, Node.bare_leaf found plain]

theorem view_eq_none (entries : Entries) (place : Place) :
    entries.view place = none ↔ entries.at? place = none := by
  rw [view, Option.map_eq_none_iff]

theorem view_isSome (entries : Entries) (place : Place) (node : Node) (held : entries.at? place = some node) :
    entries.view place = some node.bare := by rw [view, held]; rfl

-- What lies below something that is no directory is nothing.
theorem view_below_leaf (entries : Entries) (a b : Place) (node : Node) (leaf : node.isDir = false)
    (held : entries.view a = some node) (below : b ≠ []) : entries.view (a ++ b) = none := by
  rw [view_append, (view_eq_leaf entries a node leaf).mp held, Option.bind_some, Node.view_leaf node leaf, if_neg below]

theorem view_above (entries : Entries) (a b : Place) (below : b ≠ []) (held : entries.view (a ++ b) ≠ none) :
    entries.view a = some Node.emptyDir := by
  rw [view_append] at held
  rw [view]
  cases found : entries.at? a with
  | none => simp [found] at held
  | some node =>
    rcases node.dir_or_leaf with ⟨inner, rfl⟩ | leaf
    · rfl
    · simp [found, Node.view_leaf node leaf, below] at held

theorem view_dropLast (entries : Entries) (place : Place) (held : entries.view place ≠ none) (filled : place ≠ []) :
    entries.view place.dropLast = some Node.emptyDir := by
  apply view_above entries place.dropLast [place.getLast filled] (by simp)
  rwa [List.dropLast_concat_getLast]

theorem view_nil (entries : Entries) : entries.view [] = some Node.emptyDir := by simp [view]

theorem view_cons (entries : Entries) (name : Bytes) (place : Place) :
    entries.view (name :: place) = (entries.find? name).bind fun node => node.view place := by
  rw [view, at?_cons]
  cases entries.find? name <;> rfl

theorem view_put (entries : Entries) (name : Bytes) (node : Node) (place : Place) :
    (entries.put name node).view place =
      if [name] <+: place then node.view (place.drop 1) else entries.view place := by
  cases place with
  | nil => simp [view_nil]
  | cons other rest =>
    by_cases same : other = name
    · subst same
      simp [view_cons, find?_put_self]
    · simp [view_cons, find?_put_other name other node same, Ne.symm same]

section

variable {entries : Entries} {name below : Bytes} {rest : Place} {node : Option Node}

theorem set_missing (absent : entries.find? name = none) : entries.set (name :: below :: rest) node = entries := by
  rw [set, absent]

theorem set_inside (inner : Entries) (held : entries.find? name = some (.dir inner)) :
    entries.set (name :: below :: rest) node = entries.put name (.dir (inner.set (below :: rest) node)) := by
  rw [set, held]

theorem set_leaf (found : Node) (held : entries.find? name = some found) (leaf : found.isDir = false) :
    entries.set (name :: below :: rest) node = entries := by
  rw [set, held]
  cases found with
  | dir inner => exact absurd leaf (by simp [Node.isDir])
  | file | link | device => rfl

end

theorem view_set (entries : Entries) (place : Place) (node : Node) (filled : place ≠ [])
    (parent : entries.view place.dropLast = some Node.emptyDir) (other : Place) :
    (entries.set place (some node)).view other =
      if place <+: other then node.view (other.drop place.length) else entries.view other := by
  induction place generalizing entries other with
  | nil => exact absurd rfl filled
  | cons name rest ih =>
    cases rest with
    | nil => exact view_put entries name node other
    | cons below rest =>
      rw [List.dropLast_cons_of_ne_nil (by simp), view_cons] at parent
      obtain ⟨found, member, inside⟩ := Option.bind_eq_some_iff.mp parent
      rcases found.dir_or_leaf with ⟨inner, rfl⟩ | leaf
      · rw [set_inside inner member, view_put]
        cases other with
        | nil => simp
        | cons first others =>
          by_cases same : name = first
          · subst same
            have later := ih inner (by simp) inside others
            rw [if_pos (by simp), List.drop_one, List.tail_cons, Node.view_dir, later, view_cons, member]
            simp only [List.cons_prefix_cons, true_and, List.length_cons, List.drop_succ_cons]
            rfl
          · simp [same]
      · rw [Node.view_leaf found leaf] at inside
        by_cases last : (below :: rest).dropLast = []
        · rw [if_pos last] at inside
          rw [Option.some.inj inside] at leaf
          exact absurd leaf (by simp [Node.isDir])
        · rw [if_neg last] at inside
          exact absurd inside (by simp)

theorem mem_names (entries : Entries) (name : Bytes) : name ∈ entries.names ↔ entries.find? name ≠ none := by
  match entries with
  | .nil => simp [names, toList, find?]
  | .cons other node rest =>
    have later := mem_names rest name
    rw [names] at later
    by_cases same : name = other <;> simp_all [names, toList, find?]

theorem find?_erase_self (entries : Entries) (name : Bytes) (ordered : entries.Ordered) :
    (entries.erase name).find? name = none := by
  match entries, ordered with
  | .nil, _ => rfl
  | .cons other node rest, ordered =>
    rw [Entries.Ordered] at ordered
    by_cases same : name = other
    · subst same
      rw [erase, if_pos rfl]
      refine Classical.byContradiction fun held => ?_
      exact List.lt_irrefl name (ordered.1 name ((mem_names rest name).mpr held))
    · rw [erase, if_neg same, find?, if_neg same]
      exact find?_erase_self rest name ordered.2.2

theorem view_erase (entries : Entries) (name : Bytes) (ordered : entries.Ordered) (place : Place) :
    (entries.erase name).view place = if [name] <+: place then none else entries.view place := by
  cases place with
  | nil => simp [view_nil]
  | cons other rest =>
    by_cases same : other = name
    · subst same
      simp [view_cons, find?_erase_self entries other ordered]
    · simp [view_cons, find?_erase_other name other same, Ne.symm same]

theorem ordered_find? (entries : Entries) (name : Bytes) (node : Node) (ordered : entries.Ordered)
    (held : entries.find? name = some node) : node.Ordered := by
  match entries, ordered with
  | .nil, _ => simp [find?] at held
  | .cons other first rest, ordered =>
    rw [Entries.Ordered] at ordered
    by_cases same : name = other
    · rw [find?, if_pos same] at held
      exact Option.some.inj held ▸ ordered.2.1
    · rw [find?, if_neg same] at held
      exact ordered_find? rest name node ordered.2.2 held

theorem ordered_at? (entries : Entries) (place : Place) (node : Node) (ordered : entries.Ordered)
    (held : entries.at? place = some node) : node.Ordered := by
  induction place generalizing entries with
  | nil =>
    rw [at?_nil] at held
    rw [← Option.some.inj held, Node.Ordered]
    exact ordered
  | cons name rest ih =>
    rw [at?_cons] at held
    obtain ⟨found, member, inside⟩ := Option.bind_eq_some_iff.mp held
    have inner := ordered_find? entries name found ordered member
    rcases found.dir_or_leaf with ⟨entries, rfl⟩ | leaf
    · rw [Node.Ordered] at inner
      exact ih entries inner inside
    · by_cases last : rest = []
      · rw [last, Node.at?_nil] at inside
        exact Option.some.inj inside ▸ inner
      · rw [Node.at?_leaf found leaf rest last] at inside
        exact absurd inside (by simp)

theorem mem_toList (entries : Entries) (name : Bytes) (node : Node) (ordered : entries.Ordered) :
    (name, node) ∈ entries.toList ↔ entries.find? name = some node := by
  match entries, ordered with
  | .nil, _ => simp [toList, find?]
  | .cons other first rest, ordered =>
    rw [Entries.Ordered] at ordered
    have later := mem_toList rest name node ordered.2.2
    by_cases same : name = other
    · subst same
      have fresh : (name, node) ∉ rest.toList := by
        intro member
        exact List.lt_irrefl name (ordered.1 name (List.mem_map.mpr ⟨_, member, rfl⟩))
      simp [toList, find?, fresh, eq_comm]
    · simp [toList, find?, same, later]

theorem toList_names (entries : Entries) (ordered : entries.Ordered) :
    entries.toList.Pairwise fun a b => a.1 ≠ b.1 := by
  match entries, ordered with
  | .nil, _ => exact .nil
  | .cons name node rest, ordered =>
    rw [Entries.Ordered] at ordered
    rw [toList, List.pairwise_cons]
    refine ⟨fun entry member same => ?_, toList_names rest ordered.2.2⟩
    have less := ordered.1 entry.1 (List.mem_map_of_mem member)
    exact List.lt_irrefl entry.1 (same ▸ less)

theorem put_names (entries : Entries) (name : Bytes) (node : Node) (other : Bytes)
    (member : other ∈ (entries.put name node).names) : other = name ∨ other ∈ entries.names := by
  by_cases same : other = name
  · exact .inl same
  · rw [mem_names, find?_put_other name other node same] at member
    exact .inr ((mem_names entries other).mpr member)

theorem erase_names (entries : Entries) (name : Bytes) (other : Bytes)
    (member : other ∈ (entries.erase name).names) : other ∈ entries.names := by
  match entries with
  | .nil => exact member
  | .cons first node rest =>
    by_cases same : name = first
    · rw [erase, if_pos same] at member
      exact List.mem_cons_of_mem first member
    · rw [erase, if_neg same] at member
      rcases List.mem_cons.mp member with rfl | later
      · exact List.mem_cons_self
      · exact List.mem_cons_of_mem first (erase_names rest name other later)

theorem ordered_put (entries : Entries) (name : Bytes) (node : Node) (ordered : entries.Ordered)
    (inner : node.Ordered) : (entries.put name node).Ordered := by
  match entries, ordered with
  | .nil, _ => simp [put, Entries.Ordered, names, toList, inner]
  | .cons other first rest, ordered =>
    rw [Entries.Ordered] at ordered
    obtain ⟨least, old, sorted⟩ := ordered
    by_cases same : name = other
    · subst same
      rw [put, if_pos rfl, Entries.Ordered]
      exact ⟨least, inner, sorted⟩
    · by_cases less : name < other
      · rw [put, if_neg same, if_pos less, Entries.Ordered, Entries.Ordered]
        refine ⟨?_, inner, least, old, sorted⟩
        intro later member
        rcases List.mem_cons.mp member with rfl | member
        · exact less
        · exact List.lt_trans less (least later member)
      · rw [put, if_neg same, if_neg less, Entries.Ordered]
        refine ⟨?_, old, ordered_put rest name node sorted inner⟩
        intro later member
        rcases put_names rest name node later member with rfl | member
        · exact Std.lt_of_le_of_ne less (Ne.symm same)
        · exact least later member

theorem ordered_erase (entries : Entries) (name : Bytes) (ordered : entries.Ordered) :
    (entries.erase name).Ordered := by
  match entries, ordered with
  | .nil, ordered => exact ordered
  | .cons other first rest, ordered =>
    rw [Entries.Ordered] at ordered
    obtain ⟨least, old, sorted⟩ := ordered
    by_cases same : name = other
    · rw [erase, if_pos same]
      exact sorted
    · rw [erase, if_neg same, Entries.Ordered]
      exact ⟨fun later member => least later (erase_names rest name later member), old, ordered_erase rest name sorted⟩

theorem ordered_set (entries : Entries) (place : Place) (node : Option Node) (ordered : entries.Ordered)
    (inner : ∀ fresh, node = some fresh → fresh.Ordered) : (entries.set place node).Ordered := by
  induction place generalizing entries with
  | nil => cases node <;> exact ordered
  | cons name rest ih =>
    cases rest with
    | nil =>
      cases node with
      | none => exact ordered_erase entries name ordered
      | some fresh => exact ordered_put entries name fresh ordered (inner fresh rfl)
    | cons below rest =>
      cases held : entries.find? name with
      | none => rwa [set_missing held]
      | some found =>
        rcases found.dir_or_leaf with ⟨directory, rfl⟩ | leaf
        · have sorted := ordered_find? entries name _ ordered held
          rw [Node.Ordered] at sorted
          rw [set_inside directory held]
          exact ordered_put entries name _ ordered (by rw [Node.Ordered]; exact ih directory sorted)
        · rwa [set_leaf found held leaf]

theorem view_unset (entries : Entries) (place : Place) (ordered : entries.Ordered) (filled : place ≠ [])
    (other : Place) :
    (entries.set place none).view other = if place <+: other then none else entries.view other := by
  induction place generalizing entries other with
  | nil => exact absurd rfl filled
  | cons name rest ih =>
    cases rest with
    | nil => exact view_erase entries name ordered other
    | cons below rest =>
      cases held : entries.find? name with
      | none =>
        rw [set_missing held]
        by_cases under : name :: below :: rest <+: other
        · obtain ⟨more, rfl⟩ := under
          rw [if_pos (by simp), List.cons_append, view_cons, held, Option.bind_none]
        · rw [if_neg under]
      | some found =>
        rcases found.dir_or_leaf with ⟨inner, rfl⟩ | leaf
        · have sorted := ordered_find? entries name _ ordered held
          rw [Node.Ordered] at sorted
          rw [set_inside inner held, view_put]
          cases other with
          | nil => simp
          | cons first others =>
            by_cases same : name = first
            · subst same
              rw [if_pos (by simp), List.drop_one, List.tail_cons, Node.view_dir, ih inner sorted (by simp), view_cons, held]
              simp only [List.cons_prefix_cons, true_and]
              rfl
            · simp [same]
        · rw [set_leaf found held leaf]
          by_cases under : name :: below :: rest <+: other
          · obtain ⟨more, rfl⟩ := under
            rw [if_pos (by simp), List.cons_append, view_cons, held, Option.bind_some, Node.view_leaf found leaf,
              if_neg (by simp)]
          · rw [if_neg under]

end Entries

end InkProject
