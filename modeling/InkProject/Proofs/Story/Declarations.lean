import InkProject.Proofs.Story.Saving
import Mathlib.Data.List.Induction
set_option autoImplicit false

namespace InkProject.Story

open Json

-- What a variable is given. A text stands between two marks, any other value for itself; it is not
-- taken for a variable's name.
inductive Literal where
  | text (content : String)
  | plain (value : Json) (other : value.string? = none) (nameless : value.member? "VAR=" = none)

def Literal.value : Literal → Json
  | .text content => .string content
  | .plain value _ _ => value

def Literal.items : Literal → List Json
  | .text content => [.string "str", .string ("^" ++ content), .string "/str"]
  | .plain value _ _ => [value]

structure Assignment where
  literal : Literal
  name : String
  again : Option Json

namespace Assignment

def target (assignment : Assignment) : Json :=
  .object (("VAR=", .string assignment.name) :: assignment.again.toList.map fun mark => ("re", mark))

def items (assignment : Assignment) : List Json := assignment.literal.items ++ [assignment.target]

def declares (assignment : Assignment) : Bool := assignment.again.isNone

end Assignment

def compiledDeclarations (assignments : List Assignment) : List Json :=
  .string "ev" :: (assignments.flatMap Assignment.items ++ [.string "/ev", .string "end", .null])

def declaredValues (assignments : List Assignment) : Table Json :=
  (assignments.filter Assignment.declares).map fun assignment => (assignment.name, assignment.literal.value)

section

variable {before rest : List Json} {globals : Table Json} {assignment : Assignment} {assignments : List Assignment}

theorem withoutCaret_caret (content : String) : withoutCaret ("^" ++ content) = content := by
  have letters : ("^" ++ content).toList = '^' :: content.toList := by simp
  rw [withoutCaret, letters]
  exact String.ofList_toList

theorem literal_items (given : Literal) (before : List Json) : literal (given.items.reverse ++ before) = given.value := by
  cases given with
  | text content =>
    simp only [Literal.items, Literal.value, List.reverse_cons, List.reverse_nil, List.nil_append, List.cons_append,
      literal, if_true, withoutCaret_caret]
  | plain value other _ =>
    cases value with
    | string content => cases other
    | _ => rfl

theorem declareFrom_skip {item : Json} (nameless : declaredName? item = none) :
    declareFrom before globals (item :: rest) = declareFrom (item :: before) globals rest := by
  rw [declareFrom, nameless]

theorem declaredName?_nameless {item : Json} (nameless : item.member? "VAR=" = none) : declaredName? item = none := by
  rw [declaredName?, nameless]
  split <;> rfl

theorem declareFrom_literal (given : Literal) : declareFrom before globals (given.items ++ rest) =
    declareFrom (given.items.reverse ++ before) globals rest := by
  cases given with
  | text content =>
    have skip (text : String) : declaredName? (.string text) = none := rfl
    simp only [Literal.items, List.cons_append, List.nil_append, declareFrom_skip (skip _)]
    rfl
  | plain value _ nameless => exact declareFrom_skip (declaredName?_nameless nameless)

theorem declaredName?_target (assignment : Assignment) :
    declaredName? assignment.target = if assignment.declares then some assignment.name else none := by
  obtain ⟨given, name, again⟩ := assignment
  cases again <;> rfl

theorem declareFrom_again (again : assignment.declares = false) : declareFrom before globals (assignment.items ++ rest) =
    declareFrom (assignment.items.reverse ++ before) globals rest := by
  have nameless : declaredName? assignment.target = none := by rw [declaredName?_target, again]; rfl
  rw [Assignment.items, List.append_assoc, declareFrom_literal, List.singleton_append, declareFrom_skip nameless,
    List.reverse_append]
  rfl

theorem declareFrom_declares (declares : assignment.declares = true) :
    declareFrom before globals (assignment.items ++ rest) =
      if globals.contains assignment.name then .error (.invariant (.declaredTwice assignment.name))
      else declareFrom (assignment.items.reverse ++ before) (globals.insert assignment.name assignment.literal.value)
        rest := by
  have named : declaredName? assignment.target = some assignment.name := by rw [declaredName?_target, if_pos declares]
  rw [Assignment.items, List.append_assoc, declareFrom_literal, List.singleton_append, declareFrom, named,
    List.reverse_append, literal_items]
  rfl

theorem declaredValues_again (again : assignment.declares = false) :
    declaredValues (assignment :: assignments) = declaredValues assignments := by
  rw [declaredValues, List.filter_cons_of_neg (by simp [again])]
  rfl

theorem declaredValues_declares (declares : assignment.declares = true) : declaredValues (assignment :: assignments) =
    (assignment.name, assignment.literal.value) :: declaredValues assignments := by
  rw [declaredValues, List.filter_cons_of_pos declares]
  rfl

-- By induction on the assignments: each declaration puts its own value under its own name, and nothing else does.
theorem declareFrom_distinct (distinct : (declaredValues assignments).keys.Nodup)
    (fresh : ∀ name ∈ (declaredValues assignments).keys, globals.contains name = false) :
    ∃ passed, declareFrom before globals (assignments.flatMap Assignment.items ++ rest) =
      declareFrom passed (globals.overlay (declaredValues assignments)) rest := by
  induction assignments generalizing before globals with
  | nil => exact ⟨before, rfl⟩
  | cons assignment assignments ih =>
    rw [List.flatMap_cons, List.append_assoc]
    cases declares : assignment.declares with
    | false =>
      rw [declaredValues_again declares] at distinct fresh ⊢
      rw [declareFrom_again declares]
      exact ih distinct fresh
    | true =>
      rw [declaredValues_declares declares] at distinct fresh ⊢
      obtain ⟨first, distinct⟩ := List.nodup_cons.mp distinct
      rw [declareFrom_declares declares, if_neg (by simp [fresh assignment.name (by simp [Table.keys])])]
      refine ih distinct fun name member => ?_
      have different : name ≠ assignment.name := fun same => first (same ▸ member)
      rw [Table.contains, Table.find?_insert_other _ _ _ _ different]
      exact fresh name (List.mem_cons_of_mem _ member)

theorem declareFrom_repeated {earlier later : List String} {name : String} (distinct : earlier.Nodup)
    (fresh : ∀ other ∈ earlier, globals.contains other = false) (repeated : globals.contains name = true ∨ name ∈ earlier)
    (names : (declaredValues assignments).keys = earlier ++ name :: later) :
    declareFrom before globals (assignments.flatMap Assignment.items ++ rest) =
      .error (.invariant (.declaredTwice name)) := by
  induction assignments generalizing before globals earlier with
  | nil => exact absurd names.symm (by simp [declaredValues, Table.keys])
  | cons assignment assignments ih =>
    rw [List.flatMap_cons, List.append_assoc]
    cases declares : assignment.declares with
    | false =>
      rw [declaredValues_again declares] at names
      rw [declareFrom_again declares]
      exact ih distinct fresh repeated names
    | true =>
      rw [declaredValues_declares declares] at names
      rw [declareFrom_declares declares]
      cases earlier with
      | nil =>
        obtain ⟨rfl, _⟩ := List.cons.inj names
        rw [if_pos (repeated.resolve_right List.not_mem_nil)]
      | cons first earlier =>
        obtain ⟨same, tail⟩ : assignment.name = first ∧ (declaredValues assignments).keys = earlier ++ name :: later :=
          List.cons.inj names
        subst same
        obtain ⟨unseen, distinct⟩ := List.nodup_cons.mp distinct
        rw [if_neg (by simp [fresh assignment.name List.mem_cons_self])]
        refine ih distinct (fun other member => ?_) ?_ tail
        · have different : other ≠ assignment.name := fun same => unseen (same ▸ member)
          rw [Table.contains, Table.find?_insert_other _ _ _ _ different]
          exact fresh other (List.mem_cons_of_mem _ member)
        · by_cases same : name = assignment.name
          · rw [same, Table.contains, Table.find?_insert_self]
            exact .inl rfl
          · rw [Table.contains, Table.find?_insert_other _ _ _ _ same]
            exact repeated.imp_right fun member => (List.mem_cons.mp member).resolve_left same

end

theorem first_repeated (names : List String) (repeated : ¬ names.Nodup) :
    ∃ earlier name later, names = earlier ++ name :: later ∧ name ∈ earlier ∧ earlier.Nodup := by
  induction names using List.reverseRecOn with
  | nil => exact absurd List.nodup_nil repeated
  | append_singleton names last ih =>
    by_cases distinct : names.Nodup
    · refine ⟨names, last, [], rfl, ?_, distinct⟩
      refine Classical.byContradiction fun unseen => repeated ?_
      exact List.nodup_append.mpr ⟨distinct, List.pairwise_singleton _ last, fun other member _ same =>
        fun equal => unseen (List.mem_singleton.mp same ▸ equal ▸ member)⟩
    · obtain ⟨earlier, name, later, rfl, member, unrepeated⟩ := ih distinct
      exact ⟨earlier, name, later ++ [last], by simp, member, unrepeated⟩

section

variable {others items : List Json} {named : Table Json} {assignments : List Assignment}

theorem declaredGlobals_placed (placed : named.find? declarationsKey = some (.array items)) :
    declaredGlobals (others ++ [.object named]) = declareFrom [] [] items := by
  have found : declarations? (others ++ [.object named]) = some (.array items) := by
    rw [declarations?, List.getLast?_concat]
    exact placed
  rw [declaredGlobals, found]

theorem declareFrom_begin (assignments : List Assignment) : declareFrom [] [] (compiledDeclarations assignments) =
    declareFrom [.string "ev"] [] (assignments.flatMap Assignment.items ++ [.string "/ev", .string "end", .null]) := rfl

theorem declareFrom_compiled (distinct : (declaredValues assignments).keys.Nodup) :
    declareFrom [] [] (compiledDeclarations assignments) = .ok (Table.overlay [] (declaredValues assignments)) := by
  have fresh : ∀ name ∈ (declaredValues assignments).keys, Table.contains ([] : Table Json) name = false :=
    fun _ _ => rfl
  obtain ⟨passed, run⟩ := declareFrom_distinct distinct fresh
  rw [declareFrom_begin, run]
  rfl

theorem declareFrom_compiled_repeated {earlier later : List String} {name : String} (distinct : earlier.Nodup)
    (member : name ∈ earlier) (names : (declaredValues assignments).keys = earlier ++ name :: later) :
    declareFrom [] [] (compiledDeclarations assignments) = .error (.invariant (.declaredTwice name)) := by
  rw [declareFrom_begin]
  exact declareFrom_repeated distinct (fun _ _ => rfl) (.inr member) names

end

structure ReadBack (root : List Json) (assignments : List Assignment) : Prop where
  declared : (declaredValues assignments).keys.Nodup → ∃ globals, declaredGlobals root = .ok globals ∧ globals.Ordered ∧
    ∀ name, globals.find? name = (declaredValues assignments).find? name
  parsed : ∀ text (members : Table Json) story, Json.parse text = .ok (.object members) →
    members.find? "root" = some (.array root) → Story.parse text = .ok story → declaredGlobals root = .ok story.globals ∧
      (∀ name, story.globals.find? name = (declaredValues assignments).find? name) ∧ story.state.values = story.globals ∧
      (story.hasVariables = true ↔ ∃ assignment ∈ assignments, assignment.again = none)
  repeated : ¬ (declaredValues assignments).keys.Nodup → ∃ earlier name later,
    (declaredValues assignments).keys = earlier ++ name :: later ∧ name ∈ earlier ∧ earlier.Nodup ∧
      declaredGlobals root = .error (.invariant (.declaredTwice name)) ∧
      ∀ text version members compiled, storyVersions.read text = .ok (version, members) →
        compiledOf members = .ok compiled → compiled.root = root →
          Story.parse text = .error (.invariant (.declaredTwice name))

theorem parse_refused {text : String} {version : Int} {members : Table Json} {compiled : Compiled} {error : EngineError}
    (read : storyVersions.read text = .ok (version, members)) (shaped : compiledOf members = .ok compiled)
    (failed : declaredGlobals compiled.root = .error error) : Story.parse text = .error error := by
  rw [Story.parse, Story.read, read, ok_bind]
  dsimp only
  rw [shaped]
  show Prod.fst <$> (declaredGlobals compiled.root >>= _) = _
  rw [failed]
  rfl

theorem declares_iff (assignments : List Assignment) :
    (declaredValues assignments).isEmpty = false ↔ ∃ assignment ∈ assignments, assignment.again = none := by
  simp [declaredValues, Assignment.declares]

theorem assignments_read_back (others : List Json) {named : Table Json} (assignments : List Assignment)
    (placed : named.find? declarationsKey = some (.array (compiledDeclarations assignments))) :
    ReadBack (others ++ [.object named]) assignments := by
  have placed : declaredGlobals (others ++ [.object named]) = _ := declaredGlobals_placed placed
  have taken (distinct : (declaredValues assignments).keys.Nodup) := placed.trans (declareFrom_compiled distinct)
  have looked (distinct : (declaredValues assignments).keys.Nodup) (name : String) :
      (Table.overlay [] (declaredValues assignments)).find? name = (declaredValues assignments).find? name := by
    rw [Table.find?_overlay _ distinct, Table.find?, Option.or_none]
  constructor
  case declared =>
    intro distinct
    exact ⟨_, taken distinct, Table.overlay_ordered Table.ordered_nil _, looked distinct⟩
  case parsed =>
    intro text members story parsed found done
    obtain ⟨also, root, same, there, declared, start⟩ := parse_declared done
    rw [parsed, Except.ok.injEq, Json.object.injEq] at same
    subst same
    rw [found, Option.some.injEq, Json.array.injEq] at there
    subst there
    by_cases distinct : (declaredValues assignments).keys.Nodup
    · have globals : Table.overlay [] (declaredValues assignments) = story.globals :=
        Except.ok.inj ((taken distinct).symm.trans declared)
      refine ⟨declared, fun name => globals ▸ looked distinct name, by rw [start]; rfl, ?_⟩
      rw [← declares_iff, hasVariables, Bool.not_eq_true', ← globals, Table.isEmpty_of_find? (looked distinct)]
    · obtain ⟨earlier, name, later, names, member, unrepeated⟩ := first_repeated _ distinct
      rw [placed, declareFrom_compiled_repeated unrepeated member names] at declared
      cases declared
  case repeated =>
    intro repeated
    obtain ⟨earlier, name, later, names, member, unrepeated⟩ := first_repeated _ repeated
    have failed := placed.trans (declareFrom_compiled_repeated unrepeated member names)
    refine ⟨earlier, name, later, names, member, unrepeated, failed, ?_⟩
    intro text version members compiled read shaped same
    exact parse_refused read shaped (same ▸ failed)

def markedAssignments : List Assignment :=
  [⟨.text "^/str", "name", none⟩, ⟨.plain (.integer 5) rfl rfl, "health", none⟩, ⟨.text "ev", "name", some (.bool true)⟩]

theorem marked_text_read_back :
    Table.find? declarationsKey [(declarationsKey, Json.array (compiledDeclarations markedAssignments))] =
        some (.array (compiledDeclarations markedAssignments)) ∧
      ∃ globals, declaredGlobals [.null, .object [(declarationsKey, .array (compiledDeclarations markedAssignments))]] =
          .ok globals ∧ globals.find? "name" = some (.string "^/str") ∧ globals.find? "health" = some (.integer 5) := by
  have placed : Table.find? declarationsKey [(declarationsKey, Json.array (compiledDeclarations markedAssignments))] =
      some (.array (compiledDeclarations markedAssignments)) := rfl
  obtain ⟨globals, read, _, values⟩ :=
    (assignments_read_back [.null] markedAssignments placed).declared (by decide)
  exact ⟨placed, globals, read, values "name", values "health"⟩

end InkProject.Story
