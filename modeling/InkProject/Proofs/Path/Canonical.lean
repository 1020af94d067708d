import InkProject.Disk.Walk
import Mathlib.Algebra.BigOperators.Group.List.Basic
import Mathlib.Data.List.Induction
set_option autoImplicit false

namespace InkProject

namespace Path

theorem segments_single (name : Bytes) (single : slash ∉ name) : segments name = [name] := by
  induction name with
  | nil => rfl
  | cons byte rest ih =>
    have different : byte ≠ slash := fun same => single (by simp [same])
    have others : slash ∉ rest := fun member => single (by simp [member])
    simp [segments, different, ih others]

theorem segments_append (a b : Bytes) : segments (a ++ slash :: b) = segments a ++ segments b := by
  induction a with
  | nil => simp [segments]
  | cons byte rest ih =>
    by_cases same : byte = slash
    · simp [segments, same, ih]
    · cases split : segments rest with
      | nil => exact absurd split (segments_ne_nil rest)
      | cons segment others => simp [segments, same, ih, split]

theorem glue_cons (name : Bytes) (rest : List Bytes) (filled : rest ≠ []) :
    glue (name :: rest) = name ++ slash :: glue rest := by
  cases rest with
  | nil => exact absurd rfl filled
  | cons next others => rfl

theorem segments_glue (names : List Bytes) (filled : names ≠ []) (single : ∀ name ∈ names, slash ∉ name) :
    segments (glue names) = names := by
  induction names with
  | nil => exact absurd rfl filled
  | cons name rest ih =>
    have here := segments_single name (single name (by simp))
    cases rest with
    | nil => simpa [glue] using here
    | cons next others =>
      rw [glue_cons name _ (by simp), segments_append, here, ih (by simp)
        (fun other member => single other (by simp [member]))]
      rfl

theorem segment_single (bytes segment : Bytes) (member : segment ∈ segments bytes) : slash ∉ segment := by
  induction bytes generalizing segment with
  | nil =>
    rw [segments, List.mem_singleton] at member
    simp [member]
  | cons byte rest ih =>
    by_cases same : byte = slash
    · rw [segments, if_pos same, List.mem_cons] at member
      rcases member with rfl | later
      · simp
      · exact ih segment later
    · cases split : segments rest with
      | nil => exact absurd split (segments_ne_nil rest)
      | cons first others =>
        simp only [segments, if_neg same, split, List.mem_cons] at member
        rcases member with rfl | later
        · simp only [List.mem_cons, not_or]
          exact ⟨Ne.symm same, ih first (by simp [split])⟩
        · exact ih segment (by simp [split, later])

theorem segment_bytes (bytes segment : Bytes) (member : segment ∈ segments bytes) : ∀ byte ∈ segment, byte ∈ bytes := by
  induction bytes generalizing segment with
  | nil =>
    rw [segments, List.mem_singleton] at member
    simp [member]
  | cons first rest ih =>
    intro byte inside
    by_cases same : first = slash
    · rw [segments, if_pos same, List.mem_cons] at member
      rcases member with rfl | later
      · cases inside
      · exact List.mem_cons_of_mem first (ih segment later byte inside)
    · cases split : segments rest with
      | nil => exact absurd split (segments_ne_nil rest)
      | cons begin others =>
        simp only [segments, if_neg same, split, List.mem_cons] at member
        rcases member with rfl | later
        · rcases List.mem_cons.mp inside with rfl | inside
          · exact List.mem_cons_self
          · exact List.mem_cons_of_mem first (ih begin (by simp [split]) byte inside)
        · exact List.mem_cons_of_mem first (ih segment (by simp [split, later]) byte inside)

theorem body_single (path : Path) : ∀ segment ∈ path.anatomy.body, slash ∉ segment := by
  intro segment member
  rw [anatomy] at member
  split at member
  · cases member
  · rename_i byte rest _
    split at member
    · exact segment_single rest segment member
    · split at member
      · rename_i first others cut
        have all : ∀ segment ∈ first :: others, slash ∉ segment := fun segment inside =>
          segment_single path.bytes segment (by rw [cut]; exact inside)
        split at member
        · exact all segment (List.mem_cons_of_mem first member)
        · exact all segment member
      · cases member

theorem fileName?_single (path : Path) (name : Bytes) (found : path.fileName? = some name) : slash ∉ name := by
  rw [fileName?] at found
  split at found
  · rename_i segment last
    split at found
    · cases found
    · cases found
      have member := List.mem_of_getLast? last
      rw [trimEnd, List.mem_reverse] at member
      exact body_single path _ (List.mem_reverse.mp ((List.dropWhile_sublist isVoid).mem member))
  · cases found

theorem glue_append (a b : List Bytes) (filledLeft : a ≠ []) (filledRight : b ≠ []) :
    glue (a ++ b) = glue a ++ slash :: glue b := by
  induction a with
  | nil => exact absurd rfl filledLeft
  | cons name rest ih =>
    cases rest with
    | nil =>
      cases b with
      | nil => exact absurd rfl filledRight
      | cons first others => rfl
    | cons next others =>
      rw [List.cons_append, glue_cons name _ (by simp), ih (by simp), glue_cons name _ (by simp)]
      simp

def weight : List Bytes → Nat
  | [] => 0
  | name :: rest => name.length + 1 + weight rest

theorem weight_append (a b : List Bytes) : weight (a ++ b) = weight a + weight b := by
  induction a with
  | nil => simp [weight]
  | cons name a ih =>
    rw [List.cons_append, weight, weight, ih]
    omega

theorem glue_length (names : List Bytes) (filled : names ≠ []) : (glue names).length + 1 = weight names := by
  induction names with
  | nil => exact absurd rfl filled
  | cons name rest ih =>
    cases rest with
    | nil => simp [glue, weight]
    | cons next others =>
      rw [glue_cons name _ (by simp), weight, ← ih (by simp), List.length_append, List.length_cons]
      omega

def names (path : Path) : List Bytes := (segments path.bytes).filter (· ≠ [])

theorem trimEnd_append (body : List Bytes) (name : Bytes) (solid : isVoid name = false) :
    trimEnd (body ++ [name]) = body ++ [name] := by
  simp [trimEnd, solid]

end Path

namespace Disk

open InkProject.Path

structure EntryName (name : Bytes) : Prop where
  filled : name ≠ []
  single : slash ∉ name
  plain : 0 ∉ name
  not_dot : name ≠ dot
  not_dots : name ≠ dots
  short : name.length ≤ nameLimit

theorem EntryName.solid {name : Bytes} (named : EntryName name) : isVoid name = false := by
  simp [isVoid, named.filled, named.not_dot]

theorem EntryName.part {name : Bytes} (named : EntryName name) : bodyPart? name = some (.name name) := by
  simp [bodyPart?, named.solid, named.not_dots]

instance (name : Bytes) : Decidable (EntryName name) :=
  decidable_of_iff (name ≠ [] ∧ slash ∉ name ∧ 0 ∉ name ∧ name ≠ dot ∧ name ≠ dots ∧ name.length ≤ nameLimit)
    ⟨fun ⟨a, b, c, d, e, f⟩ => ⟨a, b, c, d, e, f⟩, fun ⟨a, b, c, d, e, f⟩ => ⟨a, b, c, d, e, f⟩⟩

theorem pathOf_bytes (place : Place) : (pathOf place).bytes = slash :: glue place := rfl

theorem segments_pathOf (place : Place) (filled : place ≠ []) (single : ∀ name ∈ place, slash ∉ name) :
    segments (pathOf place).bytes = [] :: place := by
  rw [pathOf_bytes, segments, if_pos rfl, segments_glue place filled single]

theorem glue_getLast (place : Place) (filled : place ≠ []) (named : ∀ name ∈ place, name ≠ [] ∧ slash ∉ name) :
    ∃ byte, byte ≠ slash ∧ (glue place).getLast? = some byte := by
  induction place with
  | nil => exact absurd rfl filled
  | cons name rest ih =>
    cases rest with
    | nil =>
      obtain ⟨whole, single⟩ := named name (by simp)
      refine ⟨name.getLast whole, ?_, List.getLast?_eq_some_getLast whole⟩
      exact fun same => single (same ▸ List.getLast_mem whole)
    | cons next others =>
      obtain ⟨byte, different, last⟩ := ih (by simp) (fun other member => named other (by simp [member]))
      refine ⟨byte, different, ?_⟩
      rw [glue_cons name _ (by simp), List.getLast?_append, List.getLast?_cons, last]
      rfl

theorem pathOf_endsInSlash (place : Place) (filled : place ≠ []) (named : ∀ name ∈ place, name ≠ [] ∧ slash ∉ name) :
    (pathOf place).endsInSlash = false := by
  obtain ⟨byte, different, last⟩ := glue_getLast place filled named
  simp [endsInSlash, pathOf_bytes, List.getLast?_cons, last, different]

theorem names_pathOf (place : Place) (named : ∀ name ∈ place, name ≠ [] ∧ slash ∉ name) :
    (pathOf place).names = place := by
  by_cases filled : place = []
  · subst filled
    rfl
  · rw [names, segments_pathOf place filled fun name member => (named name member).2, List.filter_cons_of_neg (by simp),
      List.filter_eq_self]
    exact fun name member => by simpa using (named name member).1

theorem steps_pathOf (place : Place) (named : ∀ name ∈ place, name ≠ [] ∧ slash ∉ name) :
    steps (pathOf place).bytes = place := by
  by_cases filled : place = []
  · subst filled
    rfl
  · have open_end := pathOf_endsInSlash place filled named
    simp only [endsInSlash, decide_eq_false_iff_not] at open_end
    rw [steps, ← names, names_pathOf place named]
    simp [open_end]

theorem startOf_pathOf (place current : Place) : startOf (pathOf place).bytes current = [] := rfl

theorem child_pathOf (place : Place) (name : Bytes) (named : ∀ name ∈ place, name ≠ [] ∧ slash ∉ name)
    (relative : name.head? ≠ some slash) : (pathOf place).child name = pathOf (place ++ [name]) := by
  have inside : (Path.mk name).isAbsolute = false := by simpa [isAbsolute] using relative
  rw [child, join, inside]
  by_cases filled : place = []
  · subst filled
    rfl
  · rw [if_neg (by simp), if_neg (by simp [pathOf_bytes, pathOf_endsInSlash place filled named])]
    simp [pathOf, glue_append place [name] filled (by simp), glue]

theorem anatomy_pathOf (place : Place) (filled : place ≠ []) (single : ∀ name ∈ place, slash ∉ name) :
    (pathOf place).anatomy = ⟨some .root, place⟩ := by
  simp [anatomy, pathOf, segments_glue place filled single]

theorem fileName?_pathOf_nil : (pathOf []).fileName? = none := rfl

section

variable {place : Place} {name : Bytes}

theorem trimEnd_named (named : ∀ name ∈ place, EntryName name) : trimEnd place = place := by
  induction place using List.reverseRecOn with
  | nil => rfl
  | append_singleton before last ih => exact trimEnd_append before last (named last (by simp)).solid

theorem fileName?_pathOf (named : ∀ other ∈ place ++ [name], EntryName other) :
    (pathOf (place ++ [name])).fileName? = some name := by
  have last := named name (by simp)
  have split : ∀ other ∈ place ++ [name], slash ∉ other := fun other member => (named other member).single
  rw [fileName?, anatomy_pathOf _ (by simp) split, trimEnd_named named]
  simp [last.not_dots]

theorem parent?_pathOf (named : ∀ name ∈ place, EntryName name) (single : slash ∉ name)
    (solid : isVoid name = false) : (pathOf (place ++ [name])).parent? = some (pathOf place) := by
  have split : ∀ other ∈ place ++ [name], slash ∉ other := by
    intro other member
    rcases List.mem_append.mp member with before | last
    · exact (named other before).single
    · rwa [List.mem_singleton.mp last]
  have body : trimEnd (place ++ [name]) = place ++ [name] := trimEnd_append place name solid
  rw [parent?, anatomy_pathOf _ (by simp) split, body]
  cases filled : place ++ [name] with
  | nil => simp at filled
  | cons first others =>
    simp only [← filled, List.dropLast_concat, trimEnd_named named]
    rfl

theorem withFileName_pathOf (named : ∀ other ∈ place ++ [name], EntryName other) (fresh : Bytes)
    (relative : fresh.head? ≠ some slash) :
    (pathOf (place ++ [name])).withFileName fresh = pathOf (place ++ [fresh]) := by
  have before : ∀ name ∈ place, EntryName name := fun other member => named other (by simp [member])
  have last := named name (by simp)
  rw [withFileName, fileName?_pathOf named, parent?_pathOf before last.single last.solid]
  exact child_pathOf place fresh (fun other member => ⟨(before other member).filled, (before other member).single⟩)
    relative

theorem parts_pathOf (named : ∀ name ∈ place, EntryName name) :
    (pathOf place).parts = .root :: place.map .name := by
  cases place with
  | nil => rfl
  | cons first others =>
    rw [parts, anatomy_pathOf _ (by simp) (fun name member => (named name member).single)]
    have same : ∀ name ∈ first :: others, bodyPart? name = some (.name name) := fun name member => (named name member).part
    simp [List.filterMap_eq_map_iff_forall_eq_some.mpr same]

end

theorem pathOf_key {place : Place} (named : ∀ name ∈ place, EntryName name) :
    (pathOf place).key = [0] :: place.map fun name => 3 :: name := by
  simp [key, parts_pathOf named, Part.key, List.map_map, Function.comp_def]

theorem pathOf_key_injective (a b : Place) (namedA : ∀ name ∈ a, EntryName name)
    (namedB : ∀ name ∈ b, EntryName name) (same : (pathOf a).key = (pathOf b).key) : a = b := by
  rw [pathOf_key namedA, pathOf_key namedB, List.cons.injEq] at same
  exact List.map_injective_iff.mpr (List.cons_injective) same.2

theorem tagged_lt (tag : UInt8) (a b : Place) :
    (a.map fun name => tag :: name) < (b.map fun name => tag :: name) ↔ a < b := by
  induction a generalizing b with
  | nil => cases b <;> simp
  | cons name rest ih =>
    cases b with
    | nil => simp
    | cons other others => simp [List.cons_lt_cons_iff, ih]

theorem pathOf_key_lt {a b : Place} (namedA : ∀ name ∈ a, EntryName name) (namedB : ∀ name ∈ b, EntryName name) :
    (pathOf a).key < (pathOf b).key ↔ a < b := by
  rw [pathOf_key namedA, pathOf_key namedB, List.cons_lt_cons_iff, tagged_lt]
  simp

theorem pathOf_length (place : Place) (filled : place ≠ []) :
    (pathOf place).bytes.length = weight place := by
  rw [pathOf_bytes, List.length_cons, glue_length place filled]

end Disk

end InkProject
