import InkProject.Proofs.Path.Canonical
import Mathlib.Data.List.DropRight
/- The parts of a path, however it is spelled: a grammar of the spellings that reads each
   path in one way, and the parts of a path that is joined or trimmed. -/
set_option autoImplicit false

namespace InkProject.Path

def bodyParts (body : List Bytes) : List Part := body.filterMap bodyPart?

section

variable {segment first : Bytes} {body others : List Bytes}

theorem bodyParts_append (a b : List Bytes) : bodyParts (a ++ b) = bodyParts a ++ bodyParts b := List.filterMap_append

theorem bodyParts_void (void : isVoid segment = true) : bodyParts (segment :: body) = bodyParts body := by
  simp [bodyParts, bodyPart?, void]

theorem bodyParts_solid (body : List Bytes) (solid : isVoid segment = false) : ∃ part, bodyParts (segment :: body) = part :: bodyParts body := by
  by_cases up : segment = dots
  · exact ⟨.up, by simp [bodyParts, bodyPart?, up, isVoid, dots, dot]⟩
  · exact ⟨.name segment, by simp [bodyParts, bodyPart?, up, solid]⟩

theorem bodyParts_dropWhile (body : List Bytes) : bodyParts (body.dropWhile isVoid) = bodyParts body := by
  induction body with
  | nil => rfl
  | cons segment rest ih =>
    by_cases void : isVoid segment = true
    · rw [List.dropWhile_cons_of_pos void, ih, bodyParts_void void]
    · rw [List.dropWhile_cons_of_neg void]

theorem bodyParts_trimEnd (body : List Bytes) : bodyParts (trimEnd body) = bodyParts body := by
  have reversed := bodyParts_dropWhile body.reverse
  simp only [bodyParts, List.filterMap_reverse] at reversed
  rw [trimEnd, bodyParts, List.filterMap_reverse, reversed, List.reverse_reverse, bodyParts]

theorem dropWhile_solid (cut : body.dropWhile isVoid = first :: others) : isVoid first = false := by
  have head := List.head?_dropWhile_not isVoid body
  rw [cut] at head
  simpa using head

theorem trimEnd_start (body : List Bytes) : trimEnd body <+: body := List.rdropWhile_prefix isVoid body

theorem trimEnd_solid (front : ∀ first others, body = first :: others → isVoid first = false)
    (cut : trimEnd body = first :: others) : isVoid first = false := by
  have kept := trimEnd_start body
  cases body with
  | nil => cases cut
  | cons start rest =>
    rw [cut, List.cons_prefix_cons] at kept
    rw [kept.1]
    exact front start rest rfl

end

inductive Shape (path : Path) : Prop where
  | empty (bytes : path.bytes = []) (same : path.anatomy = ⟨none, []⟩)
  | root (rest : Bytes) (bytes : path.bytes = slash :: rest) (same : path.anatomy = ⟨some .root, segments rest⟩)
  | here (others : List Bytes) (cut : segments path.bytes = dot :: others) (same : path.anatomy = ⟨some .here, others⟩)
  | loose (first : Bytes) (others : List Bytes) (cut : segments path.bytes = first :: others)
      (solid : isVoid first = false) (same : path.anatomy = ⟨none, first :: others⟩)

section

variable {path : Path} {bytes first : Bytes} {body others : List Bytes}

theorem segments_slash (rest : Bytes) : segments (slash :: rest) = [] :: segments rest := by simp [segments]

theorem anatomy_slash (rest : Bytes) : anatomy ⟨slash :: rest⟩ = ⟨some .root, segments rest⟩ := by simp [anatomy]

theorem anatomy_cut (cut : segments bytes = first :: others) (filled : first ≠ []) :
    anatomy ⟨bytes⟩ = if first = dot then ⟨some .here, others⟩ else ⟨none, first :: others⟩ := by
  cases bytes with
  | nil => exact absurd (List.cons.inj cut).1.symm filled
  | cons byte rest =>
    by_cases same : byte = slash
    · rw [same, segments_slash] at cut
      exact absurd (List.cons.inj cut).1.symm filled
    · simp [anatomy, same, cut]

theorem shape (path : Path) : Shape path := by
  obtain ⟨bytes⟩ := path
  cases cut : segments bytes with
  | nil => exact absurd cut (segments_ne_nil bytes)
  | cons first others =>
    by_cases filled : first = []
    · cases bytes with
      | nil => exact .empty rfl rfl
      | cons byte rest =>
        by_cases same : byte = slash
        · rw [same]
          exact .root rest rfl (anatomy_slash rest)
        · simp only [segments, if_neg same] at cut
          split at cut <;> simp_all
    · have known := anatomy_cut cut filled
      by_cases point : first = dot
      · rw [if_pos point] at known
        exact .here others (point ▸ cut) known
      · rw [if_neg point] at known
        exact .loose first others cut (by simp [isVoid, filled, point]) known

theorem solid_relative (cut : segments bytes = first :: others) (solid : isVoid first = false) : bytes.head? ≠ some slash := by
  intro start
  obtain ⟨tail, begun⟩ := List.head?_eq_some_iff.mp start
  rw [begun, segments_slash] at cut
  simp [isVoid, ← (List.cons.inj cut).1] at solid

theorem parts_of_anatomy {head : Option Part} (same : path.anatomy = ⟨head, body⟩) :
    path.parts = head.toList ++ bodyParts body := by
  rw [parts, same]
  rfl

theorem parts_append (before rest : Bytes) (filled : before ≠ []) :
    parts ⟨before ++ slash :: rest⟩ = parts ⟨before⟩ ++ bodyParts (segments rest) := by
  have whole := segments_append before rest
  cases shape ⟨before⟩ with
  | empty bytes _ => exact absurd bytes filled
  | root tail bytes same =>
    obtain rfl : before = slash :: tail := bytes
    rw [List.cons_append, parts_of_anatomy (anatomy_slash _), parts_of_anatomy same, segments_append, bodyParts_append,
      List.append_assoc]
  | here others cut same =>
    rw [cut, List.cons_append] at whole
    have known := anatomy_cut whole (by simp [dot])
    rw [if_pos rfl] at known
    rw [parts_of_anatomy known, parts_of_anatomy same, bodyParts_append, List.append_assoc]
  | loose first others cut solid same =>
    rw [cut, List.cons_append] at whole
    have known := anatomy_cut whole fun empty => by simp [isVoid, empty] at solid
    rw [if_neg fun point => by simp [isVoid, point] at solid] at known
    rw [parts_of_anatomy known, parts_of_anatomy same, ← List.cons_append, bodyParts_append]
    rfl

theorem parts_slashed (before rest : Bytes) :
    parts ⟨before ++ slash :: rest⟩ = parts ⟨before ++ [slash]⟩ ++ bodyParts (segments rest) := by
  by_cases empty : before = []
  · rw [empty, List.nil_append, List.nil_append, parts_of_anatomy (anatomy_slash _), parts_of_anatomy (anatomy_slash _)]
    rfl
  · rw [parts_append before rest empty, parts_append before [] empty]
    simp [bodyParts, segments, bodyPart?, isVoid]

theorem parts_join (root rest : Path) (free : rest.anatomy.head = none) : (root.join rest).parts = root.parts ++ rest.parts := by
  have known : rest.isAbsolute = false ∧ rest.parts = bodyParts (segments rest.bytes) := by
    cases shape rest with
    | empty bytes same =>
      rw [parts_of_anatomy same, isAbsolute, bytes]
      exact ⟨rfl, rfl⟩
    | root _ _ same | here _ _ same =>
      rw [same] at free
      cases free
    | loose first others cut solid same =>
      rw [parts_of_anatomy same, cut]
      exact ⟨decide_eq_false (solid_relative cut solid), rfl⟩
  obtain ⟨relative, only⟩ := known
  rw [join, relative, only]
  by_cases empty : root.bytes = []
  · obtain ⟨bytes⟩ := root
    obtain rfl : bytes = [] := empty
    simpa [parts_of_anatomy (show anatomy ⟨[]⟩ = ⟨none, []⟩ from rfl), bodyParts] using only
  · by_cases slashed : root.endsInSlash = true
    · obtain ⟨before, bytes⟩ := List.getLast?_eq_some_iff.mp (of_decide_eq_true slashed)
      obtain ⟨_⟩ := root
      obtain rfl := bytes
      simpa [slashed] using parts_slashed before rest.bytes
    · simpa [empty, slashed] using parts_append root.bytes rest.bytes empty

theorem bodyParts_segments_glue (single : ∀ segment ∈ body, slash ∉ segment) : bodyParts (segments (glue body)) = bodyParts body := by
  by_cases empty : body = []
  · rw [empty]
    rfl
  · rw [segments_glue body empty single]

theorem glue_anatomy (single : ∀ segment ∈ body, slash ∉ segment)
    (solid : ∀ first others, body = first :: others → isVoid first = false) : anatomy ⟨glue body⟩ = ⟨none, body⟩ := by
  cases body with
  | nil => rfl
  | cons first others =>
    have here := solid first others rfl
    rw [anatomy_cut (segments_glue _ (by simp) single) fun empty => by simp [isVoid, empty] at here,
      if_neg fun point => by simp [isVoid, point] at here]

theorem parts_trimmed (path : Path) : path.trimmed.parts = path.parts := by
  have single : ∀ segment ∈ trimEnd path.anatomy.body, slash ∉ segment := fun segment member =>
    body_single path segment ((trimEnd_start _).subset member)
  rw [trimmed, Anatomy.path]
  cases shape path with
  | empty _ same =>
    rw [same, parts_of_anatomy same]
    rfl
  | root rest _ same =>
    rw [same] at single
    rw [same, parts_of_anatomy same, parts_of_anatomy (anatomy_slash _), bodyParts_segments_glue single, bodyParts_trimEnd]
  | here others _ same =>
    rw [same] at single
    rw [same, parts_of_anatomy same, ← bodyParts_trimEnd]
    dsimp only
    by_cases empty : trimEnd others = []
    · rw [empty]
      rfl
    · rw [List.isEmpty_eq_false_iff.mpr empty, if_neg Bool.false_ne_true, parts_append _ _ (by simp [dot]),
        bodyParts_segments_glue single]
      rfl
  | loose first others _ solid same =>
    rw [same] at single
    rw [same, parts_of_anatomy same, ← bodyParts_trimEnd]
    dsimp only
    have front : ∀ start more, first :: others = start :: more → isVoid start = false := by
      intro start more cut
      rwa [← (List.cons.inj cut).1]
    exact parts_of_anatomy (glue_anatomy single fun start more => trimEnd_solid front)

theorem parts_eq_nil (bare : path.parts = []) : path.bytes = [] := by
  cases shape path with
  | empty bytes _ => exact bytes
  | root rest _ same | here others _ same => simp [parts_of_anatomy same] at bare
  | loose first others _ solid same =>
    obtain ⟨part, parts⟩ := bodyParts_solid others solid
    simp [parts_of_anatomy same, parts] at bare

end

def Ends (rest : Bytes) : Prop := rest = [] ∨ rest.head? = some slash

inductive Reads : Bytes → List Part → Prop where
  | empty : Reads [] []
  | gap {rest : Bytes} {parts : List Part} (later : Reads rest parts) : Reads (slash :: rest) parts
  | here {rest : Bytes} {parts : List Part} (ends : Ends rest) (later : Reads rest parts) : Reads (dot ++ rest) parts
  | up {rest : Bytes} {parts : List Part} (ends : Ends rest) (later : Reads rest parts) : Reads (dots ++ rest) (.up :: parts)
  | name {segment rest : Bytes} {parts : List Part} (filled : segment ≠ []) (single : slash ∉ segment) (notHere : segment ≠ dot)
      (notUp : segment ≠ dots) (ends : Ends rest) (later : Reads rest parts) : Reads (segment ++ rest) (.name segment :: parts)

inductive Spelled : Path → List Part → Prop where
  | absolute {rest : Bytes} {parts : List Part} (later : Reads rest parts) : Spelled ⟨slash :: rest⟩ (.root :: parts)
  | here {rest : Bytes} {parts : List Part} (ends : Ends rest) (later : Reads rest parts) : Spelled ⟨dot ++ rest⟩ (.here :: parts)
  | loose {bytes : Bytes} {parts : List Part} (relative : bytes.head? ≠ some slash)
      (free : ∀ rest, Ends rest → bytes ≠ dot ++ rest) (later : Reads bytes parts) : Spelled ⟨bytes⟩ parts

section

variable {path : Path} {bytes segment rest first : Bytes} {body others : List Bytes} {found : List Part}

theorem segments_ends (single : slash ∉ segment) (ends : Ends rest) :
    ∃ others, segments (segment ++ rest) = segment :: others ∧ bodyParts others = bodyParts (segments rest) := by
  rcases ends with rfl | start
  · exact ⟨[], by rw [List.append_nil, segments_single segment single], rfl⟩
  · obtain ⟨tail, rfl⟩ := List.head?_eq_some_iff.mp start
    refine ⟨segments tail, by rw [segments_append, segments_single segment single, List.singleton_append], ?_⟩
    rw [segments_slash, bodyParts_void rfl]

theorem glue_ends (first : Bytes) (others : List Bytes) :
    ∃ rest, glue (first :: others) = first ++ rest ∧ Ends rest ∧ (rest = [] ∧ others = [] ∨ rest = slash :: glue others) := by
  by_cases last : others = []
  · exact ⟨[], by simp [last, glue], .inl rfl, .inl ⟨rfl, last⟩⟩
  · exact ⟨slash :: glue others, glue_cons first others last, .inr rfl, .inr rfl⟩

theorem Reads.parts (reads : Reads bytes found) : bodyParts (segments bytes) = found := by
  induction reads with
  | empty => rfl
  | gap _ ih => rw [segments_slash, bodyParts_void rfl, ih]
  | here ends _ ih =>
    obtain ⟨others, cut, same⟩ := segments_ends (show slash ∉ dot by decide) ends
    rw [cut, bodyParts_void rfl, same, ih]
  | up ends _ ih =>
    obtain ⟨others, cut, same⟩ := segments_ends (show slash ∉ dots by decide) ends
    rw [cut, ← ih, ← same]
    rfl
  | name filled single notHere notUp ends _ ih =>
    obtain ⟨others, cut, same⟩ := segments_ends single ends
    rw [cut, ← ih, ← same]
    simp [bodyParts, bodyPart?, isVoid, filled, notHere, notUp]

-- By the segments: what comes after one of them is empty or starts with the next slash.
theorem reads_glue (single : ∀ segment ∈ body, slash ∉ segment) : Reads (glue body) (bodyParts body) := by
  induction body with
  | nil => exact .empty
  | cons first others ih =>
    rw [List.forall_mem_cons] at single
    obtain ⟨rest, whole, ends, next⟩ := glue_ends first others
    have later : Reads rest (bodyParts others) := by
      rcases next with ⟨rfl, rfl⟩ | rfl
      · exact .empty
      · exact .gap (ih single.2)
    rw [whole]
    by_cases filled : first = []
    · rw [filled, bodyParts_void rfl]
      exact later
    · by_cases point : first = dot
      · rw [point, bodyParts_void rfl]
        exact .here ends later
      · by_cases climb : first = dots
        · rw [climb]
          exact .up ends later
        · have named : bodyParts (first :: others) = .name first :: bodyParts others := by
            simp [bodyParts, bodyPart?, isVoid, filled, point, climb]
          rw [named]
          exact .name filled single.1 point climb ends later

theorem reads_segments (bytes : Bytes) : Reads bytes (bodyParts (segments bytes)) := by
  have reads := reads_glue (segment_single bytes)
  rwa [glue_segments] at reads

theorem Spelled.parts_eq (spelled : Spelled path found) : path.parts = found := by
  cases spelled with
  | absolute later =>
    rw [parts_of_anatomy (anatomy_slash _), later.parts]
    rfl
  | here ends later =>
    obtain ⟨others, cut, same⟩ := segments_ends (show slash ∉ dot by decide) ends
    have known := anatomy_cut cut (by decide)
    rw [if_pos rfl] at known
    rw [parts_of_anatomy known, same, later.parts]
    rfl
  | @loose bytes _ relative free later =>
    rw [← later.parts]
    cases shape ⟨bytes⟩ with
    | empty bare same =>
      obtain rfl : bytes = [] := bare
      rfl
    | root rest start _ =>
      obtain rfl : bytes = slash :: rest := start
      exact absurd rfl relative
    | here others cut _ =>
      obtain ⟨rest, whole, ends, _⟩ := glue_ends dot others
      rw [← cut, glue_segments] at whole
      exact absurd whole (free rest ends)
    | loose first others cut _ same =>
      rw [parts_of_anatomy same, ← cut]
      rfl

theorem spelled_parts (path : Path) : Spelled path path.parts := by
  cases shape path with
  | empty bare same =>
    obtain ⟨bytes⟩ := path
    obtain rfl : bytes = [] := bare
    exact .loose (by simp) (fun rest _ => by simp [dot]) .empty
  | root rest start same =>
    obtain ⟨bytes⟩ := path
    obtain rfl : bytes = slash :: rest := start
    rw [parts_of_anatomy same]
    exact .absolute (reads_segments rest)
  | here others cut same =>
    obtain ⟨bytes⟩ := path
    obtain ⟨rest, whole, ends, _⟩ := glue_ends dot others
    rw [← cut, glue_segments] at whole
    obtain rfl : bytes = dot ++ rest := whole
    obtain ⟨more, again, left⟩ := segments_ends (show slash ∉ dot by decide) ends
    obtain rfl : more = others := (List.cons.inj (again.symm.trans cut)).2
    rw [parts_of_anatomy same, left]
    exact .here ends (reads_segments rest)
  | loose first others cut solid same =>
    obtain ⟨bytes⟩ := path
    rw [parts_of_anatomy same, ← cut]
    refine .loose (solid_relative cut solid) (fun rest ends begun => ?_) (reads_segments bytes)
    obtain ⟨more, again, _⟩ := segments_ends (show slash ∉ dot by decide) ends
    rw [begun, again] at cut
    simp [isVoid, ← (List.cons.inj cut).1] at solid

theorem spelled_iff (path : Path) (found : List Part) : Spelled path found ↔ found = path.parts := by
  refine ⟨fun spelled => spelled.parts_eq.symm, fun same => ?_⟩
  rw [same]
  exact spelled_parts path

end

end InkProject.Path
