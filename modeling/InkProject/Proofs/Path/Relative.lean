import InkProject.Path.Relative
import InkProject.Proofs.Path.Parts
import InkProject.Proofs.Text.Decoding
set_option autoImplicit false

namespace InkProject.Path

section

variable {path : Path} {bytes first : Bytes} {body others : List Bytes}

theorem bodyParts_dropParts (count : Nat) (body : List Bytes) :
    bodyParts (dropParts count body) = (bodyParts body).drop count := by
  induction count generalizing body with
  | zero => rfl
  | succ count ih =>
    rw [dropParts, ih, ← bodyParts_dropWhile body]
    cases cut : body.dropWhile isVoid with
    | nil => simp [bodyParts]
    | cons first others =>
      obtain ⟨part, parts⟩ := bodyParts_solid others (dropWhile_solid cut)
      rw [parts, List.drop_succ_cons]
      rfl

theorem dropParts_subset (count : Nat) (body : List Bytes) : dropParts count body ⊆ body := by
  induction count generalizing body with
  | zero => exact List.Subset.refl body
  | succ count ih =>
    rw [dropParts]
    exact fun segment member => List.dropWhile_subset _ (List.mem_of_mem_drop (ih _ member))

theorem relativeTo?_segments {full root rest : Path} (filled : root.parts ≠ []) (found : full.relativeTo? root = some rest) :
    ∃ left : List Bytes, rest = ⟨glue left⟩ ∧ left ⊆ full.anatomy.body ∧
      (∀ first others, left = first :: others → isVoid first = false) ∧ root.parts ++ bodyParts left = full.parts := by
  rw [relativeTo?] at found
  dsimp only at found
  split at found
  · rename_i inside
    rw [List.isPrefixOf_iff_prefix] at inside
    have some_parts : root.parts.length ≠ 0 := fun none => filled (List.eq_nil_of_length_eq_zero none)
    rw [if_neg some_parts, Option.some.injEq] at found
    refine ⟨_, found.symm, ?_, ?_, ?_⟩
    · intro segment member
      exact dropParts_subset _ _ (List.dropWhile_subset _ ((trimEnd_start _).subset member))
    · exact fun first others => trimEnd_solid fun _ _ => dropWhile_solid
    · have short : full.anatomy.head.toList.length ≤ root.parts.length := by
        have one : full.anatomy.head.toList.length ≤ 1 := by cases full.anatomy.head <;> simp
        omega
      rw [bodyParts_trimEnd, bodyParts_dropWhile, bodyParts_dropParts]
      have whole : full.parts = full.anatomy.head.toList ++ bodyParts full.anatomy.body := rfl
      conv_rhs => rw [← List.take_append_drop root.parts.length full.parts, ← List.prefix_iff_eq_take.mp inside]
      rw [whole, List.drop_append, List.drop_of_length_le short, List.nil_append]
  · cases found

theorem relativeTo?_of_bare {full root rest : Path} (bare : root.parts = []) (found : full.relativeTo? root = some rest) :
    rest = full.trimmed := by
  rw [relativeTo?, bare] at found
  simpa [eq_comm] using found

-- What is left goes on from the root, except that a root without bytes leaves everything.
theorem relativeTo?_parts {full root rest : Path} (found : full.relativeTo? root = some rest) :
    full.parts = root.parts ++ rest.parts ∧ (root.join rest).parts = full.parts := by
  by_cases bare : root.parts = []
  · rw [relativeTo?_of_bare bare found, bare, parts_trimmed, join, parts_eq_nil bare]
    refine ⟨rfl, ?_⟩
    by_cases absolute : full.trimmed.isAbsolute = true
    · rw [if_pos absolute, parts_trimmed]
    · rw [if_neg absolute, if_pos (.inl rfl), List.nil_append, parts_trimmed]
  · obtain ⟨left, rfl, inside, solid, whole⟩ := relativeTo?_segments bare found
    have known := glue_anatomy (fun segment member => body_single full segment (inside member)) solid
    have only : parts ⟨glue left⟩ = bodyParts left := parts_of_anatomy known
    rw [parts_join root _ (by rw [known]), only]
    exact ⟨whole.symm, whole⟩

end

def Clean (bytes : Bytes) : Prop := ∃ text : List Char, Utf8.encode text = bytes ∧ '\\' ∉ text

section

variable {a b bytes : Bytes} {body : List Bytes}

theorem Clean.append (first : Clean a) (second : Clean b) : Clean (a ++ b) := by
  obtain ⟨left, rfl, plain⟩ := first
  obtain ⟨right, rfl, also⟩ := second
  exact ⟨left ++ right, by simp [Utf8.encode], by simp [plain, also]⟩

theorem clean_slash : Clean [slash] := ⟨['/'], by decide, by decide⟩

theorem clean_dot : Clean dot := ⟨['.'], by decide, by decide⟩

theorem segments_prepend (single : slash ∉ a) {first : Bytes} {others : List Bytes} (cut : segments b = first :: others) :
    segments (a ++ b) = (a ++ first) :: others := by
  induction a with
  | nil => exact cut
  | cons byte rest ih =>
    rw [List.mem_cons, not_or] at single
    simp [segments, Ne.symm single.1, ih single.2]

-- By the characters: a slash is one of them, and any other goes to the segment that is open.
theorem clean_segments (clean : Clean bytes) : ∀ segment ∈ segments bytes, Clean segment := by
  obtain ⟨text, rfl, plain⟩ := clean
  induction text with
  | nil => exact fun segment member => ⟨[], (List.mem_singleton.mp member).symm, List.not_mem_nil⟩
  | cons char text ih =>
    rw [List.mem_cons, not_or] at plain
    have later := ih plain.2
    rw [show Utf8.encode (char :: text) = String.utf8EncodeChar char ++ Utf8.encode text from List.flatMap_cons]
    by_cases same : char = '/'
    · rw [show String.utf8EncodeChar char = [slash] by rw [same]; decide, List.singleton_append, segments_slash]
      exact List.forall_mem_cons.mpr ⟨⟨[], rfl, List.not_mem_nil⟩, later⟩
    · cases cut : segments (Utf8.encode text) with
      | nil => exact absurd cut (segments_ne_nil _)
      | cons first others =>
        rw [cut] at later
        rw [segments_prepend (fun member => same ((Utf8.slash_mem_encodeChar char).mp member)) cut]
        have here : Clean (String.utf8EncodeChar char) := ⟨[char], by simp [Utf8.encode], by simpa using plain.1⟩
        exact List.forall_mem_cons.mpr ⟨here.append (later first List.mem_cons_self),
          fun segment member => later segment (List.mem_cons_of_mem _ member)⟩

theorem clean_glue (clean : ∀ segment ∈ body, Clean segment) : Clean (glue body) := by
  induction body with
  | nil => exact ⟨[], rfl, List.not_mem_nil⟩
  | cons first others ih =>
    by_cases last : others = []
    · rw [last]
      exact clean first List.mem_cons_self
    · rw [glue_cons first others last]
      have later := ih fun segment member => clean segment (List.mem_cons_of_mem _ member)
      exact (clean first List.mem_cons_self).append (clean_slash.append later)

theorem clean_body {path : Path} (clean : Clean path.bytes) : ∀ segment ∈ path.anatomy.body, Clean segment := by
  intro segment member
  apply clean_segments clean
  cases shape path with
  | empty _ same =>
    rw [same] at member
    cases member
  | root rest bytes same =>
    rw [same] at member
    rw [bytes, segments_slash]
    exact List.mem_cons_of_mem _ member
  | here others cut same =>
    rw [same] at member
    rw [cut]
    exact List.mem_cons_of_mem _ member
  | loose first others cut _ same =>
    rw [same] at member
    rwa [cut]

theorem clean_path {whole : Anatomy} (clean : ∀ segment ∈ whole.body, Clean segment) : Clean whole.path.bytes := by
  have glued := clean_glue clean
  rw [Anatomy.path]
  split
  · exact clean_slash.append glued
  · by_cases empty : whole.body.isEmpty = true
    · rw [if_pos empty]
      exact clean_dot
    · rw [if_neg empty]
      exact clean_dot.append (clean_slash.append glued)
  · exact glued

theorem relativeTo?_clean {full root rest : Path} (clean : Clean full.bytes) (found : full.relativeTo? root = some rest) :
    Clean rest.bytes := by
  have pieces := clean_body clean
  by_cases bare : root.parts = []
  · rw [relativeTo?_of_bare bare found]
    exact clean_path fun segment member => pieces segment ((trimEnd_start _).subset member)
  · obtain ⟨left, rfl, inside, _⟩ := relativeTo?_segments bare found
    exact clean_glue fun segment member => pieces segment (inside member)

theorem withSlashes_clean {path : Path} (clean : Clean path.bytes) : ofString (withSlashes path.display) = path := by
  obtain ⟨bytes⟩ := path
  obtain ⟨text, rfl, plain⟩ := clean
  have read : Utf8.lossy (Utf8.encode text) = text := by
    rw [Utf8.lossy, Utf8.pieces_encode, List.map_map]
    exact List.map_id text
  have same : (text.map fun char => if char = '\\' then '/' else char) = text := by
    rw [List.map_congr_left fun char member => if_neg fun (slashed : char = '\\') => plain (slashed ▸ member)]
    exact List.map_id text
  rw [withSlashes, display, Utf8.lossyText, read, String.toList_ofList, same, ofString, Utf8.ofString, String.toList_ofList]

theorem withSlashes_plain (text : String) : '\\' ∉ (withSlashes text).toList := by
  rw [withSlashes, String.toList_ofList, List.mem_map]
  rintro ⟨char, _, made⟩
  by_cases slashed : char = '\\'
  · rw [if_pos slashed] at made
    exact absurd made (by decide)
  · rw [if_neg slashed] at made
    exact slashed made

theorem clean_text {path : Path} {text : String} (read : path.text? = some text) (plain : '\\' ∉ text.toList) :
    Clean path.bytes := ⟨text.toList, (Utf8.text?_eq_some _ _).mp read, plain⟩

end

section

variable {full root : Path}

theorem relativeTo?_isSome (full root : Path) : (full.relativeTo? root).isSome = true ↔ root.parts <+: full.parts := by
  rw [relativeTo?, ← List.isPrefixOf_iff_prefix]
  dsimp only
  split_ifs <;> simp_all

theorem projectRelative?_eq_some {shown : String} (found : projectRelative? full root = some shown) :
    ∃ rest, full.relativeTo? root = some rest ∧ withSlashes rest.display = shown := by
  rwa [projectRelative?, Option.map_eq_some_iff] at found

-- Where a part of the root meets another one, the path is not inside, whatever their bytes have in common.
theorem not_inside_sibling {before others : List Part} {name other : Part} (outer : root.parts = before ++ [name])
    (inner : full.parts = before ++ other :: others) (different : other ≠ name) : ¬ root.parts <+: full.parts := by
  rw [outer, inner, List.prefix_append_right_inj, List.cons_prefix_cons]
  exact fun holds => different holds.1.symm

end

structure ShownInside (full root : Path) (inner outer : List Part) : Prop where
  whole : ∀ parts, Spelled full parts ↔ parts = inner
  start : ∀ parts, Spelled root parts ↔ parts = outer
  inside : (projectRelative? full root).isSome = true ↔ outer <+: inner
  sibling : ∀ before name other others, outer = before ++ [.name name] → inner = before ++ .name other :: others →
    other ≠ name → projectRelative? full root = none
  slashes : ∀ shown, projectRelative? full root = some shown → '\\' ∉ shown.toList
  displayed : ∀ shown, projectRelative? full root = some shown → ∃ rest left, shown = withSlashes rest.display ∧
    Spelled rest left ∧ outer ++ left = inner ∧ Spelled (root.join rest) inner
  remaining : ∀ text shown, full.text? = some text → '\\' ∉ text.toList → projectRelative? full root = some shown →
    ∀ left, Spelled (ofString shown) left ↔ outer ++ left = inner
  back : ∀ text shown, full.text? = some text → '\\' ∉ text.toList → projectRelative? full root = some shown →
    ∀ parts, Spelled (root.join (ofString shown)) parts ↔ Spelled full parts

theorem path_shown_inside (full root : Path) : ∃ inner outer, ShownInside full root inner outer := by
  have known : (projectRelative? full root).isSome = true ↔ root.parts <+: full.parts := by
    rw [projectRelative?, Option.isSome_map, relativeTo?_isSome]
  have left : ∀ text shown, full.text? = some text → '\\' ∉ text.toList → projectRelative? full root = some shown →
      full.relativeTo? root = some (ofString shown) := by
    intro text shown read plain found
    obtain ⟨rest, within, rfl⟩ := projectRelative?_eq_some found
    rw [withSlashes_clean (relativeTo?_clean (clean_text read plain) within), within]
  refine ⟨full.parts, root.parts, spelled_iff full, spelled_iff root, known, ?sibling, ?slashes, ?displayed, ?remaining, ?back⟩
  case sibling =>
    intro before name other others outer inner different
    rw [← Option.not_isSome_iff_eq_none, known]
    exact not_inside_sibling outer inner fun same => different (Part.name.inj same)
  case slashes =>
    intro shown found
    obtain ⟨rest, _, rfl⟩ := projectRelative?_eq_some found
    exact withSlashes_plain rest.display
  case displayed =>
    intro shown found
    obtain ⟨rest, within, same⟩ := projectRelative?_eq_some found
    obtain ⟨divided, again⟩ := relativeTo?_parts within
    exact ⟨rest, rest.parts, same.symm, spelled_parts rest, divided.symm, again ▸ spelled_parts (root.join rest)⟩
  case remaining =>
    intro text shown read plain found parts
    rw [spelled_iff, (relativeTo?_parts (left text shown read plain found)).1, List.append_cancel_left_eq]
  case back =>
    intro text shown read plain found parts
    rw [spelled_iff, spelled_iff, (relativeTo?_parts (left text shown read plain found)).2]

example : projectRelative? (ofString "//p/./a//b/") (ofString "/p/") = some "a//b" := by decide

end InkProject.Path
