import InkProject.Compiler.Report
import InkProject.Proofs.Text.Blank
import InkProject.Proofs.Text.Decoding
set_option autoImplicit false

namespace InkProject.Compiler

open Blank

def Tells (line : List Char) (said : Message) : Prop :=
  ∃ rest, line = said.kind.mark ++ rest ∧ said.text = String.ofList (trim rest)

inductive Shared : List (List Char) → List Message → List String → Prop where
  | nil : Shared [] [] []
  | message {line : List Char} {said : Message} {lines : List (List Char)} {messages : List Message} {other : List String}
      (tells : Tells line said) (rest : Shared lines messages other) : Shared (line :: lines) (said :: messages) other
  | other {line : List Char} {lines : List (List Char)} {messages : List Message} {other : List String}
      (unmarked : ∀ kind : MessageKind, ¬ kind.mark <+: line) (rest : Shared lines messages other) :
      Shared (line :: lines) messages (String.ofList line :: other)

def OutputLine.written : OutputLine → List Char
  | .message said => said.kind.mark ++ ' ' :: said.text.toList
  | .other text => text.toList

def writtenLines (lines : List OutputLine) : List Char := lines.flatMap fun line => line.written ++ ['\n']

section

variable {line rest text : List Char} {kind : MessageKind} {said : Message}

theorem after?_eq_none {mark : List Char} (unmarked : ¬ mark <+: line) : after? mark line = none := by
  induction mark generalizing line with
  | nil => exact absurd (List.nil_prefix) unmarked
  | cons char mark ih =>
    cases line with
    | nil => rfl
    | cons first line =>
      rw [after?]
      split
      · rename_i same
        exact ih fun more => unmarked (same ▸ (List.prefix_cons_inj char).mpr more)
      · rfl

-- No two marks begin with the same letter.
theorem ofLine_mark (kind : MessageKind) (rest : List Char) :
    OutputLine.ofLine (kind.mark ++ rest) = .message ⟨kind, String.ofList (trim rest)⟩ := by
  have found : MessageKind.all.findSome? (fun other => (after? other.mark (kind.mark ++ rest)).map (other, ·)) =
      some (kind, rest) := by
    cases kind with
    | error => rfl
    | warning => rfl
    | todo => rfl
  rw [OutputLine.ofLine, found]

theorem ofLine_tells (tells : Tells line said) : OutputLine.ofLine line = .message said := by
  obtain ⟨rest, rfl, text⟩ := tells
  rw [ofLine_mark, ← text]

theorem ofLine_other (unmarked : ∀ kind : MessageKind, ¬ kind.mark <+: line) :
    OutputLine.ofLine line = .other (String.ofList line) := by
  have none : MessageKind.all.findSome? (fun kind => (after? kind.mark line).map (kind, ·)) = none := by
    rw [List.findSome?_eq_none_iff]
    intro kind _
    rw [after?_eq_none (unmarked kind)]
    rfl
  rw [OutputLine.ofLine, none]

theorem outputLines_spoken (text : List Char) : outputLines text = (spokenLines text).map OutputLine.ofLine := by
  rw [outputLines, spokenLines_eq]

theorem shared_iff (lines : List (List Char)) (messages : List Message) (other : List String) :
    Shared lines messages other ↔ Output.ofLines (lines.map OutputLine.ofLine) = ⟨messages, other⟩ := by
  constructor
  · intro shared
    induction shared with
    | nil => rfl
    | message tells _ ih =>
      rw [List.map_cons, ofLine_tells tells]
      rw [Output.ofLines, Output.mk.injEq] at ih ⊢
      exact ⟨congrArg (_ :: ·) ih.1, ih.2⟩
    | other unmarked _ ih =>
      rw [List.map_cons, ofLine_other unmarked]
      rw [Output.ofLines, Output.mk.injEq] at ih ⊢
      exact ⟨ih.1, congrArg (_ :: ·) ih.2⟩
  · intro same
    rw [Output.ofLines, Output.mk.injEq] at same
    obtain ⟨rfl, rfl⟩ := same
    induction lines with
    | nil => exact .nil
    | cons line lines ih =>
      rw [List.map_cons]
      by_cases marked : ∃ kind : MessageKind, kind.mark <+: line
      · obtain ⟨kind, rest, rfl⟩ := marked
        rw [ofLine_mark]
        exact .message ⟨rest, rfl, rfl⟩ ih
      · have unmarked := not_exists.mp marked
        rw [ofLine_other unmarked]
        exact .other unmarked ih

theorem parse_eq_iff (text : List Char) (messages : List Message) (other : List String) :
    Output.parse text = ⟨messages, other⟩ ↔ Shared (spokenLines text) messages other := by
  rw [shared_iff, Output.parse, outputLines_spoken]

theorem outputLines_append (a b : List Char) : outputLines (a ++ '\n' :: b) = outputLines a ++ outputLines b := by
  simp only [outputLines_spoken, spokenLines_append, List.map_append]

theorem parse_append (a b : List Char) : Output.parse (a ++ '\n' :: b) = (Output.parse a).append (Output.parse b) := by
  simp only [Output.parse, Output.ofLines, Output.append, outputLines_append, List.filterMap_append]

theorem mark_bare (kind : MessageKind) : Bare kind.mark := by
  cases kind <;> exact ⟨by simp [MessageKind.mark, isBlank], by simp [MessageKind.mark, isBlank]⟩

theorem mark_whole (kind : MessageKind) : '\n' ∉ kind.mark := by
  cases kind <;> decide

theorem mark_filled (kind : MessageKind) : kind.mark ≠ [] := by
  cases kind <;> exact List.cons_ne_nil _ _

theorem blank_space : AllBlank [' '] := by simp [AllBlank, isBlank]

theorem trim_mark (bare : Bare text) : ∃ rest, trim (kind.mark ++ ' ' :: text) = kind.mark ++ rest ∧ trim rest = text := by
  have mark := mark_bare kind
  cases text with
  | nil => exact ⟨[], by simpa using @trim_padded kind.mark [] [' '] mark nofun blank_space, rfl⟩
  | cons char more =>
    refine ⟨' ' :: char :: more, trim_of_bare ⟨?_, ?_⟩, ?_⟩
    · intro first starts
      rw [List.head?_append_of_ne_nil _ (mark_filled kind)] at starts
      exact mark.first first starts
    · intro last ends
      rw [List.getLast?_append_of_ne_nil _ (List.cons_ne_nil _ _), List.getLast?_cons_cons] at ends
      exact bare.last last ends
    · simpa using @trim_padded (char :: more) [' '] [] bare blank_space nofun

theorem written_again (spoken : Spoken line) : outputLines (OutputLine.ofLine line).written = [OutputLine.ofLine line] := by
  rw [outputLines_spoken]
  by_cases marked : ∃ kind : MessageKind, kind.mark <+: line
  · obtain ⟨kind, rest, rfl⟩ := marked
    obtain ⟨more, cut, same⟩ := @trim_mark (trim rest) kind (trim_bare rest)
    have whole : '\n' ∉ kind.mark ++ ' ' :: trim rest := by
      have inside : '\n' ∉ trim rest := fun member => spoken.whole (List.mem_append_right _ (mem_trim member))
      simp [mark_whole kind, inside]
    have filled : trim (kind.mark ++ ' ' :: trim rest) ≠ [] := by
      rw [cut]
      simp [mark_filled kind]
    have written : (OutputLine.message ⟨kind, String.ofList (trim rest)⟩).written = kind.mark ++ ' ' :: trim rest := by
      rw [OutputLine.written, String.toList_ofList]
    rw [ofLine_mark, written, spokenLines_single whole filled, cut, List.map_singleton, ofLine_mark, same]
  · have unmarked := not_exists.mp marked
    have same := trim_of_bare spoken.bare
    have written : (OutputLine.other (String.ofList line)).written = line := String.toList_ofList
    rw [ofLine_other unmarked, written, spokenLines_single spoken.whole (by rw [same]; exact spoken.filled), same, List.map_singleton,
      ofLine_other unmarked]

theorem outputLines_written {lines : List OutputLine} (again : ∀ line ∈ lines, outputLines line.written = [line]) :
    outputLines (writtenLines lines) = lines := by
  induction lines with
  | nil => rfl
  | cons line lines ih =>
    have cut : writtenLines (line :: lines) = line.written ++ '\n' :: writtenLines lines := by simp [writtenLines]
    rw [cut, outputLines_append, again line List.mem_cons_self, ih fun other member => again other (List.mem_cons_of_mem _ member)]
    rfl

theorem mem_of_parts {lines others : List OutputLine} (same : Output.ofLines lines = Output.ofLines others) {line : OutputLine}
    (member : line ∈ lines) : line ∈ others := by
  rw [Output.ofLines, Output.ofLines, Output.mk.injEq] at same
  cases line with
  | message said =>
    have there : said ∈ lines.filterMap OutputLine.message? := List.mem_filterMap.mpr ⟨_, member, rfl⟩
    rw [same.1, List.mem_filterMap] at there
    obtain ⟨other, inside, told⟩ := there
    cases other <;> cases told
    exact inside
  | other text =>
    have there : text ∈ lines.filterMap OutputLine.other? := List.mem_filterMap.mpr ⟨_, member, rfl⟩
    rw [same.2, List.mem_filterMap] at there
    obtain ⟨other, inside, told⟩ := there
    cases other <;> cases told
    exact inside

theorem parse_written {lines : List OutputLine} (same : Output.ofLines lines = Output.parse text) :
    Output.parse (writtenLines lines) = Output.parse text := by
  have again : ∀ line ∈ lines, outputLines line.written = [line] := by
    intro line member
    have inside := mem_of_parts same member
    rw [outputLines_spoken, List.mem_map] at inside
    obtain ⟨raw, spoken, rfl⟩ := inside
    exact written_again (spoken_of_mem spoken)
  rw [Output.parse, outputLines_written again, same]

end

end InkProject.Compiler
