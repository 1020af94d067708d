import InkProject.Text.Blank
import Mathlib.Data.List.TakeWhile
import Mathlib.Data.List.Forall2
set_option autoImplicit false

namespace InkProject.Blank

structure Bare (text : List Char) : Prop where
  first : ∀ char, text.head? = some char → isBlank char = false
  last : ∀ char, text.getLast? = some char → isBlank char = false

def AllBlank (text : List Char) : Prop := ∀ char ∈ text, isBlank char = true

section

variable {text before after : List Char} {char : Char}

theorem allBlank_reverse (blank : AllBlank text) : AllBlank text.reverse :=
  fun char member => blank char (List.mem_reverse.mp member)

theorem trimLeft_blank (blank : AllBlank before) : trimLeft (before ++ text) = trimLeft text :=
  List.dropWhile_append_of_pos blank

theorem trimLeft_bare (first : ∀ char, text.head? = some char → isBlank char = false) : trimLeft text = text := by
  cases text with
  | nil => rfl
  | cons char rest => exact List.dropWhile_cons_of_neg (by simp [first char rfl])

theorem trimLeft_first (text : List Char) (char : Char) (starts : (trimLeft text).head? = some char) :
    isBlank char = false := by
  have first := List.head?_dropWhile_not isBlank text
  rw [trimLeft] at starts
  rw [starts] at first
  simpa using first

theorem trim_padded (bare : Bare text) (blankBefore : AllBlank before) (blankAfter : AllBlank after) :
    trim (before ++ (text ++ after)) = text := by
  have starts : trimLeft (text ++ after) = text ++ after ∨ text = [] := by
    cases text with
    | nil => exact .inr rfl
    | cons char rest => exact .inl (trimLeft_bare fun other same => bare.first other same)
  rw [trim, trimLeft_blank blankBefore]
  rcases starts with whole | rfl
  · rw [whole, List.reverse_append, trimLeft_blank (allBlank_reverse blankAfter), trimLeft_bare, List.reverse_reverse]
    simpa using bare.last
  · have none : trimLeft ([] ++ after) = [] := by
      have dropped : trimLeft (after ++ []) = trimLeft [] := trimLeft_blank blankAfter
      simpa [trimLeft] using dropped
    rw [none]
    rfl

theorem trim_of_bare (bare : Bare text) : trim text = text := by
  have padded := @trim_padded text [] [] bare nofun nofun
  simpa using padded

theorem takeWhile_blank (text : List Char) : AllBlank (text.takeWhile isBlank) :=
  fun _ member => List.mem_takeWhile_imp member

theorem takeWhile_trimLeft (text : List Char) : text.takeWhile isBlank ++ trimLeft text = text :=
  List.takeWhile_append_dropWhile

theorem trim_append_blanks (text : List Char) : trim text ++ ((trimLeft text).reverse.takeWhile isBlank).reverse = trimLeft text := by
  rw [trim, ← List.reverse_append, takeWhile_trimLeft, List.reverse_reverse]

theorem trim_bare (text : List Char) : Bare (trim text) := by
  constructor
  case first =>
    intro char starts
    apply trimLeft_first text char
    rw [← trim_append_blanks, List.head?_append, starts]
    rfl
  case last =>
    intro char ends
    rw [trim, List.getLast?_reverse] at ends
    exact trimLeft_first _ char ends

theorem exists_padding (text : List Char) : ∃ before after, AllBlank before ∧ AllBlank after ∧
    text = before ++ (trim text ++ after) :=
  ⟨text.takeWhile isBlank, ((trimLeft text).reverse.takeWhile isBlank).reverse, takeWhile_blank _,
    allBlank_reverse (takeWhile_blank _), by rw [trim_append_blanks, takeWhile_trimLeft]⟩

theorem mem_trim (member : char ∈ trim text) : char ∈ text := by
  obtain ⟨before, after, _, _, padded⟩ := exists_padding text
  rw [padded]
  simp [member]

theorem trim_surrounded (blankBefore : AllBlank before) (blankAfter : AllBlank after) :
    trim (before ++ (text ++ after)) = trim text := by
  obtain ⟨first, last, blankFirst, blankLast, padded⟩ := exists_padding text
  have whole : before ++ (text ++ after) = (before ++ first) ++ (trim text ++ (last ++ after)) := by
    conv_lhs => rw [padded]
    simp only [List.append_assoc]
  rw [whole]
  exact trim_padded (trim_bare text) (List.forall_mem_append.mpr ⟨blankBefore, blankFirst⟩)
    (List.forall_mem_append.mpr ⟨blankLast, blankAfter⟩)

end

-- The lines of a text where a return just before a newline belongs to the end of the line.
def endedLines : List Char → List (List Char)
  | [] => []
  | '\r' :: '\n' :: rest => [] :: endedLines rest
  | char :: rest =>
    if char = '\n' then [] :: endedLines rest
    else match endedLines rest with
      | [] => [[char]]
      | line :: others => (char :: line) :: others

def spokenLines (text : List Char) : List (List Char) := ((endedLines text).map trim).filter (· ≠ [])

section

variable {text a b line : List Char} {char : Char}

theorem lines_alone (inside : char ≠ '\n') (none : lines text = []) : lines (char :: text) = [[char]] := by
  rw [lines, if_neg inside, none]

theorem lines_extended {others : List (List Char)} (inside : char ≠ '\n') (cut : lines text = line :: others) :
    lines (char :: text) = (char :: line) :: others := by
  rw [lines, if_neg inside, cut]

theorem endedLines_lines (text : List Char) :
    List.Forall₂ (fun ended line => line = ended ∨ line = ended ++ ['\r']) (endedLines text) (lines text) := by
  fun_induction endedLines text with
  | case1 => exact .nil
  | case2 rest ih =>
    rw [lines_extended (by decide) (lines_newline rest)]
    exact .cons (.inr rfl) ih
  | case3 rest _ ih =>
    rw [lines_newline]
    exact .cons (.inl rfl) ih
  | case4 char rest _ inside none ih =>
    rw [none] at ih
    rw [lines_alone inside (List.forall₂_nil_left_iff.mp ih)]
    exact .cons (.inl rfl) .nil
  | case5 char rest _ inside ended others cut ih =>
    rw [cut] at ih
    obtain ⟨line, more, same, later, whole⟩ := List.forall₂_cons_left_iff.mp ih
    rw [lines_extended inside whole]
    refine .cons (same.imp (congrArg (char :: ·)) (congrArg (char :: ·))) later

theorem trim_return (text : List Char) : trim (text ++ ['\r']) = trim text :=
  @trim_surrounded text [] ['\r'] nofun (by simp [AllBlank, isBlank])

theorem spokenLines_eq (text : List Char) : spokenLines text = ((lines text).map trim).filter (· ≠ []) := by
  have same : (endedLines text).map trim = (lines text).map trim := by
    rw [← List.forall₂_eq_eq_eq, List.forall₂_map_left_iff, List.forall₂_map_right_iff]
    refine (endedLines_lines text).imp fun ended line related => ?_
    rcases related with rfl | rfl
    · rfl
    · exact (trim_return ended).symm
  rw [spokenLines, same]

theorem lines_eq_nil (none : lines text = []) : text = [] := by
  cases text with
  | nil => rfl
  | cons char rest =>
    by_cases newline : char = '\n'
    · rw [newline, lines_newline] at none
      cases none
    · cases cut : lines rest with
      | nil =>
        rw [lines_alone newline cut] at none
        cases none
      | cons line others =>
        rw [lines_extended newline cut] at none
        cases none

theorem lines_append (a b : List Char) :
    lines (a ++ '\n' :: b) = lines a ++ lines b ∨ lines (a ++ '\n' :: b) = lines a ++ [] :: lines b := by
  induction a with
  | nil => exact .inr (lines_newline b)
  | cons char rest ih =>
    rw [List.cons_append]
    by_cases newline : char = '\n'
    · rw [newline, lines_newline, lines_newline]
      exact ih.imp (congrArg ([] :: ·)) (congrArg ([] :: ·))
    · cases cut : lines rest with
      | nil =>
        rw [lines_alone newline cut, lines_eq_nil cut]
        exact .inl (lines_extended newline (lines_newline b))
      | cons line others =>
        rw [cut] at ih
        rw [lines_extended newline cut]
        exact ih.imp (lines_extended newline) (lines_extended newline)

theorem spokenLines_append (a b : List Char) : spokenLines (a ++ '\n' :: b) = spokenLines a ++ spokenLines b := by
  simp only [spokenLines_eq]
  rcases lines_append a b with cut | cut <;> rw [cut] <;> simp [trim_nil]

theorem lines_single (whole : '\n' ∉ line) (filled : line ≠ []) : lines line = [line] := by
  induction line with
  | nil => exact absurd rfl filled
  | cons char rest ih =>
    obtain ⟨inside, whole⟩ := List.ne_and_not_mem_of_not_mem_cons whole
    cases rest with
    | nil => exact lines_alone (Ne.symm inside) rfl
    | cons next more => exact lines_extended (Ne.symm inside) (ih whole (List.cons_ne_nil _ _))

theorem lines_whole (member : line ∈ lines text) : '\n' ∉ line := by
  induction text generalizing line with
  | nil => cases member
  | cons char rest ih =>
    by_cases newline : char = '\n'
    · rw [newline, lines_newline] at member
      rcases List.mem_cons.mp member with rfl | later
      · exact List.not_mem_nil
      · exact ih later
    · cases cut : lines rest with
      | nil =>
        rw [lines_alone newline cut, List.mem_singleton] at member
        simpa [member] using Ne.symm newline
      | cons first others =>
        rw [cut] at ih
        rw [lines_extended newline cut] at member
        rcases List.mem_cons.mp member with rfl | later
        · exact List.not_mem_cons_of_ne_of_not_mem (Ne.symm newline) (ih List.mem_cons_self)
        · exact ih (List.mem_cons_of_mem _ later)

structure Spoken (line : List Char) : Prop where
  bare : Bare line
  filled : line ≠ []
  whole : '\n' ∉ line

theorem spoken_of_mem (member : line ∈ spokenLines text) : Spoken line := by
  rw [spokenLines_eq, List.mem_filter, List.mem_map] at member
  obtain ⟨⟨raw, cut, rfl⟩, filled⟩ := member
  exact ⟨trim_bare raw, of_decide_eq_true filled, fun inside => lines_whole cut (mem_trim inside)⟩

theorem spokenLines_single (whole : '\n' ∉ line) (filled : trim line ≠ []) : spokenLines line = [trim line] := by
  have there : line ≠ [] := fun empty => filled (empty ▸ trim_nil)
  rw [spokenLines_eq, lines_single whole there]
  simp [filled]

end

end InkProject.Blank
