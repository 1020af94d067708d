import InkProject.Files.Series
import InkProject.Proofs.Disk.Ending
import InkProject.Proofs.Text.Encoding
import Mathlib.Data.Set.Card
/- The free name is the first one of its series that leads to nothing. All of the series stand
   in one directory, and no two are the same there, so a directory has them not all. -/
set_option autoImplicit false

namespace InkProject

theorem Node.count_positive : (node : Node) → 0 < node.count
  | .file _ _ | .link _ | .device _ => Nat.one_pos
  | .dir entries => Nat.succ_pos entries.count

namespace Entries

theorem names_count (entries : Entries) : entries.names.length ≤ entries.count := by
  match entries with
  | .nil => exact Nat.le_refl 0
  | .cons name node rest =>
    have positive := node.count_positive
    have later := names_count rest
    simp only [names, toList, List.map_cons, List.length_cons, count] at later ⊢
    omega

theorem find?_count (entries : Entries) (name : Bytes) (node : Node) (held : entries.find? name = some node) :
    node.count ≤ entries.count := by
  match entries with
  | .nil => cases held
  | .cons other first rest =>
    rw [find?] at held
    rw [count]
    split at held
    · cases held
      omega
    · have later := find?_count rest name node held
      omega

theorem at?_count (entries : Entries) (place : Place) (inner : Entries) (held : entries.at? place = some (.dir inner)) :
    inner.count ≤ entries.count := by
  induction place generalizing entries with
  | nil =>
    rw [at?_nil] at held
    cases held
    exact Nat.le_refl _
  | cons name rest ih =>
    rw [at?_cons] at held
    obtain ⟨node, member, inside⟩ := Option.bind_eq_some_iff.mp held
    have whole := find?_count entries name node member
    rcases node.dir_or_leaf with ⟨directory, rfl⟩ | leaf
    · have below := ih directory inside
      rw [Node.count] at whole
      omega
    · by_cases last : rest = []
      · rw [last, Node.at?_nil, Option.some.injEq] at inside
        rw [inside] at leaf
        cases leaf
      · rw [Node.at?_leaf node leaf rest last] at inside
        cases inside

end Entries

namespace Path

theorem segments_extended {a b : Bytes} {front : List Bytes} {last : Bytes} (whole : segments a = front ++ [last])
    (single : slash ∉ b) : segments (a ++ b) = front ++ [last ++ b] := by
  induction a generalizing front last with
  | nil =>
    have whole : [] ++ [[]] = front ++ [last] := whole
    obtain ⟨rfl, same⟩ := List.append_inj' whole rfl
    cases same
    exact segments_single b single
  | cons byte rest ih =>
    obtain ⟨before, final, split⟩ := List.eq_nil_or_concat (segments rest) |>.resolve_left (segments_ne_nil rest)
    rw [List.concat_eq_append] at split
    rw [List.cons_append, segments, ih split]
    rw [segments, split] at whole
    by_cases same : byte = slash
    · rw [if_pos same] at whole ⊢
      have whole : ([] :: before) ++ [final] = front ++ [last] := whole
      obtain ⟨rfl, tail⟩ := List.append_inj' whole rfl
      cases tail
      rfl
    · rw [if_neg same] at whole ⊢
      cases before with
      | nil =>
        have whole : [] ++ [byte :: final] = front ++ [last] := whole
        obtain ⟨rfl, tail⟩ := List.append_inj' whole rfl
        cases tail
        rfl
      | cons first others =>
        have whole : ((byte :: first) :: others) ++ [final] = front ++ [last] := whole
        obtain ⟨rfl, tail⟩ := List.append_inj' whole rfl
        cases tail
        rfl

section

variable {directory : Path} {a b : Bytes}

theorem isAbsolute_extended (single : slash ∉ b) : (Path.mk (a ++ b)).isAbsolute = (Path.mk a).isAbsolute := by
  cases a with
  | nil => exact relative_of_single b single
  | cons byte rest => rfl

theorem names_extended {front : List Bytes} {last : Bytes} (whole : segments a = front ++ [last]) (filled : b ≠ [])
    (single : slash ∉ b) : (Path.mk (a ++ b)).names = front.filter (· ≠ []) ++ [last ++ b] := by
  simp [names, segments_extended whole single, filled]

theorem join_endsInSlash (filled : b ≠ []) (single : slash ∉ b) : (directory.join ⟨a ++ b⟩).endsInSlash = false := by
  have last : b.getLast? ≠ some slash := fun same => single (List.mem_of_getLast? same)
  obtain ⟨byte, found⟩ : ∃ byte, b.getLast? = some byte := by
    rw [List.getLast?_eq_some_getLast filled]
    exact ⟨_, rfl⟩
  rw [join]
  split
  · simp_all [endsInSlash, List.getLast?_append]
  · split <;> simp_all [endsInSlash, List.getLast?_append, List.getLast?_cons]

end

end Path

namespace Disk

open InkProject.Path

theorem leads_last {disk : Disk} {path : Path} {place : Place} {front : List Bytes} {name : Bytes}
    (leads : disk.Leads path place) (whole : path.names = front ++ [name]) (open_end : path.endsInSlash = false) :
    ∃ links parent, disk.Way ⟨linkLimit, startOf path.bytes disk.cwd, front⟩ ⟨links, parent, []⟩ ∧
      disk.view parent = some Node.emptyDir ∧
      (name = [] ∨ name = dot ∨ name = dots ∨ disk.view (parent ++ [name]) ≠ none) := by
  obtain ⟨_, left, way⟩ := leads
  rw [starting, steps_open path open_end, whole] at way
  obtain ⟨links, parent, before, after⟩ := way_split disk ⟨_, _, front⟩ [name] left place way
  refine ⟨links, parent, before, ?_⟩
  rcases Relation.ReflTransGen.cases_head after with same | ⟨next, step, _⟩
  · cases same
  · obtain ⟨directory, moves⟩ := advance_cases next step
    refine ⟨directory, ?_⟩
    rcases moves with ⟨rfl | rfl, _⟩ | ⟨rfl, _⟩ | ⟨_, node, held, _⟩ | ⟨_, target, held, _⟩
    · exact .inr (.inl rfl)
    · exact .inl rfl
    · exact .inr (.inr (.inl rfl))
    · exact .inr (.inr (.inr (by simp [held])))
    · exact .inr (.inr (.inr (by simp [held])))

end Disk

namespace Files

open InkProject.Path

def suffix (extension : String) : Nat → String
  | 0 => "." ++ extension
  | number => " " ++ toString number ++ "." ++ extension

theorem numbered_eq (directory : Path) (stem extension : String) (number : Nat) :
    numbered directory stem extension number = directory.join ⟨Utf8.ofString stem ++ Utf8.ofString (suffix extension number)⟩ := by
  have same : numbered directory stem extension number = directory.childNamed (stem ++ suffix extension number) := by
    cases number with
    | zero => rw [numbered, suffix, ← String.append_assoc]; rfl
    | succ number => simp only [numbered, suffix, String.append_assoc]; rfl
  rw [same, childNamed, ofString, Utf8.ofString_append]

theorem toString_injective (a b : Nat) (same : toString a = toString b) : a = b := by
  rw [Nat.toString_eq_ofList_toDigits, Nat.toString_eq_ofList_toDigits] at same
  have digits := congrArg String.toList same
  rw [String.toList_ofList, String.toList_ofList] at digits
  have back := congrArg (fun digits => Nat.ofDigitChars 10 digits 0) digits
  simpa only [Nat.ofDigitChars_ten_toDigits] using back

theorem suffix_injective (extension : String) : Function.Injective fun number => Utf8.ofString (suffix extension number) := by
  intro a b same
  have same := Utf8.ofString_injective _ _ same
  have apart (number : Nat) : suffix extension 0 ≠ suffix extension (number + 1) := by
    intro equal
    have first := congrArg (fun text => text.toList.head?) equal
    simp [suffix] at first
  cases a with
  | zero =>
    cases b with
    | zero => rfl
    | succ b => exact absurd same (apart b)
  | succ a =>
    cases b with
    | zero => exact absurd same.symm (apart a)
    | succ b =>
      simp only [suffix, String.append_left_inj, String.append_right_inj] at same
      exact toString_injective _ _ same

structure PlainExtension (extension : String) : Prop where
  single : '/' ∉ extension.toList
  long : 2 ≤ (Utf8.ofString extension).length

theorem story_plain : PlainExtension storyExtension := ⟨by decide, by decide⟩

theorem state_plain : PlainExtension stateExtension := ⟨by decide, by decide⟩

section

variable {extension : String}

theorem suffix_single (plain : PlainExtension extension) (number : Nat) : slash ∉ Utf8.ofString (suffix extension number) := by
  rw [Utf8.slash_mem_ofString]
  have digits : '/' ∉ (toString number).toList := by
    rw [Nat.toString_eq_ofList_toDigits, String.toList_ofList]
    intro member
    exact absurd (Nat.isDigit_of_mem_toDigits (by decide) (by decide) member) (by decide)
  have single := plain.single
  cases number with
  | zero => simpa [suffix] using single
  | succ number => simpa [suffix, single] using digits

theorem suffix_long (plain : PlainExtension extension) (number : Nat) : 3 ≤ (Utf8.ofString (suffix extension number)).length := by
  have long := plain.long
  have dotted : (Utf8.ofString ("." ++ extension)).length = (Utf8.ofString extension).length + 1 := by
    rw [Utf8.ofString_append, List.length_append, Nat.add_comm]
    rfl
  cases number with
  | zero =>
    rw [suffix, dotted]
    omega
  | succ number =>
    simp only [suffix, String.append_assoc]
    rw [Utf8.ofString_append, Utf8.ofString_append, List.length_append, List.length_append, dotted]
    omega

-- The names of a series differ in the last part only, and there they all differ.
theorem numbered_names (plain : PlainExtension extension) (directory : Path) (stem : String) : ∃ front last, ∀ number,
    (numbered directory stem extension number).names = front ++ [last ++ Utf8.ofString (suffix extension number)] ∧
      (numbered directory stem extension number).endsInSlash = false ∧
      ∀ current, Disk.startOf (numbered directory stem extension number).bytes current =
        Disk.startOf (numbered directory stem extension 0).bytes current := by
  obtain ⟨front, last, whole⟩ :=
    List.eq_nil_or_concat (segments (Utf8.ofString stem)) |>.resolve_left (segments_ne_nil _)
  rw [List.concat_eq_append] at whole
  have filled (number : Nat) : Utf8.ofString (suffix extension number) ≠ [] := by
    intro empty
    have long := suffix_long plain number
    rw [empty] at long
    cases long
  have ends (number : Nat) : (numbered directory stem extension number).endsInSlash = false := by
    rw [numbered_eq]
    exact join_endsInSlash (filled number) (suffix_single plain number)
  have absolute (number : Nat) : (Path.mk (Utf8.ofString stem ++ _)).isAbsolute = (Path.mk (Utf8.ofString stem)).isAbsolute :=
    isAbsolute_extended (suffix_single plain number)
  have names (number : Nat) := names_extended whole (filled number) (suffix_single plain number)
  by_cases start : (Path.mk (Utf8.ofString stem)).isAbsolute = true
  · have same (number : Nat) : numbered directory stem extension number =
        ⟨Utf8.ofString stem ++ Utf8.ofString (suffix extension number)⟩ := by
      rw [numbered_eq, join, if_pos ((absolute number).trans start)]
    have top (number : Nat) (current : Place) :
        Disk.startOf (numbered directory stem extension number).bytes current = [] := by
      rw [same, Disk.startOf, if_pos (by simpa [isAbsolute] using (absolute number).trans start)]
    refine ⟨front.filter (· ≠ []), last, fun number => ⟨?_, ends number, fun current => ?_⟩⟩
    · rw [same, names]
    · rw [top, top]
  · have relative (number : Nat) := (absolute number).trans (Bool.eq_false_of_not_eq_true start)
    refine ⟨directory.names ++ front.filter (· ≠ []), last, fun number => ⟨?_, ends number, fun current => ?_⟩⟩
    · rw [numbered_eq, names_join (relative number), names, List.append_assoc]
    · rw [numbered_eq, numbered_eq, startOf_join (relative number), startOf_join (relative 0)]

theorem numbered_held (plain : PlainExtension extension) (disk : Disk) (directory : Path) (stem : String) :
    ∃ (names : List Bytes) (last : Bytes), names.length ≤ disk.top.count ∧
      ∀ number, disk.exists? (numbered directory stem extension number) = true →
        last ++ Utf8.ofString (suffix extension number) ∈ names := by
  obtain ⟨front, last, shape⟩ := numbered_names plain directory stem
  have ends (number : Nat) (present : disk.exists? (numbered directory stem extension number) = true) :
      ∃ links parent, disk.Way ⟨Disk.linkLimit, Disk.startOf (numbered directory stem extension 0).bytes disk.cwd, front⟩
        ⟨links, parent, []⟩ ∧ ∃ inner, disk.top.at? parent = some (.dir inner) ∧
          last ++ Utf8.ofString (suffix extension number) ∈ inner.names := by
    obtain ⟨whole, open_end, start⟩ := shape number
    obtain ⟨place, _, leads, _⟩ := (Disk.exists?_iff disk _).mp present
    obtain ⟨links, parent, way, directory, named⟩ := Disk.leads_last leads whole open_end
    rw [start] at way
    have long : 3 ≤ (last ++ Utf8.ofString (suffix extension number)).length :=
      Nat.le_trans (suffix_long plain number) (by simp)
    obtain ⟨inner, held⟩ := (Disk.view_dir disk parent).mp directory
    refine ⟨links, parent, way, inner, held, (Entries.mem_names inner _).mpr ?_⟩
    rcases named with empty | single | double | there
    · rw [empty] at long
      cases long
    · rw [single] at long
      exact absurd long (by decide)
    · rw [double] at long
      exact absurd long (by decide)
    · rw [Disk.view_child disk parent inner _ held] at there
      exact fun missing => there (by rw [missing]; rfl)
  by_cases some : ∃ number, disk.exists? (numbered directory stem extension number) = true
  · obtain ⟨first, present⟩ := some
    obtain ⟨links, parent, way, inner, held, _⟩ := ends first present
    refine ⟨inner.names, last, (Entries.names_count inner).trans (Entries.at?_count disk.top parent inner held), ?_⟩
    intro number present
    obtain ⟨_, other, also, entries, there, member⟩ := ends number present
    obtain rfl := (Disk.way_unique disk _ _ _ _ _ way also).2
    rw [held, Option.some.injEq, Node.dir.injEq] at there
    rwa [there]
  · refine ⟨[], last, Nat.zero_le _, ?_⟩
    intro number present
    exact absurd ⟨number, present⟩ some

theorem exists_free (plain : PlainExtension extension) (disk : Disk) (directory : Path) (stem : String) :
    ∃ number ≤ disk.top.count, disk.exists? (numbered directory stem extension number) = false := by
  obtain ⟨names, last, few, members⟩ := numbered_held plain disk directory stem
  by_contra none
  simp only [not_exists, not_and, Bool.not_eq_false] at none
  let taken := (List.range (disk.top.count + 1)).map fun number => last ++ Utf8.ofString (suffix extension number)
  have different : taken.Nodup := by
    refine List.Nodup.map (fun a b same => ?_) List.nodup_range
    exact suffix_injective extension (List.append_cancel_left same)
  have inside : taken ⊆ names := by
    intro name member
    obtain ⟨number, small, rfl⟩ := List.mem_map.mp member
    exact members number (none number (Nat.lt_succ_iff.mp (List.mem_range.mp small)))
  have many := (different.subperm inside).length_le
  rw [List.length_map, List.length_range] at many
  omega

end

structure First (disk : Disk) (name : Nat → Path) (number : Nat) : Prop where
  vacant : disk.exists? (name number) = false
  taken : ∀ smaller < number, disk.exists? (name smaller) = true

section

variable {disk : Disk} {name : Nat → Path} {number : Nat}

theorem First.freeFrom (first : First disk name number) {fuel start : Nat} (from_start : start ≤ number)
    (reached : number ≤ start + fuel) : freeFrom disk name fuel start = name number := by
  induction fuel generalizing start with
  | zero => rw [Files.freeFrom, Nat.le_antisymm from_start reached]
  | succ fuel ih =>
    rw [Files.freeFrom]
    rcases Nat.eq_or_lt_of_le from_start with rfl | later
    · rw [first.vacant, if_neg Bool.false_ne_true]
    · rw [if_pos (first.taken start later)]
      exact ih later (by omega)

theorem First.countedFrom (first : First disk name number) {left start : Nat} (from_start : start ≤ number)
    (reached : number < start + left) : countedFrom disk name left start = some (name number) := by
  induction left generalizing start with
  | zero => omega
  | succ left ih =>
    rw [Files.countedFrom]
    rcases Nat.eq_or_lt_of_le from_start with rfl | later
    · rw [first.vacant, if_neg Bool.false_ne_true]
    · rw [if_pos (first.taken start later)]
      exact ih later (by omega)

theorem First.counted (first : First disk name number) (small : number < greatestNumber) :
    counted disk name = some (name number) := by
  rw [Files.counted]
  rcases Nat.eq_zero_or_pos number with rfl | positive
  · rw [first.vacant, if_neg Bool.false_ne_true]
  · rw [if_pos (first.taken 0 positive)]
    exact first.countedFrom positive (by omega)

theorem First.small (first : First disk name number) {limit : Nat}
    (few : {taken | disk.exists? (name taken) = true}.encard < limit) : number < limit := by
  have below : (Finset.range number : Set Nat) ⊆ {taken | disk.exists? (name taken) = true} :=
    fun smaller member => first.taken smaller (Finset.mem_range.mp member)
  have bound := (Set.encard_le_encard below).trans_lt few
  rwa [Set.encard_coe_eq_coe_finsetCard, Finset.card_range, Nat.cast_lt] at bound

theorem first_of_vacant (vacant : disk.exists? (name number) = false) : ∃ first ≤ number, First disk name first := by
  have some : ∃ number, disk.exists? (name number) = false := ⟨number, vacant⟩
  refine ⟨Nat.find some, Nat.find_min' some vacant, Nat.find_spec some, fun smaller less => ?_⟩
  exact Bool.eq_true_of_not_eq_false (Nat.find_min some less)

theorem free_first {extension : String} (plain : PlainExtension extension) (disk : Disk) (directory : Path) (stem : String) :
    ∃ number, First disk (numbered directory stem extension) number ∧
      free disk directory stem extension = numbered directory stem extension number := by
  obtain ⟨vacant, small, absent⟩ := exists_free plain disk directory stem
  obtain ⟨number, least, first⟩ :
      ∃ number ≤ vacant, First disk (numbered directory stem extension) number := first_of_vacant absent
  exact ⟨number, first, first.freeFrom (Nat.zero_le _) (by omega)⟩

end

end Files

end InkProject
