import InkProject.Proofs.Json.Scalars
import InkProject.Proofs.Results
import InkProject.Proofs.Table
set_option autoImplicit false

namespace InkProject.Json

-- Values that stand within a depth that is left, as a reader makes them: no doubles,
-- whole numbers of 64 bits, and members in order.
inductive Fits : Nat → Json → Prop
  | null {depth : Nat} : Fits depth .null
  | bool {depth : Nat} (value : Bool) : Fits depth (.bool value)
  | integer {depth : Nat} {value : Int} (low : least ≤ value) (high : value ≤ greatest) : Fits depth (.integer value)
  | string {depth : Nat} (text : String) : Fits depth (.string text)
  | array {depth : Nat} {values : List Json} (inside : ∀ item ∈ values, Fits (depth + 1) item) :
    Fits (depth + 2) (.array values)
  | object {depth : Nat} {table : Table Json} (ordered : table.Ordered)
    (inside : ∀ entry ∈ table, Fits (depth + 1) entry.2) : Fits (depth + 2) (.object table)

theorem Fits.deeper {depth : Nat} {json : Json} (fits : Fits depth json) : Fits (depth + 1) json := by
  induction fits with
  | null => exact .null
  | bool value => exact .bool value
  | integer low high => exact .integer low high
  | string text => exact .string text
  | array inside ih => exact .array ih
  | object ordered inside ih => exact .object ordered ih

theorem Fits.array_iff {depth : Nat} {values : List Json} :
    Fits (depth + 2) (.array values) ↔ ∀ item ∈ values, Fits (depth + 1) item := by
  constructor
  · intro fits
    cases fits with
    | array inside => exact inside
  · exact .array

theorem Fits.object_iff {depth : Nat} {table : Table Json} :
    Fits (depth + 2) (.object table) ↔ table.Ordered ∧ ∀ entry ∈ table, Fits (depth + 1) entry.2 := by
  constructor
  · intro fits
    cases fits with
    | object ordered inside => exact ⟨ordered, inside⟩
  · intro both
    exact .object both.1 both.2

-- Any fuel is enough that is twice the length of the text.
def ReadsBack (depth : Nat) (json : Json) : Prop :=
  ∀ fuel rest, Closed rest → 2 * (write json rest).length ≤ fuel → value fuel depth (write json rest) = .ok (json, rest)

section

variable {depth fuel : Nat} {rest : List Char}

theorem closed_comma (rest : List Char) : Closed (',' :: rest) := by
  intro char same
  cases same
  exact .inl rfl

theorem closed_bracket (rest : List Char) : Closed (']' :: rest) := by
  intro char same
  cases same
  exact .inr (.inl rfl)

theorem closed_brace (rest : List Char) : Closed ('}' :: rest) := by
  intro char same
  cases same
  exact .inr (.inr rfl)

theorem skip_solid {char : Char} (solid : isSpace char = false) (rest : List Char) : skip (char :: rest) = char :: rest := by
  rw [skip, List.dropWhile_cons, solid]
  rfl

theorem items_end (read : List Json) : items (fuel + 1) depth read (']' :: rest) = .ok (.array read.reverse, rest) := by
  rw [items.eq_def]
  dsimp only
  rw [skip_solid (by decide)]
  exact if_pos rfl

theorem items_first {char : Char} (solid : isSpace char = false) (other : char ≠ ']') :
    items (fuel + 1) depth [] (char :: rest) = (do
      let (item, rest) ← value fuel depth (char :: rest)
      items fuel depth [item] rest) := by
  rw [items.eq_def]
  dsimp only
  rw [skip_solid solid]
  dsimp only
  rw [if_neg other, List.isEmpty_nil, if_pos rfl]

theorem items_next {read : List Json} (started : read ≠ []) {char : Char} (solid : isSpace char = false)
    (other : char ≠ ']') : items (fuel + 1) depth read (',' :: char :: rest) = (do
      let (item, rest) ← value fuel depth (char :: rest)
      items fuel depth (item :: read) rest) := by
  rw [items.eq_def]
  dsimp only
  rw [skip_solid (by decide)]
  dsimp only
  rw [if_neg (by decide), if_neg (by simpa using started), if_pos rfl, skip_solid solid]
  split
  · rename_i same
    cases same
  · rename_i same
    cases same
    exact absurd rfl other
  · rfl

theorem members_end (read : Table Json) :
    members (fuel + 1) depth (some read) ('}' :: rest) = .ok (.object read, rest) := by
  rw [members.eq_def]
  dsimp only
  rw [skip_solid (by decide)]
  exact if_pos rfl

theorem members_first : members (fuel + 1) depth none ('"' :: rest) = (do
      let (key, rest) ← stringFrom [] rest
      let rest ← expectColon rest
      let (item, rest) ← value fuel depth rest
      members fuel depth (some (Table.insert key item [])) rest) := by
  rw [members.eq_def]
  dsimp only
  rw [skip_solid (by decide)]
  dsimp only
  rw [if_neg (by decide), if_pos rfl]

theorem members_next (read : Table Json) : members (fuel + 1) depth (some read) (',' :: '"' :: rest) = (do
      let (key, rest) ← stringFrom [] rest
      let rest ← expectColon rest
      let (item, rest) ← value fuel depth rest
      members fuel depth (some (read.insert key item)) rest) := by
  rw [members.eq_def]
  dsimp only
  rw [skip_solid (by decide)]
  dsimp only
  rw [if_neg (by decide), if_pos rfl, skip_solid (by decide)]
  rfl

theorem value_array : value (fuel + 1) (depth + 2) ('[' :: rest) = items fuel (depth + 1) [] rest := by
  rw [value.eq_def]
  rfl

theorem value_object : value (fuel + 1) (depth + 2) ('{' :: rest) = members fuel (depth + 1) none rest := by
  rw [value.eq_def]
  rfl

theorem value_string : value (fuel + 1) depth ('"' :: rest) = (do
    let (text, rest) ← stringFrom [] rest
    return (.string text, rest)) := by
  rw [value.eq_def]
  rfl

theorem value_negative : value (fuel + 1) depth ('-' :: rest) = number true rest := by
  rw [value.eq_def]
  rfl

theorem digit_starts {char : Char} (digit : isDigit char = true) : isSpace char = false ∧ char ≠ ']' := by
  refine ⟨?_, by rintro rfl; cases digit⟩
  simp only [isSpace, Bool.or_eq_false_iff, decide_eq_false_iff_not]
  refine ⟨⟨⟨?_, ?_⟩, ?_⟩, ?_⟩
  · rintro rfl; cases digit
  · rintro rfl; cases digit
  · rintro rfl; cases digit
  · rintro rfl; cases digit

theorem value_digit {char : Char} (digit : isDigit char = true) :
    value (fuel + 1) depth (char :: rest) = number false (char :: rest) := by
  have different : ∀ other, isDigit other = false → char ≠ other := by
    intro other plain same
    rw [same, plain] at digit
    cases digit
  rw [value.eq_def]
  dsimp only
  rw [skip_solid (digit_starts digit).1]
  dsimp only
  rw [if_neg (different _ rfl), if_neg (different _ rfl), if_neg (different _ rfl), if_neg (different _ rfl), if_pos digit]

theorem fuel_left {char : Char} (enough : 2 * (char :: rest).length ≤ fuel) : ∃ less, fuel = less + 1 := by
  rw [List.length_cons] at enough
  exact ⟨fuel - 1, by omega⟩

end

structure Written (depth : Nat) (json : Json) : Prop where
  starts : ∀ rest, ∃ char tail, write json rest = char :: tail ∧ isSpace char = false ∧ char ≠ ']'
  longer : ∀ rest, rest.length < (write json rest).length
  back : ReadsBack depth json

theorem null_written (depth : Nat) : Written depth .null := by
  refine ⟨fun rest => ⟨_, _, rfl, rfl, by decide⟩, fun rest => by simp only [write, List.length_cons]; omega, ?_⟩
  intro fuel rest closed enough
  obtain ⟨fuel, rfl⟩ := fuel_left enough
  rw [value.eq_def]
  rfl

theorem bool_written (depth : Nat) (value : Bool) : Written depth (.bool value) := by
  cases value with
  | false =>
    refine ⟨fun rest => ⟨_, _, rfl, rfl, by decide⟩, fun rest => by simp only [write, List.length_cons]; omega, ?_⟩
    intro fuel rest closed enough
    obtain ⟨fuel, rfl⟩ := fuel_left enough
    rw [Json.value.eq_def]
    rfl
  | true =>
    refine ⟨fun rest => ⟨_, _, rfl, rfl, by decide⟩, fun rest => by simp only [write, List.length_cons]; omega, ?_⟩
    intro fuel rest closed enough
    obtain ⟨fuel, rfl⟩ := fuel_left enough
    rw [Json.value.eq_def]
    rfl

theorem integer_written {value : Int} (depth : Nat) (low : least ≤ value) (high : value ≤ greatest) :
    Written depth (.integer value) := by
  rw [least] at low
  by_cases negative : value < 0
  · have text : ∀ rest, write (.integer value) rest = '-' :: (Nat.toDigits 10 value.natAbs ++ rest) := by
      intro rest
      rw [write, integerDigitsOf, if_pos negative]
      rfl
    refine ⟨fun rest => ⟨_, _, text rest, rfl, by decide⟩, fun rest => ?_, ?_⟩
    · rw [text, List.length_cons, List.length_append]
      omega
    · intro fuel rest closed enough
      rw [text] at enough ⊢
      obtain ⟨fuel, rfl⟩ := fuel_left enough
      have bound : (value.natAbs : Int) ≤ greatest := by
        rw [greatest]
        omega
      have whole : Json.whole true value.natAbs = .integer value := by
        rw [Json.whole, if_neg (by decide), if_neg (by omega)]
        congr 1
        omega
      rw [value_negative, number_toDigits true _ bound closed, whole]
  · have text : ∀ rest, write (.integer value) rest = Nat.toDigits 10 value.natAbs ++ rest := by
      intro rest
      rw [write, integerDigitsOf, if_neg negative, List.nil_append]
    obtain ⟨char, digits, same⟩ : ∃ char digits, Nat.toDigits 10 value.natAbs = char :: digits :=
      List.exists_cons_of_ne_nil Nat.toDigits_ne_nil
    have digit : isDigit char = true := by
      apply isDigit_toDigits
      rw [same]
      exact List.mem_cons_self
    simp only [same, List.cons_append] at text
    refine ⟨fun rest => ⟨_, _, text rest, digit_starts digit⟩, fun rest => ?_, ?_⟩
    · rw [text, List.length_cons, List.length_append]
      omega
    · intro fuel rest closed enough
      rw [text] at enough ⊢
      obtain ⟨fuel, rfl⟩ := fuel_left enough
      have bound : (value.natAbs : Int) ≤ greatest := by omega
      have whole : Json.whole false value.natAbs = .integer value := by
        rw [Json.whole, if_pos (by decide)]
        congr 1
        omega
      have read := number_toDigits false value.natAbs bound closed
      rw [same, List.cons_append] at read
      rw [value_digit digit, read, whole]

theorem escapeAll_longer (text rest : List Char) : rest.length ≤ (escapeAll text rest).length := by
  induction text with
  | nil => exact Nat.le_refl _
  | cons char text ih =>
    rw [escapeAll, List.length_append]
    omega

theorem writeString_longer (text : String) (rest : List Char) : rest.length + 2 ≤ (writeString text rest).length := by
  have inner := escapeAll_longer text.toList ('"' :: rest)
  rw [writeString, List.length_cons]
  rw [List.length_cons] at inner
  omega

theorem string_written (depth : Nat) (text : String) : Written depth (.string text) := by
  refine ⟨fun rest => ⟨_, _, rfl, rfl, by decide⟩, fun rest => ?_, ?_⟩
  · have longer := writeString_longer text rest
    rw [write]
    omega
  · intro fuel rest closed enough
    rw [write, writeString] at enough ⊢
    obtain ⟨fuel, rfl⟩ := fuel_left enough
    rw [value_string, stringFrom_text]
    rfl

section

variable {depth : Nat} {values : List Json} {table : Table Json}

theorem writeItems_longer (written : ∀ item ∈ values, Written depth item) (rest : List Char) :
    rest.length ≤ (writeItems values rest).length := by
  induction values with
  | nil => exact Nat.le_refl _
  | cons item values ih =>
    have tail := ih fun other inside => written other (List.mem_cons_of_mem _ inside)
    have first := (written item List.mem_cons_self).longer (writeItems values rest)
    rw [writeItems, List.length_cons]
    omega

theorem writeItems_closed (values : List Json) (rest : List Char) : Closed (writeItems values (']' :: rest)) := by
  cases values with
  | nil => exact closed_bracket rest
  | cons item values => exact closed_comma _

theorem items_written (written : ∀ item ∈ values, Written depth item) (fuel : Nat) {read : List Json}
    (started : read ≠ []) (rest : List Char) (enough : 2 * (writeItems values (']' :: rest)).length + 1 ≤ fuel) :
    items fuel depth read (writeItems values (']' :: rest)) = .ok (.array (read.reverse ++ values), rest) := by
  induction values generalizing read fuel with
  | nil =>
    obtain ⟨fuel, rfl⟩ : ∃ less, fuel = less + 1 := ⟨fuel - 1, by omega⟩
    rw [writeItems, items_end, List.append_nil]
  | cons item values ih =>
    obtain ⟨fuel, rfl⟩ : ∃ less, fuel = less + 1 := ⟨fuel - 1, by omega⟩
    have first := written item List.mem_cons_self
    obtain ⟨char, tail, text, solid, other⟩ := first.starts (writeItems values (']' :: rest))
    have longer := first.longer (writeItems values (']' :: rest))
    rw [writeItems, List.length_cons] at enough
    have back := first.back fuel _ (writeItems_closed values rest) (by omega)
    rw [writeItems, text, items_next started solid other, ← text, back]
    have more := ih (fun other inside => written other (List.mem_cons_of_mem _ inside)) fuel
      (List.cons_ne_nil item read) (by omega)
    rwa [List.reverse_cons, List.append_assoc, List.singleton_append] at more

theorem array_written (written : ∀ item ∈ values, Written (depth + 1) item) : Written (depth + 2) (.array values) := by
  cases values with
  | nil =>
    refine ⟨fun rest => ⟨_, _, rfl, rfl, by decide⟩, fun rest => by simp only [write, List.length_cons]; omega, ?_⟩
    intro fuel rest closed enough
    rw [write, List.length_cons, List.length_cons] at enough
    obtain ⟨fuel, rfl⟩ : ∃ less, fuel = less + 2 := ⟨fuel - 2, by omega⟩
    rw [write, value_array, items_end]
    rfl
  | cons item values =>
    have first := written item List.mem_cons_self
    have others : ∀ other ∈ values, Written (depth + 1) other := fun other inside =>
      written other (List.mem_cons_of_mem _ inside)
    refine ⟨fun rest => ⟨_, _, rfl, rfl, by decide⟩, fun rest => ?_, ?_⟩
    · have tail := writeItems_longer others (']' :: rest)
      have longer := first.longer (writeItems values (']' :: rest))
      rw [List.length_cons] at tail
      rw [write, List.length_cons]
      omega
    · intro fuel rest closed enough
      have longer := first.longer (writeItems values (']' :: rest))
      rw [write, List.length_cons] at enough
      obtain ⟨fuel, rfl⟩ : ∃ less, fuel = less + 2 := ⟨fuel - 2, by omega⟩
      obtain ⟨char, tail, text, solid, other⟩ := first.starts (writeItems values (']' :: rest))
      have back := first.back fuel _ (writeItems_closed values rest) (by omega)
      rw [write, value_array, text, items_first solid other, ← text, back]
      exact items_written others fuel (List.cons_ne_nil item []) rest (by omega)

theorem expectColon_colon (rest : List Char) : expectColon (':' :: rest) = .ok rest := rfl

theorem writeMembers_longer (written : ∀ entry ∈ table, Written depth entry.2) (rest : List Char) :
    rest.length ≤ (writeMembers table rest).length := by
  induction table with
  | nil => exact Nat.le_refl _
  | cons entry table ih =>
    have tail := ih fun other inside => written other (List.mem_cons_of_mem _ inside)
    have first := (written entry List.mem_cons_self).longer (writeMembers table rest)
    have key := writeString_longer entry.1 (':' :: write entry.2 (writeMembers table rest))
    rw [writeMembers, List.length_cons]
    rw [List.length_cons] at key
    omega

theorem writeMembers_closed (table : Table Json) (rest : List Char) : Closed (writeMembers table ('}' :: rest)) := by
  cases table with
  | nil => exact closed_brace rest
  | cons entry table => exact closed_comma _

theorem members_written (written : ∀ entry ∈ table, Written depth entry.2) (fuel : Nat) (read : Table Json)
    (rest : List Char) (enough : 2 * (writeMembers table ('}' :: rest)).length ≤ fuel) :
    members fuel depth (some read) (writeMembers table ('}' :: rest)) = .ok (.object (read.overlay table), rest) := by
  induction table generalizing read fuel with
  | nil =>
    obtain ⟨fuel, rfl⟩ := fuel_left enough
    rw [writeMembers, members_end, Table.overlay]
  | cons entry table ih =>
    obtain ⟨fuel, rfl⟩ := fuel_left enough
    have first := written entry List.mem_cons_self
    have longer := first.longer (writeMembers table ('}' :: rest))
    have key := writeString_longer entry.1 (':' :: write entry.2 (writeMembers table ('}' :: rest)))
    rw [writeMembers, List.length_cons] at enough
    rw [List.length_cons] at key
    have back := first.back fuel _ (writeMembers_closed table rest) (by omega)
    rw [writeMembers, writeString, members_next, stringFrom_text, ok_bind]
    dsimp only
    rw [expectColon_colon, ok_bind, back]
    exact ih (fun other inside => written other (List.mem_cons_of_mem _ inside)) fuel _ (by omega)

theorem object_read (written : ∀ entry ∈ table, Written (depth + 1) entry.2) (fuel : Nat) (rest : List Char)
    (enough : 2 * (write (.object table) rest).length ≤ fuel) :
    value fuel (depth + 2) (write (.object table) rest) = .ok (.object (Table.overlay [] table), rest) := by
  cases table with
  | nil =>
    rw [write, List.length_cons, List.length_cons] at enough
    obtain ⟨fuel, rfl⟩ : ∃ less, fuel = less + 2 := ⟨fuel - 2, by omega⟩
    rw [write, value_object]
    rfl
  | cons entry table =>
    have first := written entry List.mem_cons_self
    have longer := first.longer (writeMembers table ('}' :: rest))
    have key := writeString_longer entry.1 (':' :: write entry.2 (writeMembers table ('}' :: rest)))
    rw [write, List.length_cons] at enough
    rw [List.length_cons] at key
    obtain ⟨fuel, rfl⟩ : ∃ less, fuel = less + 2 := ⟨fuel - 2, by omega⟩
    have back := first.back fuel _ (writeMembers_closed table rest) (by omega)
    rw [write, writeString, value_object, members_first, stringFrom_text, ok_bind]
    dsimp only
    rw [expectColon_colon, ok_bind, back]
    exact members_written (fun other inside => written other (List.mem_cons_of_mem _ inside)) fuel _ _ (by omega)

theorem object_written (ordered : table.Ordered) (written : ∀ entry ∈ table, Written (depth + 1) entry.2) :
    Written (depth + 2) (.object table) := by
  refine ⟨?_, ?_, ?_⟩
  · intro rest
    cases table with
    | nil => exact ⟨_, _, rfl, rfl, by decide⟩
    | cons entry table => exact ⟨_, _, rfl, rfl, by decide⟩
  · intro rest
    cases table with
    | nil =>
      simp only [write, List.length_cons]
      omega
    | cons entry table =>
      have tail := writeMembers_longer (fun other inside => written other (List.mem_cons_of_mem _ inside)) ('}' :: rest)
      have longer := (written entry List.mem_cons_self).longer (writeMembers table ('}' :: rest))
      have key := writeString_longer entry.1 (':' :: write entry.2 (writeMembers table ('}' :: rest)))
      rw [List.length_cons] at tail key
      rw [write, List.length_cons]
      omega
  · intro fuel rest closed enough
    rw [object_read written fuel rest enough, Table.overlay_nil ordered]

end

theorem Fits.written {depth : Nat} {json : Json} (fits : Fits depth json) : Written depth json := by
  induction fits with
  | null => exact null_written _
  | bool value => exact bool_written _ value
  | integer low high => exact integer_written _ low high
  | string text => exact string_written _ text
  | array inside ih => exact array_written ih
  | object ordered inside ih => exact object_written ordered ih

theorem parse_back {json again : Json}
    (back : value (2 * (write json []).length + 2) depthLimit (write json []) = .ok (again, [])) :
    parse (compact json) = .ok again := by
  rw [parse, compact, String.toList_ofList, read, back]
  rfl

theorem parse_object {table : Table Json} (inside : ∀ entry ∈ table, Fits (depthLimit - 1) entry.2) :
    parse (compact (.object table)) = .ok (.object (Table.overlay [] table)) :=
  parse_back (object_read (fun entry member => (inside entry member).written) _ [] (by omega))

theorem parse_compact {json : Json} (fits : Fits depthLimit json) : parse (compact json) = .ok json :=
  parse_back (fits.written.back (2 * (write json []).length + 2) [] (by rintro char ⟨⟩) (by omega))

end InkProject.Json
