import InkProject.Proofs.Json.RoundTrip
set_option autoImplicit false

namespace InkProject.Json

mutual
def doubleFree : Json → Bool
  | .null | .bool _ | .integer _ | .string _ => true
  | .double _ => false
  | .array items => doubleFreeItems items
  | .object members => doubleFreeMembers members
def doubleFreeItems : List Json → Bool
  | [] => true
  | item :: items => doubleFree item && doubleFreeItems items
def doubleFreeMembers : List (String × Json) → Bool
  | [] => true
  | (_, item) :: members => doubleFree item && doubleFreeMembers members
end

theorem doubleFreeItems_iff (items : List Json) :
    doubleFreeItems items = true ↔ ∀ item ∈ items, doubleFree item = true := by
  induction items with
  | nil => simp [doubleFreeItems]
  | cons item items ih => simp [doubleFreeItems, ih]

theorem doubleFreeMembers_iff (members : List (String × Json)) :
    doubleFreeMembers members = true ↔ ∀ entry ∈ members, doubleFree entry.2 = true := by
  induction members with
  | nil => simp [doubleFreeMembers]
  | cons entry members ih =>
    obtain ⟨key, item⟩ := entry
    simp only [doubleFreeMembers, Bool.and_eq_true, ih, List.forall_mem_cons]

section

variable {negative : Bool} {significand : Nat} {json : Json} {text rest : List Char}

def IsDouble (json : Json) : Prop := ∃ x, json = .double x

theorem doubleAt_double {exponent : Int} (done : doubleAt negative significand exponent text = .ok (json, rest)) :
    IsDouble json := by
  rw [doubleAt] at done
  split at done
  · cases done
  · cases done
    exact ⟨_, rfl⟩

theorem exponentDigits_double {start : Int} {down : Bool} {power : Nat}
    (done : exponentDigits negative significand start down power text = .ok (json, rest)) : IsDouble json := by
  induction text generalizing power with
  | nil => exact doubleAt_double done
  | cons char text ih =>
    rw [exponentDigits] at done
    split at done
    · dsimp only at done
      split at done
      · split at done
        · cases done
        · cases done
          exact ⟨_, rfl⟩
      · exact ih done
    · exact doubleAt_double done

theorem exponent_double {start : Int} (done : exponent negative significand start text = .ok (json, rest)) :
    IsDouble json := by
  rw [exponent.eq_def] at done
  dsimp only at done
  split at done
  · cases done
  · split at done
    · exact exponentDigits_double done
    · cases done

theorem scale_double {start : Int} (done : scale negative significand start text = .ok (json, rest)) :
    IsDouble json := by
  cases text with
  | nil => exact doubleAt_double done
  | cons char text =>
    rw [scale] at done
    split at done
    · exact exponent_double done
    · exact doubleAt_double done

theorem fraction_double {start : Int} {taken : Nat}
    (done : fraction negative start taken significand text = .ok (json, rest)) : IsDouble json := by
  induction text generalizing taken significand with
  | nil =>
    rw [fraction] at done
    split at done
    · cases done
    · exact scale_double done
  | cons char text ih =>
    rw [fraction] at done
    split at done
    · dsimp only at done
      split at done
      · exact scale_double done
      · exact ih done
    · split at done
      · cases done
      · exact scale_double done

theorem longInteger_double {dropped : Nat}
    (done : longInteger negative significand dropped text = .ok (json, rest)) : IsDouble json := by
  induction text generalizing dropped with
  | nil => exact doubleAt_double done
  | cons char text ih =>
    rw [longInteger] at done
    split at done
    · exact ih done
    · split at done
      · exact fraction_double done
      · exact scale_double done

def IsNumber (json : Json) : Prop := IsDouble json ∨ ∃ value, json = .integer value ∧ least ≤ value ∧ value ≤ greatest

theorem whole_number (bound : significand ≤ greatest) : IsNumber (whole negative significand) := by
  rw [whole]
  split
  · refine .inr ⟨_, rfl, ?_, bound⟩
    rw [least]
    omega
  · split
    · exact .inl ⟨_, rfl⟩
    · refine .inr ⟨_, rfl, ?_, ?_⟩
      · rw [least]
        omega
      · rw [greatest]
        omega

theorem afterInteger_number (bound : significand ≤ greatest)
    (done : afterInteger negative significand text = .ok (json, rest)) : IsNumber json := by
  cases text with
  | nil =>
    cases done
    exact whole_number bound
  | cons char text =>
    rw [afterInteger] at done
    split at done
    · exact .inl (fraction_double done)
    · split at done
      · exact .inl (exponent_double done)
      · cases done
        exact whole_number bound

theorem integerDigits_number (bound : significand ≤ greatest)
    (done : integerDigits negative significand text = .ok (json, rest)) : IsNumber json := by
  induction text generalizing significand with
  | nil => exact afterInteger_number bound done
  | cons char text ih =>
    rw [integerDigits] at done
    split at done
    · dsimp only at done
      split at done
      · exact .inl (longInteger_double done)
      · exact ih (Int.not_lt.mp ‹_›) done
    · exact afterInteger_number bound done

theorem number_number (done : number negative text = .ok (json, rest)) : IsNumber json := by
  cases text with
  | nil => cases done
  | cons char text =>
    have zero : ((0 : Nat) : Int) ≤ greatest := by decide
    rw [number.eq_def] at done
    dsimp only at done
    split at done
    · split at done
      · split at done
        · cases done
        · exact afterInteger_number zero done
      · exact afterInteger_number zero done
    · split at done
      · rename_i digit
        have small : char.toNat ≤ 57 := by
          simp only [isDigit, Bool.and_eq_true, decide_eq_true_eq] at digit
          exact digit.2
        refine integerDigits_number ?_ done
        rw [digitValue, greatest]
        omega
      · cases done

theorem IsNumber.fits (numeral : IsNumber json) (depth : Nat) (free : doubleFree json = true) : Fits depth json := by
  rcases numeral with ⟨x, rfl⟩ | ⟨value, rfl, low, high⟩
  · cases free
  · exact .integer low high

theorem IsNumber.flat {members : Table Json} (numeral : IsNumber json) : json ≠ .object members := by
  rcases numeral with ⟨x, rfl⟩ | ⟨value, rfl, _⟩ <;> exact Json.noConfusion

end

structure Made (fuel : Nat) : Prop where
  value : ∀ depth text json rest, value fuel depth text = .ok (json, rest) → doubleFree json = true → Fits depth json
  items : ∀ depth read text json rest, (∀ item ∈ read, doubleFree item = true → Fits (depth + 1) item) →
    items fuel (depth + 1) read text = .ok (json, rest) → doubleFree json = true → Fits (depth + 2) json
  members : ∀ depth read text json rest, Table.Ordered (Option.getD read []) →
    (∀ entry ∈ Option.getD read [], doubleFree entry.2 = true → Fits (depth + 1) entry.2) →
    members fuel (depth + 1) read text = .ok (json, rest) → doubleFree json = true → Fits (depth + 2) json

section

variable {fuel : Nat}

theorem value_made (made : Made fuel) (depth : Nat) (text rest : List Char) (json : Json)
    (done : value (fuel + 1) depth text = .ok (json, rest)) (free : doubleFree json = true) : Fits depth json := by
  rw [value.eq_def] at done
  dsimp only at done
  split at done
  · cases done
  · rename_i char after _
    have named {json' : Json} {letters : List Char} (fits : Fits depth json')
        (done : (do return (json', ← word letters after) : Except Failure (Json × List Char)) = .ok (json, rest)) :
        Fits depth json := by
      obtain ⟨left, _, same⟩ := (bind_eq_ok _ _ _).mp done
      cases same
      exact fits
    split at done
    · exact named .null done
    · split at done
      · exact named (.bool true) done
      · split at done
        · exact named (.bool false) done
        · split at done
          · exact (number_number done).fits depth free
          · split at done
            · exact (number_number done).fits depth free
            · split at done
              · obtain ⟨⟨string, left⟩, _, same⟩ := (bind_eq_ok _ _ _).mp done
                cases same
                exact .string string
              · split at done
                · split at done
                  · cases done
                  · obtain ⟨less, rfl⟩ : ∃ less, depth = less + 2 := ⟨depth - 2, by omega⟩
                    exact made.items less [] _ json rest (by simp) done free
                · split at done
                  · split at done
                    · cases done
                    · obtain ⟨less, rfl⟩ : ∃ less, depth = less + 2 := ⟨depth - 2, by omega⟩
                      exact made.members less none _ json rest Table.ordered_nil (by simp) done free
                  · cases done

theorem items_made (made : Made fuel) (depth : Nat) (read : List Json) (text rest : List Char) (json : Json)
    (fit : ∀ item ∈ read, doubleFree item = true → Fits (depth + 1) item)
    (done : items (fuel + 1) (depth + 1) read text = .ok (json, rest)) (free : doubleFree json = true) :
    Fits (depth + 2) json := by
  have next {read : List Json} {text : List Char} (fit : ∀ item ∈ read, doubleFree item = true → Fits (depth + 1) item)
      (done : (value fuel (depth + 1) text >>= fun one => items fuel (depth + 1) (one.1 :: read) one.2) =
        .ok (json, rest)) : Fits (depth + 2) json := by
    obtain ⟨⟨item, left⟩, one, others⟩ := (bind_eq_ok _ _ _).mp done
    refine made.items depth _ left json rest (fun other member => ?_) others free
    rcases List.mem_cons.mp member with rfl | inside
    · exact made.value _ _ _ _ one
    · exact fit other inside
  rw [items.eq_def] at done
  dsimp only at done
  split at done
  · cases done
  · split at done
    · cases done
      rw [doubleFree, doubleFreeItems_iff] at free
      refine .array fun item member => ?_
      exact fit item (List.mem_reverse.mp member) (free item member)
    · split at done
      · rename_i empty
        rw [List.isEmpty_iff.mp empty] at done
        exact next (by simp) done
      · split at done
        · split at done
          · cases done
          · cases done
          · exact next fit done
        · cases done

theorem members_made (made : Made fuel) (depth : Nat) (read : Option (Table Json)) (text rest : List Char) (json : Json)
    (ordered : Table.Ordered (read.getD []))
    (fit : ∀ entry ∈ read.getD [], doubleFree entry.2 = true → Fits (depth + 1) entry.2)
    (done : members (fuel + 1) (depth + 1) read text = .ok (json, rest)) (free : doubleFree json = true) :
    Fits (depth + 2) json := by
  have next {read : Table Json} {text : List Char} (ordered : read.Ordered)
      (fit : ∀ entry ∈ read, doubleFree entry.2 = true → Fits (depth + 1) entry.2)
      (done : (stringFrom [] text >>= fun key => expectColon key.2 >>= fun rest => value fuel (depth + 1) rest >>=
        fun one => members fuel (depth + 1) (some (read.insert key.1 one.1)) one.2) = .ok (json, rest)) :
      Fits (depth + 2) json := by
    obtain ⟨⟨key, left⟩, _, done⟩ := (bind_eq_ok _ _ _).mp done
    obtain ⟨colon, _, done⟩ := (bind_eq_ok _ _ _).mp done
    obtain ⟨⟨item, left⟩, one, others⟩ := (bind_eq_ok _ _ _).mp done
    refine made.members depth (some _) left json rest (Table.insert_ordered _ _ ordered) (fun entry member => ?_) others free
    rcases Table.mem_insert member with rfl | inside
    · exact made.value _ _ _ _ one
    · exact fit entry inside
  rw [members.eq_def] at done
  dsimp only at done
  split at done
  · cases done
  · split at done
    · cases done
      rw [doubleFree, doubleFreeMembers_iff] at free
      exact .object ordered fun entry member => fit entry member (free entry member)
    · split at done
      · split at done
        · exact next Table.ordered_nil (by simp) done
        · cases done
      · split at done
        · split at done
          · cases done
          · cases done
          · exact next ordered fit done
          · cases done
        · cases done

theorem made (fuel : Nat) : Made fuel := by
  induction fuel with
  | zero =>
    refine ⟨?_, ?_, ?_⟩
    · intro depth text json rest done
      cases done
    · intro depth read text json rest fit done
      cases done
    · intro depth read text json rest ordered fit done
      cases done
  | succ fuel ih =>
    refine ⟨?_, ?_, ?_⟩
    · intro depth text json rest
      exact value_made ih depth text rest json
    · intro depth read text json rest
      exact items_made ih depth read text rest json
    · intro depth read text json rest
      exact members_made ih depth read text rest json

end

theorem members_ordered {fuel depth : Nat} {read : Option (Table Json)} {text rest : List Char} {json : Json}
    (ordered : Table.Ordered (read.getD [])) (done : members fuel depth read text = .ok (json, rest)) :
    ∃ table : Table Json, json = .object table ∧ table.Ordered := by
  induction fuel generalizing read text with
  | zero => cases done
  | succ fuel ih =>
    have next {read : Table Json} {text : List Char} (ordered : read.Ordered)
        (done : (stringFrom [] text >>= fun key => expectColon key.2 >>= fun rest => value fuel depth rest >>=
          fun one => members fuel depth (some (read.insert key.1 one.1)) one.2) = .ok (json, rest)) :
        ∃ table : Table Json, json = .object table ∧ table.Ordered := by
      obtain ⟨⟨key, left⟩, _, done⟩ := (bind_eq_ok _ _ _).mp done
      obtain ⟨colon, _, done⟩ := (bind_eq_ok _ _ _).mp done
      obtain ⟨⟨item, left⟩, _, others⟩ := (bind_eq_ok _ _ _).mp done
      refine ih ?_ others
      exact Table.insert_ordered _ _ ordered
    rw [members.eq_def] at done
    dsimp only at done
    split at done
    · cases done
    · split at done
      · cases done
        exact ⟨_, rfl, ordered⟩
      · split at done
        · split at done
          · exact next Table.ordered_nil done
          · cases done
        · split at done
          · split at done
            · cases done
            · cases done
            · exact next ordered done
            · cases done
          · cases done

theorem items_flat {fuel depth : Nat} {read : List Json} {text rest : List Char} {json : Json}
    (done : items fuel depth read text = .ok (json, rest)) : ∃ made, json = .array made := by
  induction fuel generalizing read text with
  | zero => cases done
  | succ fuel ih =>
    have next {read : List Json} {text : List Char}
        (done : (value fuel depth text >>= fun one => items fuel depth (one.1 :: read) one.2) = .ok (json, rest)) :
        ∃ made, json = .array made := by
      obtain ⟨⟨item, left⟩, _, others⟩ := (bind_eq_ok _ _ _).mp done
      exact ih others
    rw [items.eq_def] at done
    dsimp only at done
    split at done
    · cases done
    · split at done
      · cases done
        exact ⟨_, rfl⟩
      · split at done
        · exact next done
        · split at done
          · split at done
            · cases done
            · cases done
            · exact next done
          · cases done

theorem value_ordered {fuel depth : Nat} {text rest : List Char} {table : Table Json}
    (done : value fuel depth text = .ok (.object table, rest)) : table.Ordered := by
  cases fuel with
  | zero => cases done
  | succ fuel =>
    rw [value.eq_def] at done
    dsimp only at done
    split at done
    · cases done
    · rename_i char after _
      have named {json : Json} {letters : List Char} (other : json ≠ .object table)
          (done : (do return (json, ← word letters after) : Except Failure (Json × List Char)) =
            .ok (.object table, rest)) : table.Ordered := by
        obtain ⟨left, _, same⟩ := (bind_eq_ok _ _ _).mp done
        cases same
        exact absurd rfl other
      split at done
      · exact named Json.noConfusion done
      · split at done
        · exact named Json.noConfusion done
        · split at done
          · exact named Json.noConfusion done
          · split at done
            · exact absurd rfl (number_number done).flat
            · split at done
              · exact absurd rfl (number_number done).flat
              · split at done
                · obtain ⟨⟨string, left⟩, _, same⟩ := (bind_eq_ok _ _ _).mp done
                  cases same
                · split at done
                  · split at done
                    · cases done
                    · obtain ⟨_, same⟩ := items_flat done
                      cases same
                  · split at done
                    · split at done
                      · cases done
                      · have empty : Table.Ordered (Option.getD none ([] : Table Json)) := Table.ordered_nil
                        obtain ⟨_, same, ordered⟩ := members_ordered empty done
                        cases same
                        exact ordered
                    · cases done

theorem parse_value {text : String} {json : Json} (done : parse text = .ok json) :
    ∃ fuel rest, value fuel depthLimit text.toList = .ok (json, rest) := by
  rw [parse] at done
  cases same : read text.toList with
  | error failure =>
    rw [same] at done
    cases done
  | ok found =>
    rw [same] at done
    cases done
    rw [read] at same
    obtain ⟨⟨found, left⟩, one, rest⟩ := (bind_eq_ok _ _ _).mp same
    dsimp only at rest
    split at rest
    · cases rest
      exact ⟨_, _, one⟩
    · cases rest

theorem parse_fits {text : String} {json : Json} (done : parse text = .ok json) (free : doubleFree json = true) :
    Fits depthLimit json := by
  obtain ⟨fuel, rest, one⟩ := parse_value done
  exact (made fuel).value _ _ _ _ one free

theorem parse_object_ordered {text : String} {table : Table Json} (done : parse text = .ok (.object table)) : table.Ordered := by
  obtain ⟨_, _, one⟩ := parse_value done
  exact value_ordered one

end InkProject.Json
