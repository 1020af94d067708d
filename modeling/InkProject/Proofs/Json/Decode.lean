import InkProject.Json.Decode
import InkProject.Proofs.Results
import InkProject.Proofs.Table
set_option autoImplicit false

namespace InkProject.Json

section

variable {α : Type} {name : String} {decoder : Decoder α} {members : Table Json}

theorem decodeObject_eq_ok (json : Json) (table : Table Json) : decodeObject json = .ok table ↔ json = .object table := by
  cases json <;> simp [decodeObject, mismatch]

theorem decodeString_eq_ok (json : Json) (text : String) : decodeString json = .ok text ↔ json = .string text := by
  cases json <;> simp [decodeString, mismatch]

theorem mapM_ok (values : List Json) : values.mapM (Except.ok : Json → Except Shape.Mismatch Json) = .ok values := by
  induction values with
  | nil => rfl
  | cons item values ih =>
    rw [List.mapM_cons, ih]
    rfl

theorem decodeList_eq_ok (json : Json) (values : List Json) :
    decodeList Except.ok json = .ok values ↔ json = .array values := by
  cases json <;> simp [decodeList, mismatch, mapM_ok]

def Signed (value : Int) : Prop := least ≤ value ∧ value ≤ greatestSigned

theorem decodeInteger_eq_ok (low high : Int) (name : String) (json : Json) (value : Int) :
    decodeInteger low high name json = .ok value ↔ json = .integer value ∧ low ≤ value ∧ value ≤ high := by
  cases json with
  | integer other =>
    rw [decodeInteger]
    by_cases inside : low ≤ other ∧ other ≤ high
    · rw [if_pos inside, Except.ok.injEq, integer.injEq]
      constructor
      · intro same
        exact ⟨same, same ▸ inside⟩
      · intro both
        exact both.1
    · rw [if_neg inside]
      constructor
      · intro failed
        cases failed
      · intro holds
        obtain ⟨same, bounded⟩ := holds
        cases same
        exact absurd bounded inside
  | _ => simp [decodeInteger, mismatch]

theorem decodeSigned_eq_ok (json : Json) (value : Int) :
    decodeSigned json = .ok value ↔ json = .integer value ∧ Signed value := decodeInteger_eq_ok _ _ _ _ _

theorem signed?_eq_some (json : Json) (value : Int) : signed? json = some value ↔ json = .integer value ∧ Signed value := by
  cases json with
  | integer other =>
    rw [signed?, Signed]
    by_cases inside : least ≤ other ∧ other ≤ greatestSigned
    · rw [if_pos inside, Option.some.injEq, integer.injEq]
      exact ⟨fun same => ⟨same, same ▸ inside⟩, fun both => both.1⟩
    · rw [if_neg inside]
      refine ⟨fun absurd => (nomatch absurd), fun both => ?_⟩
      obtain ⟨same, signed⟩ := both
      cases same
      exact absurd signed inside
  | _ => simp [signed?]

theorem decodeOption_eq_ok (decoder : Decoder α) (json : Json) (result : Option α) :
    decodeOption decoder json = .ok result ↔
      json = .null ∧ result = none ∨ json ≠ .null ∧ ∃ value, decoder json = .ok value ∧ result = some value := by
  by_cases null : json = .null
  · subst null
    simp [decodeOption, eq_comm]
  · have inner : decodeOption decoder json = some <$> decoder json := by
      cases json with
      | null => exact absurd rfl null
      | _ => rfl
    rw [inner]
    cases decoder json with
    | error mismatch => simp [Functor.map, Except.map, null]
    | ok value => simp [Functor.map, Except.map, null, eq_comm]

theorem optional_eq_ok {default value : α} : optional name decoder default members = .ok value ↔
    members.find? name = none ∧ value = default ∨ ∃ json, members.find? name = some json ∧ decoder json = .ok value := by
  rw [optional]
  cases members.find? name with
  | none => simp [eq_comm]
  | some json => simp

theorem optional_some_iff {shown : Option α} (read : optional name (decodeOption decoder) none members = .ok shown)
    (value : α) : shown = some value ↔ ∃ json, members.find? name = some json ∧ json ≠ .null ∧ decoder json = .ok value := by
  rcases optional_eq_ok.mp read with ⟨absent, rfl⟩ | ⟨json, present, decoded⟩
  · rw [absent]
    simp
  · rw [present]
    rcases (decodeOption_eq_ok _ _ _).mp decoded with ⟨rfl, rfl⟩ | ⟨filled, other, inner, rfl⟩
    · simp
    · constructor
      · intro same
        cases same
        exact ⟨json, rfl, filled, inner⟩
      · intro holds
        obtain ⟨_, same, _, again⟩ := holds
        cases same
        rw [inner, Except.ok.injEq] at again
        exact congrArg some again

theorem required_eq_ok {value : α} :
    required name decoder members = .ok value ↔ ∃ json, members.find? name = some json ∧ decoder json = .ok value := by
  rw [required]
  cases members.find? name with
  | none => simp
  | some json => simp

def Field.Passed (members : Table Json) (field : Field) : Prop :=
  ∀ json, members.find? field.name = some json → field.check json = none

theorem optional_passed {default value : α} (read : optional name decoder default members = .ok value) (need : Bool) :
    (field name decoder need).Passed members := by
  intro json found
  rcases optional_eq_ok.mp read with ⟨absent, _⟩ | ⟨other, present, decoded⟩
  · rw [field, absent] at found
    cases found
  · rw [field, present, Option.some.injEq] at found
    subst found
    rw [field]
    simp only [decoded]

theorem required_passed {value : α} (read : required name decoder members = .ok value) (need : Bool) :
    (field name decoder need).Passed members := by
  intro json found
  obtain ⟨other, present, decoded⟩ := required_eq_ok.mp read
  rw [field, present, Option.some.injEq] at found
  subst found
  rw [field]
  simp only [decoded]

theorem memberMismatch?_passed {fields : List Field} (distinct : members.keys.Nodup)
    (passed : ∀ field ∈ fields, field.Passed members) : memberMismatch? fields members = none := by
  have whole : ∀ rest : Table Json, (∀ entry ∈ rest, entry ∈ members) → memberMismatch? fields rest = none := by
    intro rest
    induction rest with
    | nil =>
      intro _
      rfl
    | cons entry rest ih =>
      intro inside
      have mine : ((fields.find? (·.name = entry.1)).bind fun field => field.check entry.2) = none := by
        cases known : fields.find? (·.name = entry.1) with
        | none => rfl
        | some field =>
          have name : field.name = entry.1 := by simpa using List.find?_some known
          apply passed field (List.mem_of_find?_eq_some known)
          rw [name]
          exact Table.find?_of_mem distinct (inside entry List.mem_cons_self)
      rw [memberMismatch?, mine]
      exact ih fun other member => inside other (List.mem_cons_of_mem _ member)
  exact whole members fun _ member => member

theorem decodeMembers_passed {fields : List Field} (distinct : members.keys.Nodup)
    (passed : ∀ field ∈ fields, field.Passed members)
    (there : ∀ field ∈ fields, field.required = true → members.contains field.name = true) :
    decodeMembers fields members = .ok members := by
  have nothing : missing? fields members = none := by
    rw [missing?, Option.map_eq_none_iff, List.find?_eq_none]
    intro field member
    by_cases need : field.required = true
    · simp [there field member need]
    · simp [need]
  rw [decodeMembers, memberMismatch?_passed distinct passed]
  dsimp only
  rw [nothing]

theorem decodeMembers_same {fields : List Field} {read : Table Json} (done : decodeMembers fields members = .ok read) :
    read = members := by
  rw [decodeMembers] at done
  split at done
  · cases done
  · split at done
    · cases done
    · cases done
      rfl

end

end InkProject.Json
