set_option autoImplicit false

namespace InkProject

abbrev Table (α : Type) := List (String × α)

namespace Table

variable {α : Type}

def find? (key : String) : Table α → Option α
  | [] => none
  | (k, value) :: rest => if k = key then some value else find? key rest

def contains (table : Table α) (key : String) : Bool := (find? key table).isSome

def keys (table : Table α) : List String := table.map Prod.fst

def insert (key : String) (value : α) : Table α → Table α
  | [] => [(key, value)]
  | (k, old) :: rest =>
    if key = k then (key, value) :: rest
    else if key < k then (key, value) :: (k, old) :: rest
    else (k, old) :: insert key value rest

def overlay (table : Table α) : Table α → Table α
  | [] => table
  | (key, value) :: rest => overlay (insert key value table) rest

def Ordered (table : Table α) : Prop := (keys table).Pairwise (· < ·)

theorem find?_insert_self (key : String) (value : α) (table : Table α) :
    find? key (insert key value table) = some value := by
  induction table with
  | nil => simp [insert, find?]
  | cons entry rest ih =>
    obtain ⟨k, old⟩ := entry
    by_cases same : key = k
    · simp [insert, find?, same]
    · by_cases less : key < k
      · simp [insert, find?, same, less]
      · simp [insert, find?, same, less, ih, Ne.symm same]

theorem find?_insert_other (key other : String) (value : α) (table : Table α)
    (different : other ≠ key) : find? other (insert key value table) = find? other table := by
  induction table with
  | nil => simp [insert, find?, Ne.symm different]
  | cons entry rest ih =>
    obtain ⟨k, old⟩ := entry
    by_cases same : key = k
    · subst same; simp [insert, find?, Ne.symm different]
    · by_cases less : key < k <;> simp [insert, find?, same, less, ih, Ne.symm different]

end Table

end InkProject
