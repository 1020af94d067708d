import InkProject.Toml.Basic
/- Putting a document's tables together. A table that only stands in the path of others
   may still be defined once, and one that dotted keys made is extended by dotted keys
   only. -/
set_option autoImplicit false

namespace InkProject.Toml

inductive Item where
  | value (value : Toml)
  | table (implied dotted : Bool) (entries : List (String × Item))
  | tables (items : List (List (String × Item)))

mutual
def Item.toml : Item → Toml
  | .value value => value
  | .table _ _ entries => .table (entriesToml entries)
  | .tables items => .array (tablesToml items)

def entriesToml : List (String × Item) → List (String × Toml)
  | [] => []
  | (key, item) :: rest => (key, item.toml) :: entriesToml rest

def tablesToml : List (List (String × Item)) → List Toml
  | [] => []
  | entries :: rest => .table (entriesToml entries) :: tablesToml rest
end

structure Level where
  implied : Bool
  dotted : Bool
  entries : List (String × Item)

def Level.empty : Level := ⟨false, false, []⟩

def Level.item (level : Level) : Item := .table level.implied level.dotted level.entries

def Level.find? (level : Level) (key : String) : Option Item := level.entries.lookup key

def Level.put (level : Level) (key : String) (item : Item) : Level :=
  if (level.find? key).isSome then
    { level with entries := level.entries.map fun (k, old) => if k = key then (k, item) else (k, old) }
  else { level with entries := level.entries ++ [(key, item)] }

def Level.erase (level : Level) (key : String) : Level :=
  { level with entries := level.entries.filter fun (k, _) => k ≠ key }

def descend (dotted : Bool) (change : Level → Option Level) : List String → Level → Option Level
  | [], level => change level
  | key :: path, level => match level.find? key with
    | none => do
      let inner ← descend dotted change path ⟨true, dotted, []⟩
      some (level.put key inner.item)
    | some (.value _) => none
    | some (.table implied wasDotted entries) =>
      if dotted ∧ !implied then none
      else do
        let inner ← descend dotted change path ⟨implied, wasDotted, entries⟩
        some (level.put key inner.item)
    | some (.tables items) => do
      let last ← items.getLast?
      let inner ← descend dotted change path ⟨false, false, last⟩
      some (level.put key (.tables (items.dropLast ++ [inner.entries])))

def define (path : List String) (key : String) (value : Toml) (level : Level) : Option Level :=
  descend true (fun table =>
    if table.dotted = path.isEmpty ∨ (table.find? key).isSome then none
    else some (table.put key (.value value))) path level

structure Document where
  root : Level
  current : Level
  path : List String
  repeated : Bool

def Document.start : Document := ⟨.empty, .empty, [], false⟩

def Document.define (document : Document) (path : List String) (key : String) (value : Toml) :
    Option Document :=
  (Toml.define path key value document.current).map fun current => { document with current := current }

def Document.close (document : Document) : Option Level :=
  match document.path.getLast? with
  | none => some document.current
  | some key => descend false (fun parent =>
      if document.repeated then
        match parent.find? key with
        | none => some (parent.put key (.tables [document.current.entries]))
        | some (.tables items) => some (parent.put key (.tables (items ++ [document.current.entries])))
        | some _ => none
      else match parent.find? key with
        | none => some (parent.put key document.current.item)
        | some (.table true _ _) => some (parent.put key document.current.item)
        | some _ => none)
    document.path.dropLast document.root

def inside : List String → Level → Option Level
  | [], level => some level
  | name :: path, level => match level.find? name with
    | some (.table implied dotted entries) => inside path ⟨implied, dotted, entries⟩
    | some (.tables items) => items.getLast?.bind fun entries => inside path ⟨false, false, entries⟩
    | _ => none

def Item.children : Item → List (String × Item)
  | .table _ _ entries => entries
  | _ => []

def Document.openTable (document : Document) (path : List String) (key : String) : Option Document := do
  let root ← document.close
  let kept ← descend false (fun parent => match parent.find? key with
    | none => some parent
    | some (.table true false _) => some parent
    | some _ => none) path root
  let held := inside path kept
  let root ← descend false (fun parent => some (parent.erase key)) path kept
  return ⟨root, ⟨false, false, (held.bind fun level => level.find? key).elim [] Item.children⟩, path ++ [key], false⟩

def Document.openRepeated (document : Document) (path : List String) (key : String) :
    Option Document := do
  let root ← document.close
  let root ← descend false (fun parent => match parent.find? key with
    | none | some (.tables _) => some parent
    | some _ => none) path root
  return ⟨root, .empty, path ++ [key], true⟩

def Document.finish (document : Document) : Option Toml := document.close.map fun root => root.item.toml

end InkProject.Toml
