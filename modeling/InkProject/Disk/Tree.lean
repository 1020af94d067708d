import InkProject.Text.Utf8
/- What a directory holds: files with their bytes, links with the path they hold, devices
   and directories, each under a name. The names of a directory are in the order of their
   bytes and differ, so equal contents are equal trees. -/
set_option autoImplicit false

namespace InkProject

inductive Device where
  | null
  | full
deriving DecidableEq, Repr

mutual
inductive Node where
  | file (content : Bytes) (executable : Bool)
  | link (target : Bytes)
  | device (device : Device)
  | dir (entries : Entries)
deriving DecidableEq

inductive Entries where
  | nil
  | cons (name : Bytes) (node : Node) (rest : Entries)
deriving DecidableEq
end

instance : Inhabited Entries := ⟨.nil⟩

def Node.isDir : Node → Bool
  | .dir _ => true
  | _ => false

abbrev Place := List Bytes

namespace Entries

def toList : Entries → List (Bytes × Node)
  | .nil => []
  | .cons name node rest => (name, node) :: rest.toList

def names (entries : Entries) : List Bytes := entries.toList.map Prod.fst

def find? (name : Bytes) : Entries → Option Node
  | .nil => none
  | .cons other node rest => if name = other then some node else find? name rest

def put (name : Bytes) (node : Node) : Entries → Entries
  | .nil => .cons name node .nil
  | .cons other old rest =>
    if name = other then .cons name node rest
    else if name < other then .cons name node (.cons other old rest)
    else .cons other old (put name node rest)

def erase (name : Bytes) : Entries → Entries
  | .nil => .nil
  | .cons other node rest => if name = other then rest else .cons other node (erase name rest)

def at? : Place → Entries → Option Node
  | [], entries => some (.dir entries)
  | name :: place, entries => match entries.find? name with
    | some (.dir inner) => inner.at? place
    | some node => if place.isEmpty then some node else none
    | none => none

def set : Place → Option Node → Entries → Entries
  | [], _, entries => entries
  | [name], some node, entries => entries.put name node
  | [name], none, entries => entries.erase name
  | name :: below :: place, node, entries => match entries.find? name with
    | some (.dir inner) => entries.put name (.dir (inner.set (below :: place) node))
    | _ => entries

end Entries

mutual
def Node.Ordered : Node → Prop
  | .file _ _ | .link _ | .device _ => True
  | .dir entries => entries.Ordered

def Entries.Ordered : Entries → Prop
  | .nil => True
  | .cons name node rest => (∀ other ∈ rest.names, name < other) ∧ node.Ordered ∧ rest.Ordered
end

mutual
def Node.directories : Node → Nat
  | .file _ _ | .link _ | .device _ => 0
  | .dir entries => entries.directories + 1

def Entries.directories : Entries → Nat
  | .nil => 0
  | .cons _ node rest => node.directories + rest.directories
end

namespace Entries

theorem find?_put_self (name : Bytes) (node : Node) :
    (entries : Entries) → find? name (put name node entries) = some node
  | .nil => by simp [put, find?]
  | .cons other old rest => by
    by_cases same : name = other
    · simp [put, find?, same]
    · by_cases less : name < other
      · simp [put, find?, same, less]
      · simp [put, find?, same, less, find?_put_self name node rest]

theorem find?_put_other (name other : Bytes) (node : Node) (different : other ≠ name) :
    (entries : Entries) → find? other (put name node entries) = find? other entries
  | .nil => by simp [put, find?, different]
  | .cons key old rest => by
    by_cases same : name = key
    · subst same; simp [put, find?, different]
    · by_cases less : name < key <;>
        simp [put, find?, same, less, different, find?_put_other name other node different rest]

theorem find?_erase_other (name other : Bytes) (different : other ≠ name) :
    (entries : Entries) → find? other (erase name entries) = find? other entries
  | .nil => rfl
  | .cons key node rest => by
    by_cases same : name = key
    · subst same; simp [erase, find?, different]
    · simp [erase, find?, same, find?_erase_other name other different rest]

end Entries

end InkProject
