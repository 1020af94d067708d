import InkProject.Compiler.Location
/- Finding every file of the executable's name below a directory, and their order.
   Links to directories are not entered; a link of that name counts when it leads to
   a file. -/
set_option autoImplicit false

namespace InkProject.Compiler

structure Enumeration where
  arrange : Path → List (Bytes × Node) → List (Bytes × Node)
  perm : ∀ directory entries, (arrange directory entries).Perm entries

def Enumeration.sorted : Enumeration := ⟨fun _ entries => entries, fun _ _ => .refl _⟩

structure Search where
  found : List Path
  failure : Option (Path × IoError)

def subdirectory? (directory : Path) : Bytes × Node → Option (Path × Entries)
  | (name, .dir inner) => some (directory.child name, inner)
  | _ => none

def matches? (disk : Disk) (name : FileName) (directory : Path) : Bytes × Node → Option Path
  | (_, .dir _) => none
  | (entry, _) =>
    if entry = name.bytes ∧ disk.isFile (directory.child entry) then some (directory.child entry)
    else none

-- The directories still to be looked at, the next one first. Each turn takes one, so
-- their number is enough fuel.
def visit (disk : Disk) (order : Enumeration) (name : FileName) :
    Nat → List (Path × Entries) → List Path → Search
  | 0, _, found => ⟨found, none⟩
  | _ + 1, [], found => ⟨found, none⟩
  | fuel + 1, (directory, entries) :: pending, found =>
    match Disk.checkPath directory with
    | .error error => ⟨found, some (directory, error)⟩
    | .ok () =>
      let listed := order.arrange directory entries.toList
      visit disk order name fuel
        ((listed.filterMap (subdirectory? directory)).reverse ++ pending)
        (found ++ listed.filterMap (matches? disk name directory))

def search (disk : Disk) (order : Enumeration) (name : FileName) (root : Path) (entries : Entries) :
    Search :=
  visit disk order name (entries.directories + 2) [(root, entries)] []

def parentHidden (path : Path) (suffix : String) : Bool :=
  match path.parent? with
  | some parent => isHidden parent suffix
  | none => false

def rank (suffix : String) (path : Path) : List Bytes :=
  [if parentHidden path suffix then 0 else 1] :: path.key

def ranked (suffix : String) (found : List Path) : List Path :=
  found.mergeSort fun a b => decide (rank suffix a ≤ rank suffix b)

end InkProject.Compiler
