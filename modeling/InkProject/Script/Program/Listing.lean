import InkProject.Script.Program.Copying
set_option autoImplicit false

namespace InkProject.Script.Program

open Shell

def isHidden (name : Text) : Bool := name.head? = some '.'

structure Display where
  all : Bool
  almostAll : Bool
  itself : Bool
  classify : Bool
  slashes : Bool
  reversed : Bool
  recursive : Bool
  byTime : Bool
  bySize : Bool
  inLine : Option String
  quotes : Bool
  unsorted : Bool

def sizeOfNode : Node → Nat
  | .file content _ => content.length
  | .link target => target.length
  | .device _ => 0
  | .dir _ => Disk.directorySize

def sortedNames (display : Display) (entries : List (Text × Node × Nat)) : List (Text × Node × Nat) :=
  let byName (a b : Text × Node × Nat) : Bool := decide (toBytes a.1 ≤ toBytes b.1)
  let sorted := entries.mergeSort fun a b =>
    if display.byTime && a.2.2 ≠ b.2.2 then b.2.2 < a.2.2
    else if display.bySize && sizeOfNode a.2.1 ≠ sizeOfNode b.2.1 then sizeOfNode b.2.1 < sizeOfNode a.2.1
    else byName a b
  if display.unsorted then entries else if display.reversed then sorted.reverse else sorted

def displayedName (display : Display) (name : Text) (node : Node) : Text :=
  let mark : Text := match node with
    | .dir _ => if display.classify || display.slashes then ['/'] else []
    | .link _ => if display.classify then ['@'] else []
    | .file _ executable => if display.classify && executable then ['*'] else []
    | .device _ => []
  (if display.quotes then '"' :: name ++ ['"'] else name) ++ mark

def sayNames (display : Display) (entries : List (Text × Node × Nat)) : Running Unit := do
  let names := (sortedNames display entries).map fun (name, node, _) => displayedName display name node
  match display.inLine with
  | some separator => if !names.isEmpty then sayLine (joinedBy (ofString separator) names)
  | none => for name in names do sayLine name

def listingOf (display : Display) (place : Place) (entries : Entries) : Running (List (Text × Node × Nat)) := do
  let shell ← get
  let timed (name : Bytes) (node : Node) : Text × Node × Nat :=
    (ofBytes name, node, (shell.machine.times.lookup (place ++ [name])).getD 0)
  let named := entries.toList.map fun (name, node) => timed name node
  let shown := named.filter fun (name, _) => display.all || display.almostAll || !isHidden name
  return (if display.all then [(['.'], Node.dir .nil, 0), (['.', '.'], Node.dir .nil, 0)] else []) ++ shown

def listFrom (display : Display) : Nat → List (Text × Place × Entries) → Bool → Bool → Running Unit
  | 0, _, _, _ => return ()
  | _, [], _, _ => return ()
  | fuel + 1, (path, place, entries) :: rest, titled, isFirst => do
    if titled then
      if !isFirst then say ['\n']
      sayLine (path ++ [':'])
    let shown ← listingOf display place entries
    sayNames display shown
    let inner := if display.recursive then
        (sortedNames display shown).filterMap fun (name, node, _) => match node with
          | .dir inner =>
            if name = ['.'] || name = ['.', '.'] then none
            else some (below path name, place ++ [toBytes name], inner)
          | _ => none
      else []
    listFrom display fuel (inner ++ rest) titled false

def isLink : Except IoError (Place × Node) → Bool
  | .ok (_, .link _) => true
  | _ => false

def ls : Program := fun _ words => do
  let arguments ← arguments { letters := "aAbBcCdDfFgGhHiI:klLmnNopqQrRsStT:uUvw:xXZ1", status := 2, names := [
    ("all", 'a', .none), ("almost-all", 'A', .none), ("directory", 'd', .none), ("classify", 'F', .optional),
    ("reverse", 'r', .none), ("recursive", 'R', .none), ("color", 'k', .optional)] } words
  let has := arguments.has
  let display : Display := {
    all := has 'a' || has 'f', almostAll := has 'A', itself := has 'd', classify := has 'F', slashes := has 'p'
    reversed := has 'r', recursive := has 'R', byTime := has 't', bySize := has 'S'
    inLine := match arguments.lastOf ['m', 'C', 'x', '1'] with
      | some 'm' => some ", "
      | some '1' | none => none
      | some _ => some "  "
    quotes := has 'Q', unsorted := has 'U' || has 'f' }
  let operands := if arguments.operands.isEmpty then [['.']] else arguments.operands
  let mut status := 0
  let mut files := []
  let mut directories := []
  for name in operands do
    let disk ← getDisk
    let found : Except IoError (Place × Node) := match disk.locate true (pathOf name) with
      | .ok (place, .dir entries) => .ok (place, Node.dir entries)
      | _ => disk.locate (has 'L') (pathOf name)
    let isLink := isLink (disk.locate false (pathOf name))
    match found with
    | .error error =>
      reportError (ofString "cannot access " ++ quoted name) error
      status := 2
    | .ok (place, .dir entries) =>
      if display.itself || (isLink && display.classify) then
        files := (name, if isLink then Node.link [] else .dir entries, ← timeOf place) :: files
      else directories := (name, place, entries) :: directories
    | .ok (place, node) => files := (name, node, ← timeOf place) :: files
  sayNames display files.reverse
  let sorted := (directories.reverse.mergeSort fun a b => decide (toBytes a.1 ≤ toBytes b.1))
  let sorted := if display.reversed then sorted.reverse else sorted
  let titled := 1 < operands.length || display.recursive
  if !files.isEmpty && !directories.isEmpty then say ['\n']
  listFrom display 100000 sorted titled true
  return status

end InkProject.Script.Program
