import InkProject.Disk.Error
import InkProject.Disk.Tree
import InkProject.Path.Basic
/- A disk and the places that paths lead to. Links are followed on the way, two dots
   go up from where the way has led, and a path that is not absolute starts from the
   working directory. -/
set_option autoImplicit false

namespace InkProject

structure Disk where
  top : Entries
  cwd : Place
deriving DecidableEq

namespace Disk

def nameLimit : Nat := 255
def pathLimit : Nat := 4096
def linkLimit : Nat := 40

inductive Spot where
  | held (place : Place)
  | vacant (parent : Place) (name : Bytes)
deriving DecidableEq, Repr

-- The names of a path for the way through the disk; an empty name at the end stands for
-- a slash there, which asks for a directory.
def steps (bytes : Bytes) : List Bytes :=
  let named := (Path.segments bytes).filter (· ≠ [])
  if named ≠ [] ∧ bytes.getLast? = some Path.slash then named ++ [[]] else named

-- What the last name of a path is wanted for: itself, what it leads to, or a file that
-- is made where there is none.
inductive Purpose where
  | itself
  | target
  | creation
deriving DecidableEq, Repr

def startOf (bytes : Bytes) (current : Place) : Place :=
  if bytes.head? = some Path.slash then [] else current

def walkWith (disk : Disk) (purpose : Purpose) (onLink : Place → List Bytes → Except IoError Spot) :
    Place → List Bytes → Except IoError Spot
  | place, [] => .ok (.held place)
  | place, name :: rest => match disk.top.at? place with
    | some (.dir entries) =>
      if purpose = .creation ∧ rest = [[]] then .error .isDirectory
      else if name = Path.dot ∨ name = [] then walkWith disk purpose onLink place rest
      else if name = Path.dots then walkWith disk purpose onLink place.dropLast rest
      else if nameLimit < name.length then .error .nameTooLong
      else match entries.find? name with
        | none => if rest.isEmpty then .ok (.vacant place name) else .error .notFound
        | some (.link target) =>
          if rest.isEmpty ∧ purpose = .itself then .ok (.held (place ++ [name]))
          else onLink (startOf target place) (steps target ++ rest)
        | some _ => walkWith disk purpose onLink (place ++ [name]) rest
    | _ => .error .notDirectory

def walkFrom (disk : Disk) (purpose : Purpose) : Nat → Place → List Bytes → Except IoError Spot
  | 0 => walkWith disk purpose fun _ _ => .error .tooManyLinks
  | links + 1 => walkWith disk purpose (walkFrom disk purpose links)

def checkPath (path : Path) : Except IoError Unit :=
  if path.bytes.contains 0 then .error .nulInPath
  else if path.bytes = [] then .error .notFound
  else if pathLimit ≤ path.bytes.length then .error .nameTooLong
  else .ok ()

def walk (disk : Disk) (purpose : Purpose) (path : Path) (names : List Bytes) : Except IoError Spot := do
  checkPath path
  walkFrom disk purpose linkLimit (startOf path.bytes disk.cwd) names

def locate (disk : Disk) (follow : Bool) (path : Path) : Except IoError (Place × Node) := do
  match ← disk.walk (if follow then .target else .itself) path (steps path.bytes) with
  | .vacant _ _ => .error .notFound
  | .held place => match disk.top.at? place with
    | some node => .ok (place, node)
    | none => .error .notFound

def pathOf (place : Place) : Path := ⟨Path.slash :: Path.glue place⟩

end Disk

end InkProject
