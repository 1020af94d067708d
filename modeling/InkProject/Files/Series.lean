import InkProject.Files.Create
set_option autoImplicit false

namespace InkProject.Files

inductive Task where
  | state (directory : Path) (stem json : String)
  | story (directory template : Path)

def Task.run : Task → Disk → Except FileError Path × Disk
  | .state directory stem json, disk =>
    let outcome := saveState directory stem json disk
    (outcome.result, outcome.disk)
  | .story directory template, disk =>
    let outcome := createStory directory template disk
    (outcome.result.map Created.path, outcome.disk)

structure Call where
  task : Task
  before : Disk
  result : Except FileError Path
  after : Disk

def Task.call (task : Task) (disk : Disk) : Call := ⟨task, disk, (task.run disk).1, (task.run disk).2⟩

def calls : List Task → Disk → List Call
  | [], _ => []
  | task :: tasks, disk => task.call disk :: calls tasks (task.call disk).after

def left : List Task → Disk → Disk
  | [], disk => disk
  | task :: tasks, disk => left tasks (task.call disk).after

-- The greatest number of 32 bits. It cannot be counted on from, so it is never tried.
def greatestNumber : Nat := 4294967295

def countedFrom (disk : Disk) (name : Nat → Path) : Nat → Nat → Option Path
  | 0, _ => none
  | left + 1, number =>
    if disk.exists? (name number) then countedFrom disk name left (number + 1) else some (name number)

def counted (disk : Disk) (name : Nat → Path) : Option Path :=
  if disk.exists? (name 0) then countedFrom disk name (greatestNumber - 1) 1 else some (name 0)

end InkProject.Files
