import InkProject.Disk.Operations
set_option autoImplicit false

namespace InkProject

mutual
def Node.count : Node → Nat
  | .file _ _ | .link _ | .device _ => 1
  | .dir entries => entries.count + 1

def Entries.count : Entries → Nat
  | .nil => 0
  | .cons _ node rest => node.count + rest.count
end

namespace Files

def numbered (directory : Path) (stem extension : String) : Nat → Path
  | 0 => directory.childNamed s!"{stem}.{extension}"
  | number => directory.childNamed s!"{stem} {number}.{extension}"

def freeFrom (disk : Disk) (name : Nat → Path) : Nat → Nat → Path
  | 0, number => name number
  | fuel + 1, number =>
    if disk.exists? (name number) then freeFrom disk name fuel (number + 1) else name number

-- Different numbers are different names, so at most every node of the disk is in the way.
def free (disk : Disk) (directory : Path) (stem extension : String) : Path :=
  freeFrom disk (numbered directory stem extension) (disk.top.count + 1) 0

end Files

end InkProject
