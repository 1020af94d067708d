import InkProject.Disk.Operations
set_option autoImplicit false

namespace InkProject.Disk

inductive Kind where
  | dir
  | file (content : Bytes)
  | link (target : Bytes)
deriving DecidableEq, Repr

mutual
def nodeListing (place : Place) : Node → List (Place × Kind)
  | .file content _ => [(place, .file content)]
  | .link target => [(place, .link target)]
  | .device _ => []
  | .dir entries => (place, .dir) :: entriesListing place entries

def entriesListing (place : Place) : Entries → List (Place × Kind)
  | .nil => []
  | .cons name node rest => nodeListing (place ++ [name]) node ++ entriesListing place rest
end

def listing (entries : Entries) : List (Path × Kind) :=
  let rows := (entriesListing [] entries).map fun (place, kind) => (Path.mk (Path.glue place), kind)
  rows.mergeSort fun a b => decide (a.1.bytes ≤ b.1.bytes)

end InkProject.Disk
