import InkProject.Disk.Operations
set_option autoImplicit false

namespace InkProject

structure Outcome (ε α ν : Type) where
  result : Except ε α
  disk : Disk
  events : List ν

end InkProject
