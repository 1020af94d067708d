set_option autoImplicit false

namespace InkProject

inductive Notice where
  | blocking
  | nonBlocking
deriving DecidableEq, Repr

def Notice.name : Notice → String
  | .blocking => "blocking"
  | .nonBlocking => "non_blocking"

end InkProject
