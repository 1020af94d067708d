set_option autoImplicit false

namespace InkProject.Log

inductive Level where
  | debug
  | info
  | warn
deriving DecidableEq, Repr

def Level.name : Level → String
  | .debug => "DEBUG"
  | .info => "INFO"
  | .warn => "WARN"

inductive Field where
  | text (value : String)
  | integer (value : Int)
  | flag (value : Bool)
deriving DecidableEq, Repr

structure Line where
  level : Level
  message : String
  fields : List (String × Field)
deriving DecidableEq, Repr

end InkProject.Log
