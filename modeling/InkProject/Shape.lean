import InkProject.Text.Quoted
set_option autoImplicit false

namespace InkProject

namespace Shape

inductive Found where
  | null
  | boolean (value : Bool)
  | integer (value : Int)
  | double (text : String)
  | string (text : String)
  | sequence
  | map
deriving DecidableEq, Repr

def Found.describe : Found → String
  | .null => "null"
  | .boolean value => s!"boolean `{value}`"
  | .integer value => s!"integer `{value}`"
  | .double text => s!"floating point `{text}`"
  | .string text => "string " ++ Quoted.quoteString text
  | .sequence => "sequence"
  | .map => "map"

inductive Mismatch where
  | invalidType (found : Found) (expected : String)
  | invalidValue (found : Found) (expected : String)
  | invalidLength (length : Nat) (expected : String)
  | missingField (name : String)
  | unknownField (name : String) (fields : List String)
  | unknownVariant (name : String) (variants : List String)
  | invalidName (name : String)
deriving DecidableEq, Repr

def ticked (name : String) : String := s!"`{name}`"

def oneOf : List String → String
  | [name] => ticked name
  | [first, second] => s!"{ticked first} or {ticked second}"
  | names => "one of " ++ ", ".intercalate (names.map ticked)

def Mismatch.message : Mismatch → String
  | .invalidType found expected => s!"invalid type: {found.describe}, expected {expected}"
  | .invalidValue found expected => s!"invalid value: {found.describe}, expected {expected}"
  | .invalidLength length expected => s!"invalid length {length}, expected {expected}"
  | .missingField name => s!"missing field {ticked name}"
  | .unknownField name fields => s!"unknown field {ticked name}, expected {oneOf fields}"
  | .unknownVariant name variants => s!"unknown variant {ticked name}, expected {oneOf variants}"
  | .invalidName name => s!"invalid file name '{name}'"

end Shape

end InkProject
