import InkProject.Number.Shortest
import InkProject.Shape
set_option autoImplicit false

namespace InkProject

inductive Toml where
  | string (text : String)
  | integer (value : Int)
  | double (value : Double)
  | infinite (negative : Bool)
  | notANumber
  | boolean (value : Bool)
  | moment
  | array (items : List Toml)
  | table (entries : List (String × Toml))

namespace Toml

open Shape

def doubleLayout : Shortest.Layout := ⟨none, .above⟩

def found : Toml → Found
  | .string text => .string text
  | .integer value => .integer value
  | .double value => .double (String.ofList (Shortest.text doubleLayout value))
  | .infinite true => .double "-inf"
  | .infinite false => .double "inf"
  | .notANumber => .double "NaN"
  | .boolean value => .boolean value
  | .array _ => .sequence
  | .moment | .table _ => .map

def mismatch {α : Type} (expected : String) (toml : Toml) : Except Mismatch α :=
  .error (.invalidType toml.found expected)

end Toml

end InkProject
