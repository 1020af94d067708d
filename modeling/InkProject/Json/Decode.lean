import InkProject.Json.Write
import InkProject.Shape
set_option autoImplicit false

namespace InkProject.Json

open Shape

abbrev Decoder (α : Type) := Json → Except Mismatch α

def found : Json → Found
  | .null => .null
  | .bool value => .boolean value
  | .integer value => .integer value
  | .double value => .double (String.ofList (doubleText value))
  | .string text => .string text
  | .array _ => .sequence
  | .object _ => .map

def mismatch {α : Type} (expected : String) (json : Json) : Except Mismatch α :=
  .error (.invalidType json.found expected)

def decodeString : Decoder String
  | .string text => .ok text
  | json => json.mismatch "a string"

def decodeBool : Decoder Bool
  | .bool value => .ok value
  | json => json.mismatch "a boolean"

def decodeInteger (low high : Int) (name : String) : Decoder Int
  | .integer value =>
    if low ≤ value ∧ value ≤ high then .ok value else .error (.invalidValue (.integer value) name)
  | json => json.mismatch name

def decodeSigned : Decoder Int := decodeInteger least greatestSigned "i64"

def decodeList {α : Type} (item : Decoder α) : Decoder (List α)
  | .array items => items.mapM item
  | json => json.mismatch "a sequence"

def decodeObject : Decoder (Table Json)
  | .object members => .ok members
  | json => json.mismatch "a map"

def decodeOption {α : Type} (inner : Decoder α) : Decoder (Option α)
  | .null => .ok none
  | json => some <$> inner json

def decodeVariant {α : Type} (variants : List (String × α)) : Decoder α :=
  let named (name : String) : Except Mismatch α :=
    match variants.lookup name with
    | some variant => .ok variant
    | none => .error (.unknownVariant name (variants.map Prod.fst))
  fun
  | .string name => named name
  | .object [(name, content)] => do
    let variant ← named name
    match content with
    | .null => .ok variant
    | json => json.mismatch "unit"
  | .object _ => .error (.invalidValue .map "map with a single key")
  | json => json.mismatch "string or map"

/- A record is read from an object by name, or from an array by place. A field is
   known by its name and by the mismatch its value has, if any; one that may be
   missing is so only in an object. -/
structure Field where
  name : String
  check : Json → Option Mismatch
  required : Bool

def field {α : Type} (name : String) (decoder : Decoder α) (required : Bool) : Field where
  name := name
  check json := match decoder json with
    | .ok _ => none
    | .error mismatch => some mismatch
  required := required

def memberMismatch? (fields : List Field) : Table Json → Option Mismatch
  | [] => none
  | (key, value) :: rest =>
    match (fields.find? (·.name = key)).bind fun field => field.check value with
    | some mismatch => some mismatch
    | none => memberMismatch? fields rest

def missing? (fields : List Field) (members : Table Json) : Option Mismatch :=
  (fields.find? fun field => field.required && !members.contains field.name).map
    fun field => .missingField field.name

def elements (count : Nat) : String := if count = 1 then "1 element" else s!"{count} elements"

def place (expected : String) (before : Nat) :
    List Field → List Json → Except Mismatch (Table Json × List Json)
  | [], items => .ok ([], items)
  | _ :: _, [] => .error (.invalidLength before expected)
  | field :: fields, item :: items =>
    match field.check item with
    | some mismatch => .error mismatch
    | none => do
      let (placed, left) ← place expected (before + 1) fields items
      return ((field.name, item) :: placed, left)

def placeAll (expected : String) (fields : List Field) (items : List Json) :
    Except Mismatch (Table Json) := do
  let (placed, left) ← place expected 0 fields items
  match left with
  | [] => .ok placed
  | _ :: _ => .error (.invalidLength items.length "fewer elements in array")

def decodeMembers (fields : List Field) (members : Table Json) : Except Mismatch (Table Json) :=
  match memberMismatch? fields members with
  | some mismatch => .error mismatch
  | none => match missing? fields members with
    | some mismatch => .error mismatch
    | none => .ok members

def decodeRecord (what : String) (fields : List Field) : Decoder (Table Json)
  | .object members => decodeMembers fields members
  | .array items => placeAll s!"{what} with {elements fields.length}" fields items
  | json => json.mismatch what

def decodeTuple (fields : List Field) : Decoder (Table Json)
  | .array items => placeAll s!"a tuple of size {fields.length}" fields items
  | json => json.mismatch s!"a tuple of size {fields.length}"

def required {α : Type} (name : String) (decoder : Decoder α) (members : Table Json) :
    Except Mismatch α :=
  match members.find? name with
  | some value => decoder value
  | none => .error (.missingField name)

def optional {α : Type} (name : String) (decoder : Decoder α) (default : α) (members : Table Json) :
    Except Mismatch α :=
  match members.find? name with
  | some value => decoder value
  | none => .ok default

end InkProject.Json
