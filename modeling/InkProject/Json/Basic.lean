import InkProject.Number.Double
import InkProject.Table
set_option autoImplicit false

namespace InkProject

inductive Json where
  | null
  | bool (value : Bool)
  | integer (value : Int)
  | double (value : Double)
  | string (text : String)
  | array (items : List Json)
  | object (members : List (String × Json))

namespace Json

mutual
def decEq : (a b : Json) → Decidable (a = b)
  | .null, b => match b with
    | .null => isTrue rfl
    | .bool _ | .integer _ | .double _ | .string _ | .array _ | .object _ => isFalse nofun
  | .bool x, b => match b with
    | .bool y => if h : x = y then isTrue (h ▸ rfl) else isFalse fun e => h (Json.bool.inj e)
    | .null | .integer _ | .double _ | .string _ | .array _ | .object _ => isFalse nofun
  | .integer x, b => match b with
    | .integer y => if h : x = y then isTrue (h ▸ rfl) else isFalse fun e => h (Json.integer.inj e)
    | .null | .bool _ | .double _ | .string _ | .array _ | .object _ => isFalse nofun
  | .double x, b => match b with
    | .double y => if h : x = y then isTrue (h ▸ rfl) else isFalse fun e => h (Json.double.inj e)
    | .null | .bool _ | .integer _ | .string _ | .array _ | .object _ => isFalse nofun
  | .string x, b => match b with
    | .string y => if h : x = y then isTrue (h ▸ rfl) else isFalse fun e => h (Json.string.inj e)
    | .null | .bool _ | .integer _ | .double _ | .array _ | .object _ => isFalse nofun
  | .array x, b => match b with
    | .array y => match decEqItems x y with
      | isTrue h => isTrue (h ▸ rfl)
      | isFalse h => isFalse fun e => h (Json.array.inj e)
    | .null | .bool _ | .integer _ | .double _ | .string _ | .object _ => isFalse nofun
  | .object x, b => match b with
    | .object y => match decEqMembers x y with
      | isTrue h => isTrue (h ▸ rfl)
      | isFalse h => isFalse fun e => h (Json.object.inj e)
    | .null | .bool _ | .integer _ | .double _ | .string _ | .array _ => isFalse nofun
def decEqItems : (a b : List Json) → Decidable (a = b)
  | [], [] => isTrue rfl
  | [], _ :: _ => isFalse nofun
  | _ :: _, [] => isFalse nofun
  | a :: as, b :: bs => match decEq a b, decEqItems as bs with
    | isTrue h, isTrue t => isTrue (h ▸ t ▸ rfl)
    | isFalse h, _ => isFalse fun e => h (List.cons.inj e).1
    | _, isFalse t => isFalse fun e => t (List.cons.inj e).2
def decEqMembers : (a b : List (String × Json)) → Decidable (a = b)
  | [], [] => isTrue rfl
  | [], _ :: _ => isFalse nofun
  | _ :: _, [] => isFalse nofun
  | (k, a) :: as, (l, b) :: bs =>
    if hk : k = l then match decEq a b, decEqMembers as bs with
      | isTrue h, isTrue t => isTrue (hk ▸ h ▸ t ▸ rfl)
      | isFalse h, _ => isFalse fun e => h (Prod.mk.inj (List.cons.inj e).1).2
      | _, isFalse t => isFalse fun e => t (List.cons.inj e).2
    else isFalse fun e => hk (Prod.mk.inj (List.cons.inj e).1).1
end

instance : DecidableEq Json := decEq

instance : Inhabited Json := ⟨.null⟩

def least : Int := -9223372036854775808
def greatestSigned : Int := 9223372036854775807
def greatest : Int := 18446744073709551615

def string? : Json → Option String
  | .string text => some text
  | _ => none

def array? : Json → Option (List Json)
  | .array items => some items
  | _ => none

def signed? : Json → Option Int
  | .integer value => if least ≤ value ∧ value ≤ greatestSigned then some value else none
  | _ => none

def member? (key : String) : Json → Option Json
  | .object members => Table.find? key members
  | _ => none

end Json

end InkProject
