import InkProject.Script.Command
set_option autoImplicit false

namespace InkProject.Script

def wrapped (value : Int) : Int := Int.bmod value 18446744073709551616
def greatest : Int := 9223372036854775807
def least : Int := -9223372036854775808

def digitValue? (base : Nat) (char : Char) : Option Nat :=
  let value :=
    if char.isDigit then some (char.toNat - '0'.toNat)
    else if char.isLower then some (char.toNat - 'a'.toNat + 10)
    else if char.isUpper then some (char.toNat - 'A'.toNat + 10)
    else none
  value.filter (· < base)

def digitsFrom (base : Nat) : Nat → Text → Nat × Text
  | value, char :: rest => match digitValue? base char with
    | some digit => digitsFrom base (value * base + digit) rest
    | none => (value, char :: rest)
  | value, [] => (value, [])

def numeral? (anyBase : Bool) (text : Text) : Option (Nat × Text) :=
  match text with
  | '0' :: x :: digit :: rest =>
    if anyBase && (x = 'x' || x = 'X') && (digitValue? 16 digit).isSome then
      some (digitsFrom 16 0 (digit :: rest))
    else some (digitsFrom (if anyBase then 8 else 10) 0 text)
  | '0' :: _ => some (digitsFrom (if anyBase then 8 else 10) 0 text)
  | char :: _ => if char.isDigit then some (digitsFrom 10 0 text) else none
  | [] => none

def isSpace (char : Char) : Bool := char = ' ' || ('\t' ≤ char && char ≤ '\r')

def signed? (anyBase : Bool) (text : Text) : Option (Int × Text) :=
  match text.dropWhile isSpace with
  | '-' :: rest => (numeral? anyBase rest).map fun (value, rest) => (-Int.ofNat value, rest)
  | '+' :: rest => (numeral? anyBase rest).map fun (value, rest) => (Int.ofNat value, rest)
  | rest => (numeral? anyBase rest).map fun (value, rest) => (Int.ofNat value, rest)

def fits64 (value : Int) : Bool := least ≤ value && value ≤ greatest

def integer? (anyBase : Bool) (text : Text) : Option Int :=
  match signed? anyBase text with
  | some (value, rest) => if fits64 value && rest.all isSpace then some value else none
  | none => if anyBase && text.all isSpace then some 0 else none

namespace Arithmetic

inductive Token where
  | number (value : Int)
  | name (name : Text)
  | sign (sign : Text)
deriving DecidableEq, Repr

def signs : List Text := ["<<=", ">>=", "<<", ">>", "<=", ">=", "==", "!=", "&&", "||", "+=", "-=",
  "*=", "/=", "%=", "&=", "|=", "^=", "=", "<", ">", "+", "-", "*", "/", "%", "&", "|", "^", "!",
  "~", "(", ")", "?", ":"].map String.toList

def tokensFrom : Nat → Text → List Token
  | 0, _ => []
  | _ + 1, [] => []
  | fuel + 1, char :: rest =>
    let text := char :: rest
    if isBlank char || char = '\n' then tokensFrom fuel rest
    else match numeral? true text with
      | some (value, rest) => .number (min value greatest) :: tokensFrom fuel rest
      | none =>
        if startsName char then
          .name (text.takeWhile isNameChar) :: tokensFrom fuel (text.dropWhile isNameChar)
        else match signs.find? (·.isPrefixOf text) with
          | some sign => .sign sign :: tokensFrom fuel (text.drop sign.length)
          | none => [.sign []]

inductive Fault where
  | message (text : String)
  | illegal (value : Text)

structure State where
  tokens : List Token
  assigned : List (Text × Int) := []

abbrev Calculation := EStateM Fault State

def fail {α : Type} (text : String) : Calculation α := throw (.message text)

def accept (sign : String) : Calculation Bool :=
  modifyGet fun state => match state.tokens with
    | .sign other :: rest =>
      if other = sign.toList then (true, { state with tokens := rest }) else (false, state)
    | _ => (false, state)

def truth (holds : Bool) : Int := if holds then 1 else 0

def bits (value : Int) : Nat := (value % 18446744073709551616).toNat

def operators : List (String × Nat × (Int → Int → Option Int)) := [
  ("*", 0, fun a b => a * b),
  ("/", 0, fun a b => if b = 0 then none else a.tdiv b),
  ("%", 0, fun a b => if b = 0 then none else a.tmod b),
  ("+", 1, fun a b => a + b),
  ("-", 1, fun a b => a - b),
  ("<<", 2, fun a b => a * Int.ofNat (Nat.pow 2 (bits b % 64))),
  (">>", 2, fun a b => a / Int.ofNat (Nat.pow 2 (bits b % 64))),
  ("<", 3, fun a b => truth (a < b)),
  ("<=", 3, fun a b => truth (a ≤ b)),
  (">", 3, fun a b => truth (a > b)),
  (">=", 3, fun a b => truth (a ≥ b)),
  ("==", 4, fun a b => truth (a = b)),
  ("!=", 4, fun a b => truth (a ≠ b)),
  ("&", 5, fun a b => some (Int.ofNat (bits a &&& bits b))),
  ("^", 6, fun a b => some (Int.ofNat (bits a ^^^ bits b))),
  ("|", 7, fun a b => some (Int.ofNat (bits a ||| bits b)))]

def weakest : Nat := 8

def operator? (sign : Text) : Option (Nat × (Int → Int → Option Int)) :=
  (operators.find? fun (name, _) => name.toList = sign).map Prod.snd

def apply (operator : Int → Int → Option Int) (a b : Int) : Calculation Int :=
  match operator a b with
  | some value => return wrapped value
  | none => fail "division by zero"

def nextOperator : Calculation (Option (Nat × (Int → Int → Option Int))) := do
  match (← get).tokens with
  | .sign sign :: _ => return operator? sign
  | _ => return none

def skip : Calculation Unit := modify fun state => { state with tokens := state.tokens.drop 1 }

def assigning? (sign : Text) : Option (Option (Int → Int → Option Int)) :=
  if sign = ['='] then some none
  else match sign.getLast? with
    | some '=' => (operator? sign.dropLast).map fun (_, operator) => some operator
    | _ => none

def lookUp (value : Text → Except Text Int) (name : Text) : Calculation Int := do
  match (← get).assigned.lookup name with
  | some found => return found
  | none => match value name with
    | .ok found => return found
    | .error text => throw (.illegal text)

mutual
def assignment (value : Text → Except Text Int) (idle : Bool) : Nat → Calculation Int
  | 0 => fail "expecting primary"
  | fuel + 1 => do
    match (← get).tokens with
    | .name name :: .sign sign :: rest => match assigning? sign with
      | some operator =>
        modify ({ · with tokens := rest })
        let given ← assignment value idle fuel
        if idle then return given
        let result ← match operator with
          | some operator => apply operator (← lookUp value name) given
          | none => pure given
        modify fun state => { state with assigned := (name, result) :: state.assigned }
        return result
      | none => condition value idle fuel
    | _ => condition value idle fuel

def condition (value : Text → Except Text Int) (idle : Bool) : Nat → Calculation Int
  | 0 => fail "expecting primary"
  | fuel + 1 => do
    let test ← either value idle fuel
    if ← accept "?" then
      let first ← assignment value (idle || test = 0) fuel
      if !(← accept ":") then fail "expecting ':'"
      let second ← condition value (idle || test ≠ 0) fuel
      return if test ≠ 0 then first else second
    else return test

def either (value : Text → Except Text Int) (idle : Bool) : Nat → Calculation Int
  | 0 => fail "expecting primary"
  | fuel + 1 => do
    let first ← both value idle fuel
    if ← accept "||" then
      let second ← either value (idle || first ≠ 0) fuel
      return truth (first ≠ 0 || second ≠ 0)
    else return first

def both (value : Text → Except Text Int) (idle : Bool) : Nat → Calculation Int
  | 0 => fail "expecting primary"
  | fuel + 1 => do
    let first ← primary value idle fuel
    let first ← operations value idle fuel weakest first
    if ← accept "&&" then
      let second ← both value (idle || first = 0) fuel
      return truth (first ≠ 0 && second ≠ 0)
    else return first

def operations (value : Text → Except Text Int) (idle : Bool) : Nat → Nat → Int → Calculation Int
  | 0, _, _ => fail "expecting primary"
  | fuel + 1, limit, left => do
    match ← nextOperator with
    | none => return left
    | some (level, operator) =>
      if limit ≤ level then return left
      skip
      let right ← primary value idle fuel
      let right ← operations value idle fuel level right
      let result ← if idle then pure right else apply operator left right
      operations value idle fuel limit result

def primary (value : Text → Except Text Int) (idle : Bool) : Nat → Calculation Int
  | 0 => fail "expecting primary"
  | fuel + 1 => do
    match (← get).tokens with
    | .number number :: _ =>
      skip
      return number
    | .name name :: _ =>
      skip
      if idle then return 0 else lookUp value name
    | .sign ['('] :: _ =>
      skip
      let inner ← assignment value idle fuel
      if !(← accept ")") then fail "expecting ')'"
      return inner
    | .sign ['+'] :: _ =>
      skip
      primary value idle fuel
    | .sign ['-'] :: _ =>
      skip
      return wrapped (-(← primary value idle fuel))
    | .sign ['!'] :: _ =>
      skip
      return truth ((← primary value idle fuel) = 0)
    | .sign ['~'] :: _ =>
      skip
      return -(← primary value idle fuel) - 1
    | _ => fail "expecting primary"
end

def evaluate (value : Text → Except Text Int) (expression : Text) :
    Except Fault Int × List (Text × Int) :=
  let tokens := tokensFrom (expression.length + 1) expression
  let whole : Calculation Int := do
    let result ← assignment value false (16 * (tokens.length + 2))
    if (← get).tokens ≠ [] then fail "expecting EOF"
    return result
  match whole { tokens := tokens } with
  | .ok result state => (.ok result, state.assigned.reverse)
  | .error fault state => (.error fault, state.assigned.reverse)

end Arithmetic

end InkProject.Script
