import InkProject.Script.Program.Basic
import InkProject.Script.Regex.Read
set_option autoImplicit false

namespace InkProject.Script.Program

open Shell

inductive Scalar where
  | number (value : Int)
  | text (text : Text)
deriving DecidableEq, Repr

namespace Scalar

def shown : Scalar → Text
  | .number value => signedDecimal value
  | .text chars => chars

def number? : Scalar → Option Int
  | .number value => some value
  | .text chars =>
    let (negative, digits) := match chars with
      | '-' :: digits => (true, digits)
      | digits => (false, digits)
    if digits ≠ [] && digits.all Char.isDigit then
      let value := Int.ofNat (digitsFrom 10 0 digits).1
      some (if negative then -value else value)
    else none

def isNull : Scalar → Bool
  | .number value => value = 0
  | .text chars => chars = [] || match chars with
    | '-' :: digits => digits ≠ [] && digits.all (· = '0')
    | digits => digits.all (· = '0')

def ofBool (value : Bool) : Scalar := .number (if value then 1 else 0)

end Scalar

structure Unread where
  words : List Text
  last : Text := []

abbrev Evaluating := StateT Unread (Except Text)

namespace Evaluating

def stop {α : Type} (message : Text) : Evaluating α := throw message
def stopText {α : Type} (message : String) : Evaluating α := throw (ofString message)

def next? : Evaluating (Option Text) := return (← get).words.head?

def skip : Evaluating Unit :=
  modify fun unread => ⟨unread.words.drop 1, unread.words.headD unread.last⟩

def accept (names : List String) : Evaluating (Option String) := do
  match ← next? with
  | none => return none
  | some word => match names.find? fun name => name.toList = word with
    | some name =>
      skip
      return some name
    | none => return none

def demand : Evaluating Unit := do
  if (← next?).isNone then
    stop (ofString "syntax error: missing argument after " ++ Program.cited (← get).last)

def number (operand : Scalar) : Evaluating Int := do
  match operand.number? with
  | some value => return value
  | none => stopText "non-integer argument"

def matched (text pattern : Text) : Evaluating Scalar := do
  match Regex.parse ⟨false, true⟩ pattern with
  | .error message => stopText message
  | .ok parsed =>
    let setting : Regex.Setting := { exact := parsed.regex.refersBack }
    match Regex.farthest (Regex.ends setting parsed.regex { rest := text }) with
    | some last =>
      if 0 < parsed.groups then return .text ((last.groups.lookup 1).getD []) else return .number (Int.ofNat last.index)
    | none => return if 0 < parsed.groups then .text [] else .number 0

def compare (name : String) (first second : Scalar) : Bool :=
  let order := match first.number?, second.number? with
    | some a, some b => if a < b then Ordering.lt else if b < a then .gt else .eq
    | _, _ =>
      let a := first.shown
      let b := second.shown
      if a < b then .lt else if b < a then .gt else .eq
  match name with
  | "<" => order = .lt
  | "<=" => order ≠ .gt
  | ">" => order = .gt
  | ">=" => order ≠ .lt
  | "!=" => order ≠ .eq
  | _ => order = .eq

def arithmetic (name : String) (a b : Int) : Evaluating Scalar := do
  match name with
  | "+" => return .number (a + b)
  | "-" => return .number (a - b)
  | "*" => return .number (a * b)
  | _ =>
    if b = 0 then stopText "division by zero"
    return .number (if name = "/" then Int.tdiv a b else Int.tmod a b)

inductive Level where
  | either
  | both
  | compared
  | added
  | multiplied
  | fitted
  | first
deriving DecidableEq, Repr

def Level.signs : Level → List String
  | .either => ["|"]
  | .both => ["&"]
  | .compared => ["<", "<=", "=", "==", "!=", ">=", ">"]
  | .added => ["+", "-"]
  | .multiplied => ["*", "/", "%"]
  | .fitted => [":"]
  | .first => []

def Level.tighter : Level → Level
  | .either => .both
  | .both => .compared
  | .compared => .added
  | .added => .multiplied
  | .multiplied => .fitted
  | .fitted | .first => .first

def joined (level : Level) (wanted : Bool) (name : String) (first second : Scalar) : Evaluating Scalar := do
  match level with
  | .either =>
    if !first.isNull then return first
    return if second.isNull then .number 0 else second
  | .both => return if first.isNull || second.isNull then .number 0 else first
  | .compared => return Scalar.ofBool (compare name first second)
  | .added | .multiplied =>
    if wanted then arithmetic name (← number first) (← number second) else return first
  | .fitted => if wanted then matched first.shown second.shown else return first
  | .first => return first

def wantsSecond (level : Level) (first : Scalar) : Bool :=
  match level with
  | .either => first.isNull
  | .both => !first.isNull
  | _ => true

mutual
def expression : Nat → Level → Bool → Evaluating Scalar
  | 0, _, _ => stopText "syntax error"
  | fuel + 1, level, wanted => do
    if level = .first then word fuel wanted
    else onward fuel level wanted (← expression fuel level.tighter wanted)

def onward : Nat → Level → Bool → Scalar → Evaluating Scalar
  | 0, _, _, first => return first
  | fuel + 1, level, wanted, first => do
    match ← accept level.signs with
    | none => return first
    | some name =>
      let second ← expression fuel level.tighter (wanted && wantsSecond level first)
      onward fuel level wanted (← joined level wanted name first second)

def word : Nat → Bool → Evaluating Scalar
  | 0, _ => stopText "syntax error"
  | fuel + 1, wanted => do
    let operand : Evaluating Scalar := word fuel wanted
    match ← accept ["+", "length", "match", "index", "substr"] with
    | some "+" =>
      demand
      let text := ((← next?).getD [])
      skip
      return .text text
    | some "length" => return .number (Int.ofNat (← operand).shown.length)
    | some "match" =>
      let text ← operand
      let pattern ← operand
      if wanted then matched text.shown pattern.shown else return text
    | some "index" =>
      let text := (← operand).shown
      let chars := (← operand).shown
      return .number (Int.ofNat (((text.findIdx? chars.contains).map (· + 1)).getD 0))
    | some _ =>
      let text := (← operand).shown
      let place := (← operand).number?
      let size := (← operand).number?
      match place, size with
      | some place, some size =>
        if place ≤ 0 || size ≤ 0 then return .text []
        return .text ((text.drop (place.toNat - 1)).take size.toNat)
      | _, _ => return .text []
    | none =>
      demand
      match ← accept ["(", ")"] with
      | some "(" =>
        let inner ← expression fuel .either wanted
        match ← next? with
        | none => stop (ofString "syntax error: expecting ')' after " ++ Program.cited (← get).last)
        | some other =>
          if other ≠ [')'] then stop (ofString "syntax error: expecting ')' instead of " ++ Program.cited other)
          skip
          return inner
      | some _ => stopText "syntax error: unexpected ')'"
      | none =>
        let text := ((← next?).getD [])
        skip
        return .text text
end

end Evaluating

def expr : Program := fun _ words => do
  match if words.head? = some ['-', '-'] then words.drop 1 else words with
  | [] => misused 2 (ofString "missing operand")
  | words =>
    let whole : Evaluating Scalar := do
      let value ← Evaluating.expression (8 * words.length + 16) .either true
      match ← Evaluating.next? with
      | some extra => Evaluating.stop (ofString "syntax error: unexpected argument " ++ cited extra)
      | none => return value
    match whole.run { words := words } with
    | .error message =>
      report message
      return 2
    | .ok (value, _) =>
      sayLine value.shown
      return if value.isNull then 1 else 0

end InkProject.Script.Program
