import InkProject.Script.Arithmetic
import InkProject.Script.Shell
set_option autoImplicit false

namespace InkProject.Script.Condition

inductive Kind where
  | unary
  | binary
  | negation
  | both
  | either
  | opening
  | closing
deriving DecidableEq, Repr

def unarySigns : List String := ["-r", "-w", "-x", "-e", "-f", "-d", "-c", "-b", "-p", "-u", "-g",
  "-k", "-s", "-t", "-z", "-n", "-h", "-O", "-G", "-L", "-S"]

def binarySigns : List String := ["=", "!=", "<", ">", "-eq", "-ne", "-gt", "-ge", "-lt", "-le",
  "-nt", "-ot", "-ef"]

def kind? (word : Text) : Option Kind :=
  let name := String.ofList word
  if unarySigns.contains name then some .unary
  else if binarySigns.contains name then some .binary
  else match name with
    | "!" => some .negation
    | "-a" => some .both
    | "-o" => some .either
    | "(" => some .opening
    | ")" => some .closing
    | _ => none

abbrev Checking := EStateM Text Nat

structure Setting where
  shell : Shell
  words : Array Text

namespace Setting

variable (setting : Setting)

def word? (index : Nat) : Option Text := setting.words[index]?

def isValue (index : Nat) : Bool :=
  match setting.word? (index + 1), setting.word? (index + 2) with
  | none, _ => true
  | some _, none => false
  | some next, some _ => kind? next = some .binary

def sign? (index : Nat) : Option Kind :=
  match setting.word? index with
  | none => none
  | some word => match kind? word with
    | some .unary => if setting.isValue index then none else some .unary
    | some .opening => if (setting.word? (index + 1)).isNone then none else some .opening
    | found => found

def number (word : Text) : Checking Int :=
  match integer? false word with
  | some value => return value
  | none => throw (ofString "Illegal number: " ++ word)

def node? (name : Text) : Option (Place × Node) :=
  (setting.shell.machine.disk.locate true (Shell.pathOf name)).toOption

def timeOf (place : Place) : Nat := (setting.shell.machine.times.lookup place).getD 0

def isTerminal : Checking Bool := return false

def holdsOne (sign : String) (word : Text) : Checking Bool := do
  match sign with
  | "-z" => return word.isEmpty
  | "-n" => return !word.isEmpty
  | "-t" =>
    let _ ← number word
    isTerminal
  | "-h" | "-L" =>
    return match setting.shell.machine.disk.locate false (Shell.pathOf word) with
      | .ok (_, .link _) => true
      | _ => false
  | _ => match setting.node? word with
    | none => return false
    | some (_, node) => return match sign, node with
      | "-r", _ | "-w", _ | "-e", _ | "-O", _ | "-G", _ => true
      | "-x", .file _ executable => executable
      | "-x", .dir _ => true
      | "-f", .file _ _ => true
      | "-d", .dir _ => true
      | "-c", .device _ => true
      | "-s", .file content _ => !content.isEmpty
      | "-s", .dir _ => true
      | _, _ => false

def holdsBoth (left : Text) (sign : String) (right : Text) : Checking Bool := do
  let compared (test : Int → Int → Bool) : Checking Bool := do
    let a ← number left
    return test a (← number right)
  match sign with
  | "=" => return left = right
  | "!=" => return left ≠ right
  | "<" => return decide (toBytes left < toBytes right)
  | ">" => return decide (toBytes right < toBytes left)
  | "-eq" => compared fun a b => a = b
  | "-ne" => compared fun a b => a ≠ b
  | "-gt" => compared fun a b => a > b
  | "-ge" => compared fun a b => a ≥ b
  | "-lt" => compared fun a b => a < b
  | "-le" => compared fun a b => a ≤ b
  | _ => match setting.node? left, setting.node? right with
    | some (a, _), some (b, _) => return match sign with
      | "-nt" => setting.timeOf a > setting.timeOf b
      | "-ot" => setting.timeOf a < setting.timeOf b
      | _ => a = b
    | _, _ => return false

def complaint {α : Type} (sign : Text) (message : String) : Checking α :=
  throw (if sign.isEmpty then ofString message else sign ++ ofString s!": {message}")

mutual
def either : Nat → Checking Bool
  | 0 => return false
  | fuel + 1 => do
    let first ← both fuel
    if setting.sign? ((← get) + 1) = some .either then
      modify (· + 2)
      return (← either fuel) || first
    else return first

def both : Nat → Checking Bool
  | 0 => return false
  | fuel + 1 => do
    let first ← negated fuel
    if setting.sign? ((← get) + 1) = some .both then
      modify (· + 2)
      return (← both fuel) && first
    else return first

def negated : Nat → Checking Bool
  | 0 => return false
  | fuel + 1 => do
    let here ← get
    if setting.sign? here = some .negation then
      if (setting.word? (here + 1)).isSome then
        modify (· + 1)
        return !(← negated fuel)
      else return true
    else primary fuel

def primary : Nat → Checking Bool
  | 0 => return false
  | fuel + 1 => do
    let here ← get
    match setting.word? here, setting.sign? here with
    | none, _ => return false
    | some _, some .opening =>
      modify (· + 1)
      if setting.sign? (here + 1) = some .closing then return false
      let inner ← either fuel
      modify (· + 1)
      if setting.sign? (← get) = some .closing then return inner
      else complaint [] "closing paren expected"
    | some sign, some .unary =>
      modify (· + 1)
      match setting.word? (here + 1) with
      | some word => setting.holdsOne (String.ofList sign) word
      | none => complaint sign "argument expected"
    | some left, _ =>
      match setting.word? (here + 1), setting.sign? (here + 1) with
      | some sign, some .binary =>
        modify (· + 2)
        match setting.word? (here + 2) with
        | some right => setting.holdsBoth left (String.ofList sign) right
        | none => complaint sign "argument expected"
      | _, _ => return !left.isEmpty
end

def isComparison : Bool :=
  setting.words.size = 3 && ((setting.word? 1).bind kind?) = some .binary

def whole : Checking Bool := do
  let fuel := 8 * (setting.words.size + 2)
  let result ←
    if setting.isComparison then
      modify (· + 2)
      setting.holdsBoth (setting.words.getD 0 []) (String.ofList (setting.words.getD 1 []))
        (setting.words.getD 2 [])
    else setting.either fuel
  let done ← get
  match setting.word? done, setting.word? (done + 1) with
  | some word, some _ => complaint word "unexpected operator"
  | _, _ => return result

end Setting

def check : Nat → Shell → List Text → Except Text Bool
  | 0, _, _ => .ok false
  | fuel + 1, shell, words =>
    let setting : Setting := ⟨shell, words.toArray⟩
    let run (setting : Setting) : Except Text Bool :=
      match setting.whole 0 with
      | .ok result _ => .ok result
      | .error message _ => .error message
    if words.isEmpty then .ok false
    else if setting.isComparison then run setting
    else if words.length = 3 || words.length = 4 then
      if words.head? = some ['('] && words.getLast? = some [')'] then
        run ⟨shell, (words.drop 1).dropLast.toArray⟩
      else if words.head? = some ['!'] then (check fuel shell (words.drop 1)).map (!·)
      else run setting
    else run setting

end InkProject.Script.Condition
