import InkProject.Script.Program.Basic
set_option autoImplicit false

namespace InkProject.Script.Program

open Shell

inductive SetItem where
  | one (letter : Char)
  | span (first last : Char)
  | kind (name : String)
  | repeated (letter : Char) (count : Nat)
deriving DecidableEq, Repr

def allChars : List Char := (List.range 256).map Char.ofNat

def isControl (char : Char) : Bool := char < ' ' || char = '\x7f'

def kinds : List (String × (Char → Bool)) := [("alnum", Char.isAlphanum), ("alpha", Char.isAlpha),
  ("blank", isBlank), ("cntrl", isControl), ("digit", Char.isDigit),
  ("graph", fun char => isShown char && char ≠ ' '), ("lower", Char.isLower), ("print", isShown),
  ("punct", fun char => isShown char && char ≠ ' ' && !char.isAlphanum), ("space", isSpace),
  ("upper", Char.isUpper), ("xdigit", fun char => char.isDigit || ('a' ≤ char && char ≤ 'f') || ('A' ≤ char && char ≤ 'F'))]

def unescapeSet : Nat → Text → List (Char × Bool)
  | 0, _ => []
  | _ + 1, [] => []
  | fuel + 1, '\\' :: rest => match rest with
    | [] => [('\\', true)]
    | char :: after =>
      if isOctal char then
        let digits := (rest.take 3).takeWhile isOctal
        let digits := if 255 < (digitsFrom 8 0 digits).1 then digits.take 2 else digits
        (octal digits, true) :: unescapeSet fuel (rest.drop digits.length)
      else
        let meant := if char = 'e' then none else plainEscapes.lookup char
        (meant.getD char, true) :: unescapeSet fuel after
  | fuel + 1, char :: rest => (char, false) :: unescapeSet fuel rest

def untilBracket (sign : Char) : Text → List (Char × Bool) → Option (Text × List (Char × Bool))
  | _, [] => none
  | read, (char, meant) :: rest =>
    if char = sign && !meant then match rest with
      | (']', false) :: rest => some (read.reverse, rest)
      | _ => untilBracket sign (char :: read) rest
    else untilBracket sign (char :: read) rest

def repeatCount? (rest : List (Char × Bool)) : Option (Nat × List (Char × Bool)) :=
  let digits := (rest.takeWhile fun (char, meant) => char.isDigit && !meant).map Prod.fst
  match rest.drop digits.length with
  | (']', false) :: after =>
    let base := if digits.head? = some '0' then 8 else 10
    some ((digitsFrom base 0 digits).1, after)
  | _ => none

def setFault : Char → Char → Text := fun first last =>
  let shown (char : Char) : Text := if isShown char then [char] else escapedChar char
  ofString "range-endpoints of '" ++ shown first ++ '-' :: shown last ++
    ofString "' are in reverse collating sequence order"

def setItems : Nat → List (Char × Bool) → Except Text (List SetItem)
  | 0, _ => .ok []
  | _ + 1, [] => .ok []
  | fuel + 1, (char, meant) :: rest =>
    let plain : Except Text (List SetItem) := match rest with
      | ('-', false) :: (last, _) :: after =>
        if last < char then .error (setFault char last)
        else do return .span char last :: (← setItems fuel after)
      | _ => do return .one char :: (← setItems fuel rest)
    if char = '[' && !meant then match rest with
      | (':', false) :: inner => match untilBracket ':' [] inner with
        | some (name, after) =>
          if kinds.any fun (other, _) => other.toList = name then do
            return .kind (String.ofList name) :: (← setItems fuel after)
          else .error (ofString "invalid character class " ++ cited name)
        | none => plain
      | ('=', false) :: inner => match untilBracket '=' [] inner with
        | some ([letter], after) => do return .one letter :: (← setItems fuel after)
        | _ => plain
      | (letter, _) :: ('*', false) :: inner => match repeatCount? inner with
        | some (count, after) => do return .repeated letter count :: (← setItems fuel after)
        | none => plain
      | _ => plain
    else plain

def SetItem.chars (fill : Nat) : SetItem → Text
  | .one letter => [letter]
  | .span first last => allChars.filter fun char => first ≤ char && char ≤ last
  | .kind name => match kinds.lookup name with
    | some holds => allChars.filter holds
    | none => []
  | .repeated letter count => List.replicate (if count = 0 then fill else count) letter

def isCase : SetItem → Bool
  | .kind name => name = "lower" || name = "upper"
  | _ => false

def setChars (fill : Nat) (items : List SetItem) : Text := items.flatMap (SetItem.chars fill)

def filled (wanted : Nat) (items : List SetItem) : Text :=
  let known := (setChars 0 items).length
  setChars (wanted - known) items

def caseStarts : Nat → List SetItem → List Nat
  | _, [] => []
  | start, item :: items =>
    (if isCase item then [start] else []) ++ caseStarts (start + (item.chars 0).length) items

def squeezed (set : Text) (text : Text) : Text :=
  (text.foldl (fun kept char => if kept.head? = some char && set.contains char then kept else char :: kept)
    []).reverse

def readSet (word : Text) : Running (List SetItem) := do
  if word.getLast? = some '\\' && ((word.reverse.takeWhile (· = '\\')).length % 2 = 1) then
    reportText "warning: an unescaped backslash at end of string is not portable"
  let chars := unescapeSet (word.length + 1) word
  match setItems (chars.length + 1) chars with
  | .ok items => return items
  | .error fault =>
    report fault
    leaveWith 1

def refuseSet {α : Type} (message : String) : Running α := do
  reportText message
  leaveWith 1

def pairsOf (complement truncate : Bool) (first second : List SetItem) : Running (List (Char × Char)) := do
  let from1 := if complement then
      let named := setChars 0 first
      allChars.filter (!named.contains ·)
    else setChars 0 first
  let isAllowed : SetItem → Bool
    | .kind name => name = "lower" || name = "upper"
    | _ => true
  if !second.all isAllowed then
    refuseSet "when translating, the only character classes that may appear in\nstring2 are 'upper' and 'lower'"
  let starts := caseStarts 0 first
  if !complement && !(caseStarts 0 second).all starts.contains then
    refuseSet "misaligned [:upper:] and/or [:lower:] construct"
  let targets := filled from1.length second
  match targets.getLast? with
  | none => if truncate then return [] else refuseSet "when not truncating set1, string2 must be non-empty"
  | some last =>
    let targets := if truncate then targets else targets ++ List.replicate (from1.length - targets.length) last
    return from1.zip targets

def translated (pairs : List (Char × Char)) (text : Text) : Text :=
  let table := (pairs.foldl (fun (table : Array Char) (old, new) => table.setIfInBounds old.toNat new)
    allChars.toArray)
  text.map fun char => table.getD char.toNat char

def operandFault {α : Type} (message more : Text) : Running α := do
  report message
  if !more.isEmpty then complain (more ++ ['\n'])
  referToHelp
  leaveWith 1

def tr : Program := fun _ words => do
  let arguments ← arguments { letters := "cCdst", inOrder := true, names := [("complement", 'c', .none),
    ("delete", 'd', .none), ("squeeze-repeats", 's', .none), ("truncate-set1", 't', .none)] } words
  let deletes := arguments.has 'd'
  let squeezes := arguments.has 's'
  let complement := arguments.has 'c' || arguments.has 'C'
  let least := if deletes = squeezes then 2 else 1
  let most := if deletes && !squeezes then 1 else 2
  let operands := arguments.operands
  match operands with
  | [] => misused 1 (ofString "missing operand")
  | [only] =>
    if least = 2 then
      operandFault (ofString "missing operand after " ++ cited only)
        (ofString (if squeezes then "Two strings must be given when both deleting and squeezing repeats."
          else "Two strings must be given when translating."))
  | _ => match operands[most]? with
    | some extra =>
      operandFault (ofString "extra operand " ++ cited extra)
        (ofString (if most = 1 && operands.length = 2 then
          "Only one string may be given when deleting without squeezing repeats." else ""))
    | none => pure ()
  let first ← readSet (operands.headD [])
  let second ← match operands[1]? with
    | some word => some <$> readSet word
    | none => pure none
  let members (items : List SetItem) (complement : Bool) : Char → Bool :=
    let named := setChars 0 items
    let table := (allChars.map fun char => named.contains char != complement).toArray
    fun char => table.getD char.toNat false
  let change ← match second with
    | none =>
      let inFirst := members first complement
      if deletes then pure fun (text : Text) => text.filter (!inFirst ·)
      else pure fun (text : Text) => squeezed (allChars.filter inFirst) text
    | some second =>
      if deletes then
        let inFirst := members first complement
        pure fun (text : Text) => squeezed (setChars 0 second) (text.filter (!inFirst ·))
      else
        let pairs ← pairsOf complement (arguments.has 't') first second
        let squeezedSet := if squeezes then pairs.map Prod.snd else []
        pure fun (text : Text) =>
          let changed := translated pairs text
          if squeezes then squeezed squeezedSet changed else changed
  match ← takeAll 0 with
  | .ok text =>
    say (change text)
    return 0
  | .error error =>
    reportError (ofString "read error") error
    return 1

end InkProject.Script.Program
