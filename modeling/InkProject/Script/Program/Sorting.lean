import InkProject.Script.Program.Streams
set_option autoImplicit false

namespace InkProject.Script.Program

open Shell

structure KeyRule where
  numeric : Bool := false
  reversed : Bool := false
  fold : Bool := false
  dictionary : Bool := false
  shownOnly : Bool := false
  skipStart : Bool := false
  skipEnd : Bool := false
deriving DecidableEq, Repr

structure Key where
  startField : Nat := 0
  startChar : Nat := 0
  lastField : Option Nat := none
  lastChar : Nat := 0
  rule : KeyRule := {}

structure Sorting where
  keys : List Key := []
  rule : KeyRule := {}
  tab : Option Char := none
  unique : Bool := false
  stable : Bool := false
  ending : Char := '\n'

def isFieldBlank (char : Char) : Bool := isBlank char || char = '\n'

def orderOf {α : Type} (lt : α → α → Bool) (a b : α) : Ordering :=
  if lt a b then .lt else if lt b a then .gt else .eq

def textOrder (a b : Text) : Ordering := orderOf (fun a b => decide (a < b)) a b

structure Decimal where
  value : Int
  places : Nat

def Decimal.order (a b : Decimal) : Ordering :=
  orderOf (fun a b => decide (a < b)) (a.value * Int.ofNat (Nat.pow 10 b.places))
    (b.value * Int.ofNat (Nat.pow 10 a.places))

def leadingDecimal (text : Text) : Decimal :=
  let trimmed := text.dropWhile isFieldBlank
  let negative := trimmed.head? = some '-'
  let digits := if negative then trimmed.drop 1 else trimmed
  let whole := digits.takeWhile Char.isDigit
  let rest := digits.drop whole.length
  let fraction := if rest.head? = some '.' then (rest.drop 1).takeWhile Char.isDigit else []
  let value := Int.ofNat (digitsFrom 10 0 (whole ++ fraction)).1
  ⟨if negative then -value else value, fraction.length⟩

namespace KeyRule

def prepared (rule : KeyRule) (text : Text) : Text :=
  let kept := if rule.dictionary then text.filter fun char => isFieldBlank char || char.isAlphanum
    else if rule.shownOnly then text.filter isShown else text
  if rule.fold then kept.map Char.toUpper else kept

def order (rule : KeyRule) (a b : Text) : Ordering :=
  let order := if rule.numeric then (leadingDecimal a).order (leadingDecimal b)
    else textOrder (rule.prepared a) (rule.prepared b)
  if rule.reversed then order.swap else order

def isPlain (rule : KeyRule) : Bool := { rule with reversed := false, skipStart := false, skipEnd := false } = {}

end KeyRule

def fieldStart (tab : Option Char) : Nat → Text → Nat
  | 0, _ => 0
  | fields + 1, text =>
    let size := match tab with
      | some tab => (text.takeWhile (· ≠ tab)).length + 1
      | none =>
        let blanks := text.takeWhile isFieldBlank
        blanks.length + ((text.drop blanks.length).takeWhile fun char => !isFieldBlank char).length
    if text.isEmpty then 0 else size + fieldStart tab fields (text.drop size)

def blanksAt (text : Text) (place : Nat) : Nat := ((text.drop place).takeWhile isFieldBlank).length

def Key.start (tab : Option Char) (key : Key) (line : Text) : Nat :=
  let place := min line.length (fieldStart tab key.startField line)
  let place := if key.rule.skipStart then place + blanksAt line place else place
  min line.length (place + key.startChar)

def Key.last (tab : Option Char) (key : Key) (line : Text) : Nat :=
  match key.lastField with
  | none => line.length
  | some field =>
    if key.lastChar = 0 then
      let place := fieldStart tab field line
      let rest := line.drop place
      match tab with
      | some tab => min line.length (place + (rest.takeWhile (· ≠ tab)).length)
      | none => min line.length (fieldStart none (field + 1) line)
    else
      let place := min line.length (fieldStart tab field line)
      let place := if key.rule.skipEnd then place + blanksAt line place else place
      min line.length (place + key.lastChar)

def Key.of (tab : Option Char) (key : Key) (line : Text) : Text :=
  let start := key.start tab line
  (line.take (max start (key.last tab line))).drop start

namespace Sorting

def keyOrder (sorting : Sorting) (a b : Text) : Ordering :=
  sorting.keys.foldl (fun order key =>
    order.then (key.rule.order (key.of sorting.tab a) (key.of sorting.tab b))) .eq

def order (sorting : Sorting) (a b : Text) : Ordering :=
  let order := sorting.keyOrder a b
  if order ≠ .eq then order
  else if !sorting.keys.isEmpty && (sorting.unique || sorting.stable) then .eq
  else
    let order := textOrder a b
    if sorting.rule.reversed then order.swap else order

def before (sorting : Sorting) (a b : Text) : Bool := sorting.order a b ≠ .gt

def withoutRepeats (sorting : Sorting) : List Text → List Text
  | first :: second :: rest =>
    if sorting.order first second = .eq then withoutRepeats sorting (first :: rest)
    else first :: withoutRepeats sorting (second :: rest)
  | lines => lines
termination_by lines => lines.length

end Sorting

def sortMisused {α : Type} (message : Text) : Running α := do
  report message
  leaveWith 2

def ruleLetters : List Char := ['b', 'd', 'f', 'i', 'n', 'r']

def KeyRule.with (rule : KeyRule) (atStart atEnd : Bool) (letter : Char) : KeyRule :=
  match letter with
  | 'b' => { rule with skipStart := rule.skipStart || atStart, skipEnd := rule.skipEnd || atEnd }
  | 'd' => { rule with dictionary := true }
  | 'f' => { rule with fold := true }
  | 'i' => { rule with shownOnly := rule.shownOnly || !rule.dictionary }
  | 'n' => { rule with numeric := true }
  | 'r' => { rule with reversed := true }
  | _ => rule

def badField {α : Type} (word : Text) (message : String) : Running α :=
  sortMisused (ofString (message ++ ": invalid field specification ") ++ cited word)

def fieldCount (text : Text) (message : String) : Running (Nat × Text) := do
  let (value, rest) := digitsFrom 10 0 text
  if rest.length = text.length then
    sortMisused (ofString (message ++ ": invalid count at start of ") ++ cited text)
  return (value, rest)

def keyOf (word : Text) : Running Key := do
  let (field, rest) ← fieldCount word "invalid number at field start"
  if field = 0 then badField word "field number is zero"
  let (char, rest) ← match rest with
    | '.' :: rest => do
      let (char, rest) ← fieldCount rest "invalid number after '.'"
      if char = 0 then badField word "character offset is zero"
      pure (char - 1, rest)
    | _ => pure (0, rest)
  let letters := rest.takeWhile ruleLetters.contains
  let rule := letters.foldl (·.with true false ·) {}
  match rest.drop letters.length with
  | [] => return { startField := field - 1, startChar := char, rule := rule }
  | ',' :: rest =>
    let (last, rest) ← fieldCount rest "invalid number after ','"
    if last = 0 then badField word "field number is zero"
    let (lastChar, rest) ← match rest with
      | '.' :: rest => fieldCount rest "invalid number after '.'"
      | _ => pure (0, rest)
    let letters := rest.takeWhile ruleLetters.contains
    if rest.length ≠ letters.length then badField word "stray character in field spec"
    return { startField := field - 1, startChar := char, lastField := some (last - 1), lastChar := lastChar
             rule := letters.foldl (·.with false true ·) rule }
  | _ => badField word "stray character in field spec"

def tabOf (words : List Text) : Running (Option Char) := do
  let mut tab := none
  for word in words do
    let next ← match word with
      | [] => sortMisused (ofString "empty tab")
      | ['\\', '0'] => pure '\x00'
      | [char] => pure char
      | _ => sortMisused (ofString "multi-character tab " ++ cited word)
    if tab.any (· ≠ next) then sortMisused (ofString "incompatible tabs")
    tab := some next
  return tab

def sortGrammar : Grammar := {
  letters := "bcCdfik:mno:rst:uz", status := 2
  names := [("ignore-leading-blanks", 'b', .none), ("dictionary-order", 'd', .none), ("ignore-case", 'f', .none),
    ("ignore-nonprinting", 'i', .none), ("key", 'k', .required), ("merge", 'm', .none), ("numeric-sort", 'n', .none),
    ("output", 'o', .required), ("reverse", 'r', .none), ("stable", 's', .none), ("field-separator", 't', .required),
    ("unique", 'u', .none), ("zero-terminated", 'z', .none), ("check", 'c', .optional)] }

def disorderFrom (sorting : Sorting) : Nat → List Text → Option (Nat × Text)
  | line, first :: second :: rest =>
    let order := sorting.order first second
    if order = .gt || (sorting.unique && order = .eq) then some (line + 1, second)
    else disorderFrom sorting (line + 1) (second :: rest)
  | _, _ => none

def readSorted (name : Text) : Running Text := do
  match ← content name with
  | .ok text => return text
  | .error .isDirectory => sortMisused (ofString "read failed: " ++ quotedIfNeeded name ++ ofString ": Is a directory")
  | .error error => sortMisused (ofString "cannot read: " ++ quotedIfNeeded name ++ ofString (": " ++ reason error))

def checkOrder (sorting : Sorting) (silent : Bool) (names : List Text) : Running Nat := do
  match names.drop 1 with
  | extra :: _ => sortMisused (ofString "extra operand " ++ cited extra ++ ofString " not allowed with -c")
  | [] => pure ()
  let name := names.headD ['-']
  match disorderFrom sorting 1 (plainRecords sorting.ending (← readSorted name)) with
  | none => return 0
  | some (line, text) =>
    if !silent then report (quotedIfNeeded name ++ ofString s!":{line}: disorder: " ++ text)
    return 1

def writeTo (name : Option Text) (text : Text) : Running Nat := do
  match name with
  | none =>
    say text
    return 0
  | some name => match ← openFile .write name with
    | .ok channel =>
      let _ ← onStream 9 channel (put 9 text)
      return 0
    | .error error => sortMisused (ofString "open failed: " ++ quotedIfNeeded name ++ ofString (": " ++ reason error))

def sort : Program := fun _ words => do
  let arguments ← arguments sortGrammar words
  let has := arguments.has
  let given := ruleLetters.filter arguments.has
  let rule := given.foldl (·.with true true ·) {}
  let keys ← (arguments.options.filter (·.1 = 'k')).mapM fun (_, word) => keyOf word
  let tab ← tabOf ((arguments.options.filter (·.1 = 't')).map Prod.snd)
  if rule.numeric && (rule.dictionary || rule.shownOnly) then
    sortMisused (ofString "options '-" ++ given.filter ['d', 'f', 'i', 'n'].contains ++ ofString "' are incompatible")
  let inherits (key : Key) : Bool := key.rule = {}
  let keys := keys.map fun key => if inherits key then { key with rule := rule } else key
  let keys := if keys.isEmpty && !(rule.isPlain && !rule.skipStart) then [{ rule := rule }] else keys
  let sorting : Sorting := {
    keys := keys, rule := rule, tab := tab, unique := has 'u', stable := has 's'
    ending := if has 'z' then '\x00' else '\n' }
  let names := orInput arguments.operands
  if has 'c' || has 'C' then
    if has 'o' then sortMisused (ofString "options '-co' are incompatible")
    let silent := has 'C' || (arguments.last? 'c').any fun value =>
      value = ofString "quiet" || value = ofString "silent"
    checkOrder sorting silent names
  else
    let texts ← names.mapM readSorted
    let files := texts.map (plainRecords sorting.ending)
    let sorted := if has 'm' then files.foldl (List.merge · · sorting.before) []
      else files.flatten.mergeSort sorting.before
    let sorted := if sorting.unique then sorting.withoutRepeats sorted else sorted
    writeTo (arguments.last? 'o') (sorted.flatMap fun line => line ++ [sorting.ending])

end InkProject.Script.Program
