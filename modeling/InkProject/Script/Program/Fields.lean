import InkProject.Script.Program.Streams
set_option autoImplicit false

namespace InkProject.Script.Program

open Shell

structure Span where
  first : Nat
  last : Option Nat
deriving DecidableEq, Repr

def Span.holds (span : Span) (number : Nat) : Bool := span.first ≤ number && span.last.all (number ≤ ·)

inductive CutUnit where
  | chars
  | fields
deriving DecidableEq, Repr

def CutUnit.zero : CutUnit → String
  | .chars => "byte/character positions are numbered from 1"
  | .fields => "fields are numbered from 1"

def CutUnit.invalid : CutUnit → String
  | .chars => "invalid byte/character position "
  | .fields => "invalid field value "

def CutUnit.tooLarge : CutUnit → String × String
  | .chars => ("byte/character offset ", " is too large")
  | .fields => ("field number ", " is too large")

def cutMisused {α : Type} (message : Text) : Running α := misused 1 message

def cutNumber (unit : CutUnit) (text : Text) : Running (Option Nat × Text) := do
  let (value, rest) := digitsFrom 10 0 text
  if rest.length = text.length then return (none, rest)
  if 18446744073709551614 < value then
    let (before, after) := unit.tooLarge
    cutMisused (ofString before ++ cited (text.take (text.length - rest.length)) ++ ofString after)
  return (some value, rest)

def spanOf (unit : CutUnit) (word : Text) : Running Span := do
  let (first, rest) ← cutNumber unit word
  match rest with
  | [] => match first with
    | some 0 | none => cutMisused (ofString unit.zero)
    | some number => return ⟨number, some number⟩
  | '-' :: rest =>
    let (last, rest) ← cutNumber unit rest
    if !rest.isEmpty then cutMisused (ofString unit.invalid ++ cited rest)
    if first = some 0 then cutMisused (ofString unit.zero)
    match first, last with
    | none, none => cutMisused (ofString "invalid range with no endpoint: -")
    | _, some number =>
      if number < first.getD 1 then cutMisused (ofString "invalid decreasing range")
      return ⟨first.getD 1, some number⟩
    | some first, none => return ⟨first, none⟩
  | _ => cutMisused (ofString unit.invalid ++ cited rest)

def partsAt (isBreak : Char → Bool) : Text → Text → List Text
  | read, [] => [read.reverse]
  | read, char :: rest =>
    if isBreak char then read.reverse :: partsAt isBreak [] rest else partsAt isBreak (char :: read) rest

structure Cutting where
  unit : CutUnit
  spans : List Span
  inverted : Bool
  tab : Char
  separator : Option Text
  onlyParted : Bool
  ending : Char

def Cutting.takes (cutting : Cutting) (number : Nat) : Bool :=
  (cutting.spans.any (·.holds number)) != cutting.inverted

def Cutting.charsFrom (cutting : Cutting) : Nat → Bool → Bool → Text → Text
  | _, _, _, [] => []
  | number, wasTaken, isFirst, char :: rest =>
    if cutting.takes number then
      let begins := !wasTaken || (!cutting.inverted && cutting.spans.any (·.first = number) &&
        !(cutting.spans.any fun span => span.first < number && span.holds number))
      let mark := if begins && !isFirst then cutting.separator.getD [] else []
      mark ++ char :: charsFrom cutting (number + 1) true false rest
    else charsFrom cutting (number + 1) false isFirst rest

def Cutting.line (cutting : Cutting) (line : Text) : Option Text :=
  match cutting.unit with
  | .chars => some (cutting.charsFrom 1 false true line)
  | .fields =>
    if !line.contains cutting.tab then (if cutting.onlyParted then none else some line)
    else
      let fields := (partsAt (· = cutting.tab) [] line).zipIdx 1
      let taken := (fields.filter fun (_, number) => cutting.takes number).map Prod.fst
      some (joinedBy (cutting.separator.getD [cutting.tab]) taken)

def throughFiles (names : List Text) (act : Text → Running Unit) : Running Nat := do
  let mut status := 0
  for name in names do
    match ← content name with
    | .ok text => act text
    | .error error =>
      reportError (quotedIfNeeded name) error
      status := 1
  return status

def cut : Program := fun _ words => do
  let arguments ← arguments { letters := "b:c:d:f:nsz", names := [("bytes", 'b', .required),
    ("characters", 'c', .required), ("delimiter", 'd', .required), ("fields", 'f', .required),
    ("only-delimited", 's', .none), ("complement", 'C', .none), ("output-delimiter", 'O', .required),
    ("zero-terminated", 'z', .none)] } words
  let has := arguments.has
  let lists := arguments.options.filter fun (letter, _) => ['b', 'c', 'f'].contains letter
  match arguments.options.find? fun (letter, value) => letter = 'd' && 1 < value.length with
  | some _ => cutMisused (ofString "the delimiter must be a single character")
  | none => pure ()
  match lists with
  | [] => cutMisused (ofString "you must specify a list of bytes, characters, or fields")
  | [(letter, list)] =>
    let unit := if letter = 'f' then CutUnit.fields else .chars
    if unit = .chars && has 'd' then
      cutMisused (ofString "an input delimiter may be specified only when operating on fields")
    if unit = .chars && has 's' then
      cutMisused (ofString "suppressing non-delimited lines makes sense\n\tonly when operating on fields")
    let spans ← (partsAt (fun char => char = ',' || isBlank char) [] list).mapM (spanOf unit)
    let cutting : Cutting := {
      unit := unit, spans := spans, inverted := has 'C'
      tab := match arguments.last? 'd' with
        | some [char] => char
        | some _ => '\x00'
        | none => '\t'
      separator := arguments.last? 'O', onlyParted := has 's', ending := if has 'z' then '\x00' else '\n' }
    throughFiles (orInput arguments.operands) fun text =>
      say ((plainRecords cutting.ending text).flatMap fun line => match cutting.line line with
        | some part => part ++ [cutting.ending]
        | none => [])
  | _ => cutMisused (ofString "only one list may be specified")

end InkProject.Script.Program
