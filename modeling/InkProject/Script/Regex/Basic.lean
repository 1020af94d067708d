import InkProject.Script.Pattern
set_option autoImplicit false

namespace InkProject.Script

inductive Edge where
  | lineStart
  | lineEnd
  | textStart
  | textEnd
  | wordStart
  | wordEnd
  | wordEdge
  | noWordEdge
deriving DecidableEq, Repr

inductive Regex where
  | nothing
  | letter (char : Char)
  | any
  | among (wanted : Bool) (members : List Member)
  | place (edge : Edge)
  | group (number : Nat) (inner : Regex)
  | again (number : Nat)
  | both (first second : Regex)
  | either (first second : Regex)
  | repeated (least : Nat) (most : Option Nat) (inner : Regex)
deriving Repr

namespace Regex

structure Spot where
  index : Nat := 0
  before : Option Char := none
  rest : Text
  groups : List (Nat × Text) := []
deriving DecidableEq, Repr

structure Setting where
  foldCase : Bool := false
  manyLines : Bool := false
  exact : Bool := false

def isWordChar (char : Char) : Bool := char.isAlphanum || char = '_'

namespace Spot

def next? (spot : Spot) : Option (Char × Spot) :=
  match spot.rest with
  | [] => none
  | char :: rest => some (char, { spot with index := spot.index + 1, before := some char, rest := rest })

def isAfterWord (spot : Spot) : Bool := spot.before.any isWordChar
def isBeforeWord (spot : Spot) : Bool := (spot.rest.head?).any isWordChar

def isAt (setting : Setting) (spot : Spot) : Edge → Bool
  | .lineStart => spot.before.isNone || (setting.manyLines && spot.before = some '\n')
  | .lineEnd => spot.rest.isEmpty || (setting.manyLines && spot.rest.head? = some '\n')
  | .textStart => spot.before.isNone
  | .textEnd => spot.rest.isEmpty
  | .wordStart => !spot.isAfterWord && spot.isBeforeWord
  | .wordEnd => spot.isAfterWord && !spot.isBeforeWord
  | .wordEdge => spot.isAfterWord != spot.isBeforeWord
  | .noWordEdge => spot.isAfterWord == spot.isBeforeWord

def isSame (setting : Setting) (a b : Spot) : Bool :=
  a.index = b.index && (!setting.exact || a.groups = b.groups)

end Spot

def equal (setting : Setting) (a b : Char) : Bool :=
  if setting.foldCase then a.toLower = b.toLower else a = b

def toggled (char : Char) : Char := if char.isUpper then char.toLower else char.toUpper

def single? (setting : Setting) : Regex → Option (Char → Bool)
  | .letter wanted => some (equal setting wanted)
  | .any => some fun _ => true
  | .among wanted members => some fun char =>
    (members.any (·.holds char) || (setting.foldCase && members.any (·.holds (toggled char)))) = wanted
  | _ => none

def walkFrom (holds : Char → Bool) (least : Nat) : Nat → Nat → Spot → List Spot → List Spot
  | 0, done, spot, found => if least ≤ done then spot :: found else found
  | left + 1, done, spot, found =>
    let found := if least ≤ done then spot :: found else found
    match spot.next? with
    | some (char, next) => if holds char then walkFrom holds least left (done + 1) next found else found
    | none => found

def distinct (setting : Setting) (spots : List Spot) : List Spot :=
  (spots.foldl (fun kept spot => if kept.any (spot.isSame setting) then kept else spot :: kept) []).reverse

def ranked (spots : List Spot) : List Spot := spots.mergeSort fun a b => b.index ≤ a.index

def roundsFrom (setting : Setting) (step : Spot → List Spot) (least : Nat) :
    Nat → Nat → List Spot → List Spot → List Spot
  | 0, done, front, found => if least ≤ done then found ++ front else found
  | left + 1, done, front, found =>
    let found := if least ≤ done then found ++ front else found
    let next := distinct setting (front.flatMap step)
    let next := if least ≤ done then next.filter fun spot => !found.any (spot.isSame setting) else next
    if next.isEmpty then found else roundsFrom setting step least left (done + 1) next found

def startsWith (setting : Setting) : Text → Spot → Option Spot
  | [], spot => some spot
  | wanted :: text, spot => match spot.next? with
    | some (char, next) => if equal setting wanted char then startsWith setting text next else none
    | none => none

def ends (setting : Setting) : Regex → Spot → List Spot
  | .nothing, spot => [spot]
  | .place edge, spot => if spot.isAt setting edge then [spot] else []
  | .group number inner, spot => (ranked (ends setting inner spot)).map fun last =>
    let text := spot.rest.take (last.index - spot.index)
    { last with groups := (number, text) :: last.groups.filter fun (other, _) => other ≠ number }
  | .again number, spot => match spot.groups.lookup number with
    | some text => (startsWith setting text spot).toList
    | none => []
  | .both first second, spot => distinct setting ((ends setting first spot).flatMap (ends setting second))
  | .either first second, spot => distinct setting (ranked (ends setting first spot ++ ends setting second spot))
  | .repeated least most inner, spot => match single? setting inner with
    | some holds => walkFrom holds least (most.getD spot.rest.length) 0 spot []
    | none =>
      let left := most.getD (least + spot.rest.length + 1)
      ranked (roundsFrom setting (ends setting inner) least left 0 [spot] [])
  | regex, spot => match single? setting regex, spot.next? with
    | some holds, some (char, next) => if holds char then [next] else []
    | _, _ => []

def farthest (spots : List Spot) : Option Spot :=
  spots.foldl (fun best spot => match best with
    | some other => if other.index < spot.index then some spot else best
    | none => some spot) none

def findFrom (setting : Setting) (regex : Regex) (isWanted : Spot → Spot → Bool) :
    Nat → Spot → Option (Spot × Spot)
  | 0, _ => none
  | left + 1, spot =>
    match farthest ((ends setting regex spot).filter (isWanted spot)) with
    | some last => some (spot, last)
    | none => match spot.next? with
      | some (_, next) => findFrom setting regex isWanted left next
      | none => none

def find? (setting : Setting) (regex : Regex) (isWanted : Spot → Spot → Bool) (spot : Spot) : Option (Spot × Spot) :=
  findFrom setting regex isWanted (spot.rest.length + 1) spot

def ofText : Text → Regex
  | [] => .nothing
  | [char] => .letter char
  | char :: rest => .both (.letter char) (ofText rest)

def eitherOf : List Regex → Regex
  | [] => .nothing
  | [regex] => regex
  | regex :: others => .either regex (eitherOf others)

def refersBack : Regex → Bool
  | .again _ => true
  | .group _ inner | .repeated _ _ inner => refersBack inner
  | .both first second | .either first second => refersBack first || refersBack second
  | _ => false

end Regex

end InkProject.Script
