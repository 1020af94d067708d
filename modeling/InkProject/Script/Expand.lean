import InkProject.Script.Arithmetic
import InkProject.Script.Glob
import InkProject.Script.Shell
import InkProject.Script.Split
set_option autoImplicit false

namespace InkProject.Script

abbrev Capture := Command → Running Text

namespace Expand

open Shell

def dropMarks : Word → Word
  | .literal [] true :: .parameter ['@'] true :: rest =>
    let isOver := match rest with
      | [] | .literal _ _ :: _ => true
      | .parameter _ quoted :: _ | .altered _ _ _ quoted :: _ | .arithmetic _ quoted :: _
        | .output _ quoted :: _ => !quoted
    if isOver then .parameter ['@'] true :: dropMarks rest
    else .literal [] true :: .parameter ['@'] true :: dropMarks rest
  | piece :: rest => piece :: dropMarks rest
  | [] => []

def homeOf (shell : Shell) (user : Text) : Option Text :=
  if user = [] then shell.valueOf (ofString "HOME")
  else if user = ofString "root" then some (ofString "/root")
  else none

def homePieces (shell : Shell) (isLast : Bool) (text : Text) : Word :=
  match text with
  | '~' :: rest =>
    let user := rest.takeWhile (· ≠ '/')
    let after := rest.drop user.length
    match if after.isEmpty && !isLast then none else homeOf shell user with
    | some home => .literal home true :: if after = [] then [] else [.literal after false]
    | none => [.literal text false]
  | [] => []
  | _ => [.literal text false]

def colonPieces (shell : Shell) (isLast : Bool) : List Text → Word
  | [] => []
  | [text] => homePieces shell isLast text
  | text :: rest => homePieces shell true text ++ .literal [':'] false :: colonPieces shell isLast rest

def splitAtColons (text : Text) : List Text :=
  text.foldr (fun char parts => if char = ':' then [] :: parts else match parts with
    | part :: parts => (char :: part) :: parts
    | [] => [[char]]) [[]]

def withHome (shell : Shell) (isValue : Bool) : Bool → Word → Word
  | _, [] => []
  | starts, .literal text false :: rest =>
    let isLast := rest.isEmpty
    let parts := if isValue then splitAtColons text else [text]
    let read := match starts, parts with
      | true, parts => colonPieces shell isLast parts
      | false, first :: (second :: others) =>
        .literal first false :: .literal [':'] false :: colonPieces shell isLast (second :: others)
      | false, _ => [.literal text false]
    read ++ if isValue then withHome shell isValue (text.getLast? = some ':') rest else rest
  | _, piece :: rest => piece :: if isValue then withHome shell isValue false rest else rest

def hasTilde (word : Word) : Bool :=
  word.any fun
    | .literal text false => text.contains '~'
    | _ => false

def atHome (isValue : Bool) (word : Word) : Running Word := do
  if hasTilde word then return withHome (← get) isValue true word else return word

def isAll (name : Text) : Bool := name = ['@'] || name = ['*']

def value? (shell : Shell) (name : Text) : Option Text :=
  if isAll name then some (joinedBy shell.separator shell.arguments) else shell.parameter? name

def notSet {α : Type} (name : Text) : Running α := fail (name ++ ofString ": parameter not set")

def asParts (quoted : Bool) (text : Text) : List Part :=
  if quoted then [.plain text true] else [.cut text]

def parameterParts (fields : Bool) (name : Text) (quoted : Bool) : Running (List Part) := do
  let shell ← get
  if fields && isAll name && !(quoted && name = ['*']) then
    return if shell.arguments.isEmpty then [] else [.arguments shell.arguments quoted]
  match value? shell name with
  | some text => return asParts quoted text
  | none => if ← hasOption 'u' then notSet name else return []

def arithmeticText (expression : Text) : Running Text := do
  let shell ← get
  let value (name : Text) : Except Text Int :=
    let text := (shell.valueOf name).getD []
    match integer? true text with
    | some value => .ok value
    | none => .error text
  let (result, assigned) := Arithmetic.evaluate value expression
  for (name, value) in assigned do assign name (signedDecimal value)
  match result with
  | .ok value => return signedDecimal value
  | .error (.illegal text) => failNumber text
  | .error (.message text) =>
    fail (ofString s!"arithmetic expression: {text}: \"" ++ expression ++ ['"'])

mutual
def parts (capture : Capture) (fields inWord : Bool) : Nat → Word → Running (List Part)
  | 0, _ => return []
  | fuel + 1, word => do
    let mut read := []
    for piece in word do
      let next ← pieceParts capture fields inWord fuel piece
      read := next.reverse ++ read
    return read.reverse

def pieceParts (capture : Capture) (fields inWord : Bool) : Nat → Piece → Running (List Part)
  | 0, _ => return []
  | fuel + 1, piece => do
    match piece with
    | .literal text quoted => return if quoted || !inWord then [.plain text quoted] else [.cut text]
    | .parameter name quoted => parameterParts fields name quoted
    | .output script quoted => return asParts quoted (← capture script)
    | .arithmetic expression quoted =>
      let text ← text capture fuel expression
      return asParts quoted (← arithmeticText text)
    | .altered name change word quoted => alteredParts capture fields fuel name change word quoted

def alteredParts (capture : Capture) (fields : Bool) : Nat → Text → Change → Word → Bool →
    Running (List Part)
  | 0, _, _, _, _ => return []
  | fuel + 1, name, change, word, quoted => do
    let shell ← get
    let value := value? shell name
    let given (nullToo : Bool) : Bool := value.isSome && !(nullToo && value = some [])
    let inner : Running (List Part) := do
      parts capture fields (!quoted) fuel (← if quoted then pure word else atHome false word)
    let known : Running Text := do
      match value with
      | some text => return text
      | none => if ← hasOption 'u' then notSet name else return []
    match change with
    | .length => return asParts quoted (decimal (← known).length)
    | .default nullToo =>
      if given nullToo then parameterParts fields name quoted else inner
    | .other nullToo => if given nullToo then inner else return []
    | .assign nullToo =>
      if !given nullToo then
        assign name (← text capture fuel (← if quoted then pure word else atHome false word))
      parameterParts fields name quoted
    | .demand nullToo =>
      if given nullToo then parameterParts fields name quoted
      else
        let message ← text capture fuel word
        if word.isEmpty then
          fail (name ++ ofString (if nullToo then ": parameter not set or null" else ": parameter not set"))
        else fail (name ++ ofString ": " ++ message)
    | .cutStart long =>
      let text ← known
      return asParts quoted (withoutStart long (← patternMarks capture fuel word) text)
    | .cutEnd long =>
      let text ← known
      return asParts quoted (withoutEnd long (← patternMarks capture fuel word) text)
    | .unknown => failWith "Bad substitution"

def text (capture : Capture) : Nat → Word → Running Text
  | 0, _ => return []
  | fuel + 1, word => do
    let read ← parts capture false false fuel word
    return fieldText (whole (← get).separator read)

def patternMarks (capture : Capture) : Nat → Word → Running (List Mark)
  | 0, _ => return []
  | fuel + 1, word => do
    let read ← parts capture false false fuel (← atHome false word)
    return marks (fieldPattern (whole (← get).separator read))
end

def depth : Nat := 4096

def found (field : Field) : Running (List Text) := do
  let shell ← get
  let isPattern := field.any fun (text, quoted) => !quoted && hasMarks text
  if isPattern && !shell.options.contains 'f' then
    match Glob.paths shell.machine.disk (fieldPattern field) with
    | [] => return [fieldText field]
    | paths => return paths
  else return [fieldText field]

def toFields (capture : Capture) (word : Word) : Running (List Text) := do
  let read ← parts capture true false depth (dropMarks (← atHome false word))
  let mut all := []
  for field in splitFields (← get).splitters read do
    all := (← found field).reverse ++ all
  return all.reverse

def allToFields (capture : Capture) (words : List Word) : Running (List Text) := do
  let mut all := []
  for word in words do all := (← toFields capture word).reverse ++ all
  return all.reverse

def toText (capture : Capture) (word : Word) : Running Text := do
  text capture depth (← atHome false word)

def toValue (capture : Capture) (word : Word) : Running Text := do
  text capture depth (← atHome true word)

def toMarks (capture : Capture) (word : Word) : Running (List Mark) := patternMarks capture depth word

def toDocument (capture : Capture) (word : Word) : Running Text := text capture depth word

end Expand

end InkProject.Script
