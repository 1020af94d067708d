import InkProject.Script.Source
set_option autoImplicit false

namespace InkProject.Script

inductive Ending where
  | word
  | mark
  | brace
  | quote
  | quotedBrace (inDocument : Bool)
  | document
  | sum
deriving DecidableEq, Repr

def Ending.isDouble : Ending → Bool
  | .word | .mark | .brace => false
  | _ => true

def endsWord (char : Char) : Bool :=
  isBlank char || ['\n', ';', '&', '|', '<', '>', '(', ')'].contains char

def specialNames : List Char := ['@', '*', '#', '?', '$', '!', '-']
def isSpecialName (char : Char) : Bool := char.isDigit || specialNames.contains char

def addChar (char : Char) (quoted : Bool) : Word → Word
  | .literal text was :: rest =>
    if was = quoted then .literal (char :: text) was :: rest
    else .literal [char] quoted :: .literal text was :: rest
  | pieces => .literal [char] quoted :: pieces

def addText (text : Text) (quoted : Bool) (pieces : Word) : Word :=
  text.foldl (fun pieces char => addChar char quoted pieces) pieces

def addMark : Word → Word
  | .literal text true :: rest => .literal text true :: rest
  | pieces => .literal [] true :: pieces

def gathered (pieces : Word) : Word :=
  (pieces.map fun
    | .literal text quoted => Piece.literal text.reverse quoted
    | piece => piece).reverse

inductive Progress where
  | more
  | over
deriving DecidableEq, Repr

namespace Source

def unterminated {α : Type} : Ending → Reading α
  | .sum => fail "Missing '))'"
  | .brace | .quotedBrace true => fail "Missing '\x7d'"
  | _ => fail "Unterminated quoted string"

def singleFrom : Nat → Word → Reading Word
  | 0, _ => unterminated .quote
  | fuel + 1, pieces => do
    match ← take with
    | none => unterminated .quote
    | some '\'' => return pieces
    | some char => singleFrom fuel (addChar char true pieces)

def escapedDouble (ending : Ending) (char : Char) : Text :=
  let isMeant : Bool := match char with
    | '\\' | '\x60' | '$' => true
    | '"' => ending != .document
    | '}' => match ending with
      | .quotedBrace _ => true
      | _ => false
    | _ => false
  if isMeant then [char] else ['\\', char]

def backQuotedFrom (quoted : Bool) : Nat → Text → Reading Text
  | 0, _ => fail "EOF in backquote substitution"
  | fuel + 1, read => do
    match ← next with
    | none => fail "EOF in backquote substitution"
    | some '\x60' => return read.reverse
    | some '\\' =>
      match ← take with
      | none => fail "EOF in backquote substitution"
      | some char =>
        let isMeant : Bool := ['\\', '\x60', '$'].contains char || (quoted && char = '"')
        backQuotedFrom quoted fuel (if isMeant then char :: read else char :: '\\' :: read)
    | some char => backQuotedFrom quoted fuel (char :: read)

def readingFrom {α : Type} (text : Text) (line : Nat) (read : Reading α) : Reading α := do
  let before ← get
  set { before with rest := text, line := line, awaited := [], kept := none }
  let result ← read
  modify fun after => { before with documents := after.documents }
  return result

def backQuoted (inner : Bool → Reading Command) (quoted : Bool) (fuel : Nat) : Reading Piece := do
  let text ← backQuotedFrom quoted fuel []
  return .output (← readingFrom text 1 (inner false)) quoted

def change : Reading (Option Change) := do
  let nullToo ← accept ':'
  match ← next with
  | some '}' => return none
  | some '-' => return some (.default nullToo)
  | some '+' => return some (.other nullToo)
  | some '?' => return some (.demand nullToo)
  | some '=' => return some (.assign nullToo)
  | some '%' => if nullToo then return some .unknown else return some (.cutEnd (← accept '%'))
  | some '#' => if nullToo then return some .unknown else return some (.cutStart (← accept '#'))
  | _ => return some .unknown

def isPlainNameStart (char : Option Char) : Bool :=
  match char with
  | some char => startsName char || char.isDigit
  | none => false

def plainName : Reading Text := do
  match ← peek with
  | some char => if char.isDigit then takeAll Char.isDigit else takeAll isNameChar
  | none => return []

def bracedName : Reading (Text × Option Change) := do
  if isPlainNameStart (← peek) then return (← plainName, ← change)
  match ← peek with
  | some '#' =>
    let _ ← take
    if isPlainNameStart (← peek) then
      let name ← plainName
      let closes := (← peek) = some '}'
      return (name, if closes then some .length else some .unknown)
    else
      let before ← get
      match ← next, ← peek with
      | some char, some '}' =>
        if char = '}' then
          set before
          return (['#'], ← change)
        else return ([char], if isSpecialName char then some .length else some .unknown)
      | _, _ =>
        set before
        return (['#'], ← change)
  | some '}' => return ([], some .unknown)
  | some char =>
    let _ ← take
    if isSpecialName char then return ([char], ← change) else return ([], some .unknown)
  | none => return ([], some .unknown)

def wordEnding (ending : Ending) : Option Change → Ending
  | some (.cutStart _) | some (.cutEnd _) => .brace
  | _ => match ending with
    | .word | .mark | .brace => .brace
    | .document | .quotedBrace true => .quotedBrace true
    | _ => .quotedBrace false

mutual
def pieces (inner : Bool → Reading Command) (ending : Ending) : Nat → Nat → Bool → Word → Reading Word
  | 0, _, _, _ => fail "Unterminated quoted string"
  | fuel + 1, depth, inQuote, read => do
    let onward (read : Word) : Reading Word := pieces inner ending fuel depth inQuote read
    match ← peek with
    | none => match ending with
      | .word | .mark | .document => return gathered read
      | _ => unterminated ending
    | some char =>
      if (ending = .word || ending = .mark) && endsWord char then return gathered read
      let _ ← take
      match char with
      | '\\' => match ← take with
        | none => onward (addChar '\\' true read)
        | some char =>
          onward (addText (if ending.isDouble then escapedDouble ending char else [char]) true read)
      | '$' =>
        if ending = .mark then onward (addChar '$' false read)
        else onward (← dollar inner ending fuel read)
      | '\x60' =>
        if ending = .mark then onward (addChar '\x60' true read)
        else onward ((← backQuoted inner ending.isDouble fuel) :: read)
      | '"' => match ending with
        | .quote => return gathered read
        | .quotedBrace _ => pieces inner ending fuel depth (!inQuote) (addMark read)
        | .document | .sum => onward (addChar '"' true read)
        | _ =>
          let quoted ← pieces inner .quote fuel 0 false []
          onward (quoted.reverse.map (fun
            | .literal text quoted => .literal text.reverse quoted
            | piece => piece) ++ addMark read)
      | '\'' =>
        if ending.isDouble then onward (addChar '\'' true read)
        else onward (← singleFrom fuel (addMark read))
      | '}' => match ending with
        | .brace => return gathered read
        | .quotedBrace _ => if inQuote then onward (addChar '}' true read) else return gathered read
        | _ => onward (addChar '}' ending.isDouble read)
      | '(' =>
        if ending = .sum then pieces inner ending fuel (depth + 1) inQuote (addChar '(' true read)
        else onward (addChar '(' ending.isDouble read)
      | ')' =>
        if ending = .sum then
          if depth = 0 then
            if ← accept ')' then return gathered read else onward (addChar ')' true read)
          else pieces inner ending fuel (depth - 1) inQuote (addChar ')' true read)
        else onward (addChar ')' ending.isDouble read)
      | char => onward (addChar char ending.isDouble read)

def dollar (inner : Bool → Reading Command) (ending : Ending) : Nat → Word → Reading Word
  | 0, _ => fail "Unterminated quoted string"
  | fuel + 1, read => do
    let quoted := ending.isDouble
    match ← peek with
    | some '(' =>
      let _ ← take
      if ← accept '(' then
        return .arithmetic (← pieces inner .sum fuel 0 false []) quoted :: read
      else return .output (← inner true) quoted :: read
    | some '{' =>
      let _ ← take
      let (name, change) ← bracedName
      match change with
      | none => return .parameter name quoted :: read
      | some asked =>
        let word ← pieces inner (wordEnding ending change) fuel 0 false []
        return .altered name asked word quoted :: read
    | some char =>
      if startsName char then return .parameter (← takeAll isNameChar) quoted :: read
      else if isSpecialName char then
        let _ ← take
        return .parameter [char] quoted :: read
      else return addChar '$' quoted read
    | none => return addChar '$' quoted read
end

end Source

end InkProject.Script
