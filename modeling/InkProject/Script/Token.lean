import InkProject.Script.Word
set_option autoImplicit false

namespace InkProject.Script

def textOf (name : String) : Text := name.toList

def keywords : List Text := ["!", "case", "do", "done", "elif", "else", "esac", "fi", "for",
  "if", "in", "then", "until", "while", "\x7b", "\x7d"].map textOf

def closers : List Text := ["do", "done", "elif", "else", "esac", "fi", "then", "\x7d"].map textOf

def specialNamesOf : List Text := [".", ":", "break", "continue", "eval", "exec", "exit", "export",
  "local", "readonly", "return", "set", "shift", "times", "trap", "unset"].map textOf

namespace Token

def shown : Token → Text
  | .ended => textOf "end of file"
  | .newline => textOf "newline"
  | .semicolon => textOf "\";\""
  | .ampersand => textOf "\"&\""
  | .both => textOf "\"&&\""
  | .either => textOf "\"||\""
  | .pipe => textOf "\"|\""
  | .opening => textOf "\"(\""
  | .closing => textOf "\")\""
  | .armEnd => textOf "\";;\""
  | .redirect _ | .documentStart _ _ => textOf "redirection"
  | .word _ => textOf "word"
  | .keyword name => '"' :: name ++ ['"']

def endsList : Token → Bool
  | .ended | .armEnd | .closing => true
  | .keyword name => closers.contains name
  | _ => false

def isKeyword (name : String) : Token → Bool
  | .keyword other => other = textOf name
  | _ => false

end Token

structure Wanted where
  lines : Bool := false
  keyword : Bool := false
  aliased : Bool := false

namespace Source

def unexpected {α : Type} (wanted : Option Text) : Reading α := do
  let source ← get
  let expecting := match wanted with
    | some wanted => textOf " (expecting " ++ wanted ++ [')']
    | none => []
  throw ⟨source.line, source.last.shown ++ textOf " unexpected" ++ expecting⟩

def keep : Reading Unit := modify fun source => { source with kept := some source.last }

def documentFrom (mark : Text) (dropTabs plain joined : Bool) : Nat → Text → Nat → Text → Text × Text × Nat
  | 0, rest, lines, read => (read, rest, lines)
  | fuel + 1, rest, lines, read =>
    if rest = [] then (read, [], lines)
    else
      let whole := rest.takeWhile (· ≠ '\n')
      let after := rest.drop whole.length
      let line := if dropTabs && !joined then whole.dropWhile (· = '\t') else whole
      let lines := if after = [] then lines else lines + 1
      if !joined && line = mark then (read, after.drop 1, lines)
      else
        let slashes := (line.reverse.takeWhile (· = '\\')).length
        documentFrom mark dropTabs plain (!plain && slashes % 2 = 1) fuel (after.drop 1) lines
          ((after.take 1).reverse ++ line.reverse ++ read)

def readDocument (inner : Bool → Reading Command) (fuel : Nat) (awaited : Awaited) : Reading Unit := do
  let source ← get
  let (read, rest, line) :=
    documentFrom awaited.mark awaited.dropTabs awaited.plain false fuel source.rest source.line []
  let word ← if awaited.plain then pure [Piece.literal read.reverse true]
    else readingFrom read.reverse source.line (pieces inner .document fuel 0 false [.literal [] true])
  modify fun source => { source with
    rest := rest, line := line, documents := source.documents.setIfInBounds awaited.number word }

def readDocuments (inner : Bool → Reading Command) (fuel : Nat) : Reading Unit := do
  let awaited := (← get).awaited
  modify ({ · with awaited := [] })
  for document in awaited do readDocument inner fuel document

def digit? (word : Word) : Option Nat :=
  match word with
  | [.literal [char] false] => if char.isDigit then some (char.toNat - '0'.toNat) else none
  | _ => none

def redirection (char : Char) (number : Option Nat) : Reading Token := do
  if char = '>' then
    let stream := number.getD 1
    if ← accept '>' then return .redirect (.file stream .append [])
    else if ← accept '|' then return .redirect (.file stream .replace [])
    else if ← accept '&' then return .redirect (.copy stream [])
    else return .redirect (.file stream .write [])
  else
    let stream := number.getD 0
    if ← accept '<' then return .documentStart stream (← accept '-')
    else if ← accept '&' then return .redirect (.copy stream [])
    else if ← accept '>' then return .redirect (.file stream .both [])
    else return .redirect (.file stream .read [])

def wordToken (inner : Bool → Reading Command) (ending : Ending) (fuel : Nat) : Reading Token := do
  let word ← pieces inner ending fuel 0 false []
  match ← peek with
  | some char =>
    if (char = '<' || char = '>') && (word.isEmpty || (digit? word).isSome) then
      let _ ← take
      redirection char (digit? word)
    else return .word word
  | none => return .word word

def plainToken (inner : Bool → Reading Command) (ending : Ending) : Nat → Reading Token
  | 0 => return .ended
  | fuel + 1 => do
    match ← peek with
    | none => return .ended
    | some char =>
      if isBlank char then
        let _ ← take
        plainToken inner ending fuel
      else if char = '#' then
        dropLine
        plainToken inner ending fuel
      else
        let sign (single : Token) (double : Option Token) : Reading Token := do
          let _ ← take
          match double with
          | some double => if ← accept char then return double else return single
          | none => return single
        match char with
        | '\n' => sign .newline none
        | '&' => sign .ampersand (some .both)
        | '|' => sign .pipe (some .either)
        | ';' => sign .semicolon (some .armEnd)
        | '(' => sign .opening none
        | ')' => sign .closing none
        | _ => wordToken inner ending fuel

def endedWithBlank (before after : Source) : Bool :=
  before.opened.any fun (name, rest) =>
    rest < before.rest.length && after.rest.length ≤ rest &&
      ((before.aliases.lookup name).getD []).getLast?.any isBlank

def rawToken (inner : Bool → Reading Command) (ending : Ending) (fuel : Nat) : Reading Token := do
  let source ← get
  match source.kept with
  | some token =>
    set { source with kept := none, eager := false }
    return token
  | none =>
    let token ← plainToken inner ending fuel
    modify fun read => { read with last := token, eager := endedWithBlank source read }
    return token

def skipNewlines (inner : Bool → Reading Command) (ending : Ending) : Nat → Token → Reading Token
  | 0, token => return token
  | fuel + 1, .newline => do
    readDocuments inner fuel
    skipNewlines inner ending fuel (← rawToken inner ending fuel)
  | _ + 1, token => return token

def expandAlias (name : Text) : Reading Bool := do
  let source ← get
  let here := source.rest.length
  let opened := source.opened.filter fun (_, after) => after ≤ here
  match source.aliases.lookup name with
  | some text =>
    if opened.any fun (other, _) => other = name then return false
    else
      set { source with rest := text ++ source.rest, opened := (name, here) :: opened }
      return true
  | none => return false

def token (inner : Bool → Reading Command) (wanted : Wanted) (ending : Ending) : Nat → Reading Token
  | 0 => return .ended
  | fuel + 1 => do
    let first ← rawToken inner ending fuel
    let read ← if wanted.lines then skipNewlines inner ending fuel first else pure first
    match read with
    | .word word => match bare? word with
      | some name =>
        if wanted.keyword && keywords.contains name then
          modify ({ · with last := .keyword name })
          return .keyword name
        else if wanted.aliased || (← get).eager then
          if ← expandAlias name then token inner wanted ending fuel else return read
        else return read
      | none => return read
    | _ => return read

end Source

end InkProject.Script
