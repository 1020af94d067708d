import InkProject.Toml.Scalar
import InkProject.Toml.Tables
import InkProject.Toml.Text
set_option autoImplicit false

namespace InkProject.Toml

def nestingLimit : Nat := 79

def isBareKeyChar (char : Char) : Bool := char.isAlphanum || char = '_' || char = '-'

def simpleKey (text : List Char) : Option (String × List Char) :=
  match text with
  | '"' :: _ | '\'' :: _ => lineString text
  | _ => match text.takeWhile isBareKeyChar with
    | [] => none
    | key => some (String.ofList key, text.dropWhile isBareKeyChar)

abbrev Key := List String × String

def keyFrom : Nat → List String → Reader Key
  | 0, _, _ => none
  | more + 1, path, text => do
    let (name, rest) ← simpleKey (skipSpace text)
    match skipSpace rest with
    | '.' :: rest => keyFrom more (path ++ [name]) rest
    | rest => some ((path, name), rest)

def key : Reader Key := keyFrom nestingLimit []

def skipLinesFrom (commented : Bool) : List Char → List Char
  | [] => []
  | '\r' :: '\n' :: rest => skipLinesFrom false rest
  | char :: rest =>
    if commented && isTextChar char then skipLinesFrom true rest
    else if isSpace char || char = '\n' then skipLinesFrom false rest
    else if char = '#' then skipLinesFrom true rest
    else char :: rest

def skipLines : List Char → List Char := skipLinesFrom false

def arrayFrom (value : Reader Toml) : Nat → List Toml → Reader Toml
  | 0, _, _ => none
  | fuel + 1, items, text => match skipLines text with
    | ']' :: rest => some (.array items, rest)
    | text => do
      let (item, rest) ← value text
      match skipLines rest with
      | ',' :: rest => arrayFrom value fuel (items ++ [item]) rest
      | ']' :: rest => some (.array (items ++ [item]), rest)
      | _ => none

def assignment (value : Reader Toml) : Reader (Key × Toml) := fun text => do
  let (key, rest) ← key text
  match rest with
  | '=' :: rest => do
    let (value, rest) ← value (skipSpace rest)
    some ((key, value), rest)
  | _ => none

def inlineFrom (value : Reader Toml) : Nat → Level → Reader Toml
  | 0, _, _ => none
  | fuel + 1, level, text => do
    let (((path, name), item), rest) ← assignment value text
    let level ← define path name item level
    match skipSpace rest with
    | ',' :: rest => inlineFrom value fuel level rest
    | '}' :: rest => some (level.item.toml, rest)
    | _ => none

def inlineTable (value : Reader Toml) (text : List Char) : Option (Toml × List Char) :=
  match skipSpace text with
  | '}' :: rest => some (.table [], rest)
  | text => inlineFrom value (text.length + 1) .empty text

def single : Reader Toml
  | '"' :: rest => (quotedText ('"' :: rest)).map fun (text, rest) => (.string text, rest)
  | '\'' :: rest => (quotedText ('\'' :: rest)).map fun (text, rest) => (.string text, rest)
  | text => scalar text

def value : Nat → Reader Toml
  | depth + 1, '[' :: rest => arrayFrom (value depth) (rest.length + 1) [] rest
  | depth + 1, '{' :: rest => inlineTable (value depth) rest
  | _, text => single text

def lineEnd (text : List Char) : Option (List Char) :=
  let rest := match skipSpace text with
    | '#' :: comment => comment.dropWhile isTextChar
    | rest => rest
  if rest.isEmpty then some [] else newline? rest

def line (document : Document) (text : List Char) : Option (Document × List Char) :=
  match text with
  | [] | '#' :: _ | '\n' :: _ | '\r' :: _ => some (document, text)
  | '[' :: '[' :: rest => do
    let ((path, name), rest) ← key rest
    let rest ← expect ']' (← expect ']' rest)
    return (← document.openRepeated path name, rest)
  | '[' :: rest => do
    let ((path, name), rest) ← key rest
    let rest ← expect ']' rest
    return (← document.openTable path name, rest)
  | _ => do
    let (((path, name), item), rest) ← assignment (value nestingLimit) text
    return (← document.define path name item, rest)

def linesOf : Nat → Document → List Char → Option Document
  | 0, _, _ => none
  | _ + 1, document, [] => some document
  | fuel + 1, document, text => do
    let (document, rest) ← line document (skipSpace text)
    linesOf fuel document (← lineEnd rest)

def byteOrderMark : Char := '\ufeff'

def parse (text : String) : Option Toml :=
  let chars := if text.toList.head? = some byteOrderMark then text.toList.tail else text.toList
  (linesOf (chars.length + 1) .start chars).bind Document.finish

end InkProject.Toml
