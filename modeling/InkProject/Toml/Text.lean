import InkProject.Json.Read
import InkProject.Toml.Basic
set_option autoImplicit false

namespace InkProject.Toml

abbrev Reader (α : Type) := List Char → Option (α × List Char)

def isSpace (char : Char) : Bool := char = ' ' || char = '\t'
def skipSpace (text : List Char) : List Char := text.dropWhile isSpace

def isTextChar (char : Char) : Bool := char = '\t' || (' ' ≤ char && char ≠ '\x7f')

def newline? : List Char → Option (List Char)
  | '\n' :: rest => some rest
  | '\r' :: '\n' :: rest => some rest
  | _ => none

def hexValue? (digits : List Char) : Option Nat :=
  digits.foldlM (fun n char => (Json.hexDigit? char).map (n * 16 + ·)) 0

def scalarValue? (code : Nat) : Option Char :=
  if code < 0xD800 ∨ (0xDFFF < code ∧ code < 0x110000) then some (Char.ofNat code) else none

def plainEscape? (char : Char) : Option Char :=
  if char = 'b' then some '\x08'
  else if char = 't' then some '\t'
  else if char = 'n' then some '\n'
  else if char = 'f' then some '\x0c'
  else if char = 'r' then some '\r'
  else if char = '"' ∨ char = '\\' then some char
  else none

def escape : Reader Char
  | [] => none
  | char :: rest =>
    let coded (count : Nat) : Option (Char × List Char) :=
      if rest.length < count then none
      else ((hexValue? (rest.take count)).bind scalarValue?).map (·, rest.drop count)
    if char = 'u' then coded 4
    else if char = 'U' then coded 8
    else (plainEscape? char).map (·, rest)

def plainFrom : Nat → List Char → Reader String
  | 0, _, _ => none
  | _ + 1, _, [] => none
  | fuel + 1, read, char :: rest =>
    if char = '"' then some (String.ofList read.reverse, rest)
    else if char = '\\' then (escape rest).bind fun (meant, rest) => plainFrom fuel (meant :: read) rest
    else if isTextChar char then plainFrom fuel (char :: read) rest
    else none

def verbatim (text : List Char) : Option (String × List Char) :=
  match text.dropWhile fun char => isTextChar char && char ≠ '\'' with
  | '\'' :: rest =>
    some (String.ofList (text.takeWhile fun char => isTextChar char && char ≠ '\''), rest)
  | _ => none

-- Three quotes end a text on several lines; up to two more before them belong to it.
def closing? (quote : Char) (text : List Char) : Option (List Char × List Char) :=
  let run := (text.takeWhile (· = quote)).length
  if 3 ≤ run ∧ run ≤ 5 then some (List.replicate (run - 3) quote, text.drop run) else none

def skipBreaks : List Char → List Char
  | '\r' :: '\n' :: rest => skipBreaks rest
  | char :: rest => if isSpace char ∨ char = '\n' then skipBreaks rest else char :: rest
  | [] => []

def continuation? (text : List Char) : Option (List Char) :=
  (newline? (skipSpace text)).map skipBreaks

def linesFrom (quote : Char) (escapes : Bool) : Nat → List Char → Reader String
  | 0, _, _ => none
  | _ + 1, _, [] => none
  | fuel + 1, read, char :: rest =>
    if char = quote then
      match closing? quote (char :: rest) with
      | some (more, rest) => some (String.ofList (read.reverse ++ more), rest)
      | none =>
        if (rest.take 2) = [quote, quote] then none
        else linesFrom quote escapes fuel (char :: read) rest
    else match newline? (char :: rest) with
      | some rest => linesFrom quote escapes fuel ('\n' :: read) rest
      | none =>
        if escapes ∧ char = '\\' then
          match continuation? rest with
          | some rest => linesFrom quote escapes fuel read rest
          | none => (escape rest).bind fun (meant, rest) =>
            linesFrom quote escapes fuel (meant :: read) rest
        else if isTextChar char then linesFrom quote escapes fuel (char :: read) rest
        else none

def onLines (quote : Char) (escapes : Bool) (text : List Char) : Option (String × List Char) :=
  let rest := (newline? text).getD text
  linesFrom quote escapes (rest.length + 1) [] rest

def plain (text : List Char) : Option (String × List Char) := plainFrom (text.length + 1) [] text

def lineString : Reader String
  | '"' :: rest => plain rest
  | '\'' :: rest => verbatim rest
  | _ => none

def quotedText : Reader String
  | '"' :: '"' :: '"' :: rest => onLines '"' true rest
  | '\'' :: '\'' :: '\'' :: rest => onLines '\'' false rest
  | text => lineString text

end InkProject.Toml
