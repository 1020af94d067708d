import InkProject.Json.Basic
import InkProject.Number.Shortest
set_option autoImplicit false

namespace InkProject.Json

def hexPair (n : Nat) : List Char := [Nat.digitChar (n / 16 % 16), Nat.digitChar (n % 16)]

def escapeChar (char : Char) : List Char :=
  if char = '"' then ['\\', '"']
  else if char = '\\' then ['\\', '\\']
  else if char = '\x08' then ['\\', 'b']
  else if char = '\x0c' then ['\\', 'f']
  else if char = '\n' then ['\\', 'n']
  else if char = '\r' then ['\\', 'r']
  else if char = '\t' then ['\\', 't']
  else if char < ' ' then ['\\', 'u', '0', '0'] ++ hexPair char.toNat
  else [char]

def escapeAll : List Char → List Char → List Char
  | [], rest => rest
  | char :: text, rest => escapeChar char ++ escapeAll text rest

def writeString (text : String) (rest : List Char) : List Char :=
  '"' :: escapeAll text.toList ('"' :: rest)

def integerDigitsOf (value : Int) : List Char :=
  (if value < 0 then ['-'] else []) ++ Nat.toDigits 10 value.natAbs

def doubleLayout : Shortest.Layout := ⟨some (-5, 15), .even⟩
def doubleText (value : Double) : List Char := Shortest.text doubleLayout value

mutual
def write : Json → List Char → List Char
  | .null, rest => 'n' :: 'u' :: 'l' :: 'l' :: rest
  | .bool true, rest => 't' :: 'r' :: 'u' :: 'e' :: rest
  | .bool false, rest => 'f' :: 'a' :: 'l' :: 's' :: 'e' :: rest
  | .integer value, rest => integerDigitsOf value ++ rest
  | .double value, rest => doubleText value ++ rest
  | .string text, rest => writeString text rest
  | .array [], rest => '[' :: ']' :: rest
  | .array (item :: items), rest => '[' :: write item (writeItems items (']' :: rest))
  | .object [], rest => '{' :: '}' :: rest
  | .object ((key, item) :: members), rest =>
    '{' :: writeString key (':' :: write item (writeMembers members ('}' :: rest)))
def writeItems : List Json → List Char → List Char
  | [], rest => rest
  | item :: items, rest => ',' :: write item (writeItems items rest)
def writeMembers : List (String × Json) → List Char → List Char
  | [], rest => rest
  | (key, item) :: members, rest =>
    ',' :: writeString key (':' :: write item (writeMembers members rest))
end

def compact (json : Json) : String := String.ofList (write json [])

def newline (depth : Nat) (rest : List Char) : List Char :=
  '\n' :: (List.replicate (2 * depth) ' ' ++ rest)

mutual
def writeIndented (depth : Nat) : Json → List Char → List Char
  | .array (item :: items), rest =>
    '[' :: newline (depth + 1) (writeIndented (depth + 1) item
      (writeIndentedItems (depth + 1) items (newline depth (']' :: rest))))
  | .object ((key, item) :: members), rest =>
    '{' :: newline (depth + 1) (writeString key (':' :: ' ' :: writeIndented (depth + 1) item
      (writeIndentedMembers (depth + 1) members (newline depth ('}' :: rest)))))
  | json, rest => write json rest
def writeIndentedItems (depth : Nat) : List Json → List Char → List Char
  | [], rest => rest
  | item :: items, rest =>
    ',' :: newline depth (writeIndented depth item (writeIndentedItems depth items rest))
def writeIndentedMembers (depth : Nat) : List (String × Json) → List Char → List Char
  | [], rest => rest
  | (key, item) :: members, rest =>
    ',' :: newline depth (writeString key (':' :: ' ' :: writeIndented depth item
      (writeIndentedMembers depth members rest)))
end

def indented (json : Json) : String := String.ofList (writeIndented 0 json [])

end InkProject.Json
