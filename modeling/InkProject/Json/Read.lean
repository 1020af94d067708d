import InkProject.Json.Basic
import InkProject.Json.Failure
set_option autoImplicit false

namespace InkProject.Json

abbrev Reader (α : Type) := List Char → Except Failure (α × List Char)

def isSpace (char : Char) : Bool := char = ' ' || char = '\n' || char = '\t' || char = '\r'
def skip (text : List Char) : List Char := text.dropWhile isSpace

def word : List Char → List Char → Except Failure (List Char)
  | [], rest => .ok rest
  | _ :: _, [] => .error (.before .endInValue [])
  | e :: es, char :: rest =>
    if char = e then word es rest else .error (.onto .expectedWord (char :: rest))

def hexDigit? (char : Char) : Option Nat :=
  if '0' ≤ char ∧ char ≤ '9' then some (char.toNat - 48)
  else if 'a' ≤ char ∧ char ≤ 'f' then some (char.toNat - 87)
  else if 'A' ≤ char ∧ char ≤ 'F' then some (char.toNat - 55)
  else none

def hex4 (a b c d : Char) : Option Nat := do
  let a ← hexDigit? a
  let b ← hexDigit? b
  let c ← hexDigit? c
  let d ← hexDigit? d
  some (((a * 16 + b) * 16 + c) * 16 + d)

def badHex (text : List Char) : Failure :=
  if byteCount text < 4 then .before .endInString [] else ⟨.invalidEscape, byteCount text - 4⟩

def plainEscape? (char : Char) : Option Char :=
  if char = '"' ∨ char = '\\' ∨ char = '/' then some char
  else if char = 'b' then some '\x08'
  else if char = 'f' then some '\x0c'
  else if char = 'n' then some '\n'
  else if char = 'r' then some '\r'
  else if char = 't' then some '\t'
  else none

def isHighSurrogate (unit : Nat) : Bool := 0xD800 ≤ unit && unit ≤ 0xDBFF
def isLowSurrogate (unit : Nat) : Bool := 0xDC00 ≤ unit && unit ≤ 0xDFFF
def joinSurrogates (high low : Nat) : Char :=
  Char.ofNat ((high - 0xD800) * 0x400 + (low - 0xDC00) + 0x10000)

def stringFrom (read : List Char) : List Char → Except Failure (String × List Char)
  | [] => .error (.before .endInString [])
  | char :: rest =>
    if char = '"' then .ok (String.ofList read.reverse, rest)
    else if char = '\\' then
      match rest with
      | [] => .error (.before .endInString [])
      | escaped :: rest =>
        if escaped = 'u' then
          match rest with
          | a :: b :: c :: d :: rest =>
            match hex4 a b c d with
            | none => .error (badHex (a :: b :: c :: d :: rest))
            | some high =>
              if isLowSurrogate high then .error (.before .loneSurrogate rest)
              else if isHighSurrogate high then
                match rest with
                | [] => .error (.before .endInString [])
                | slash :: rest =>
                  if slash = '\\' then
                    match rest with
                    | [] => .error (.before .endInString [])
                    | u :: rest =>
                      if u = 'u' then
                        match rest with
                        | a :: b :: c :: d :: rest =>
                          match hex4 a b c d with
                          | none => .error (badHex (a :: b :: c :: d :: rest))
                          | some low =>
                            if isLowSurrogate low then
                              stringFrom (joinSurrogates high low :: read) rest
                            else .error (.before .loneSurrogate rest)
                        | short => .error (badHex short)
                      else .error (.onto .endOfHexEscape (u :: rest))
                  else .error (.onto .endOfHexEscape (slash :: rest))
              else stringFrom (Char.ofNat high :: read) rest
          | short => .error (badHex short)
        else match plainEscape? escaped with
          | some meant => stringFrom (meant :: read) rest
          | none => .error (.onto .invalidEscape (escaped :: rest))
    else if char < ' ' then .error (.before .controlCharacter rest)
    else stringFrom (char :: read) rest

def isDigit (char : Char) : Bool := '0' ≤ char && char ≤ '9'
def digitValue (char : Char) : Nat := char.toNat - 48
def isExponentMark (char : Char) : Bool := char = 'e' || char = 'E'

-- The significand of a double is the digits that 64 bits hold; those after them
-- count only by their place. Powers of ten past the greatest are taken in steps.
def greatestPower : Nat := 308

def power (n : Nat) : Double := (Double.ofDecimal false 1 n).getD (.zero false)

def lower (x : Double) : Nat → Nat → Double
  | 0, _ => .zero false
  | fuel + 1, places =>
    if x.isZero then x
    else if places ≤ greatestPower then (x.div (power places)).getD x
    else lower ((x.div (power greatestPower)).getD x) fuel (places - greatestPower)

def magnitude? (significand : Nat) (exponent : Int) : Option Double :=
  match Double.ofNat significand with
  | none => none
  | some x =>
    if 0 ≤ exponent then
      if exponent ≤ greatestPower then x.mul (power exponent.toNat)
      else if x.isZero then some x else none
    else some (lower x 4 (-exponent).toNat)

def doubleAt (negative : Bool) (significand : Nat) (exponent : Int) : Reader Json := fun rest =>
  match magnitude? significand exponent with
  | none => .error (.before .numberOutOfRange rest)
  | some x => .ok (.double { x with negative := negative }, rest)

def greatestExponent : Nat := 2147483647

def exponentDigits (negative : Bool) (significand : Nat) (start : Int) (down : Bool) :
    Nat → Reader Json
  | exponent, [] => doubleAt negative significand (if down then start - exponent else start + exponent) []
  | exponent, char :: rest =>
    if isDigit char then
      let next := exponent * 10 + digitValue char
      if greatestExponent < next then
        if significand ≠ 0 ∧ !down then .error (.before .numberOutOfRange rest)
        else .ok (.double (.zero negative), rest.dropWhile isDigit)
      else exponentDigits negative significand start down next rest
    else doubleAt negative significand (if down then start - exponent else start + exponent) (char :: rest)

def exponent (negative : Bool) (significand : Nat) (start : Int) : Reader Json := fun text =>
  let (down, rest) := match text with
    | '+' :: rest => (false, rest)
    | '-' :: rest => (true, rest)
    | _ => (false, text)
  match rest with
  | [] => .error (.before .endInValue [])
  | char :: after =>
    if isDigit char then exponentDigits negative significand start down (digitValue char) after
    else .error (.onto .invalidNumber rest)

def scale (negative : Bool) (significand : Nat) (start : Int) : Reader Json
  | [] => doubleAt negative significand start []
  | char :: rest =>
    if isExponentMark char then exponent negative significand start rest
    else doubleAt negative significand start (char :: rest)

def fraction (negative : Bool) (start : Int) : Nat → Nat → Reader Json
  | taken, significand, [] =>
    if taken = 0 then .error (.before .endInValue []) else scale negative significand (start - taken) []
  | taken, significand, char :: rest =>
    if isDigit char then
      let next := significand * 10 + digitValue char
      if greatest < next then scale negative significand (start - taken) (rest.dropWhile isDigit)
      else fraction negative start (taken + 1) next rest
    else if taken = 0 then .error (.onto .invalidNumber (char :: rest))
    else scale negative significand (start - taken) (char :: rest)

def longInteger (negative : Bool) (significand : Nat) : Nat → Reader Json
  | dropped, [] => doubleAt negative significand dropped []
  | dropped, char :: rest =>
    if isDigit char then longInteger negative significand (dropped + 1) rest
    else if char = '.' then fraction negative dropped 0 significand rest
    else scale negative significand dropped (char :: rest)

def whole (negative : Bool) (significand : Nat) : Json :=
  if !negative then .integer significand
  else if significand = 0 ∨ 9223372036854775808 < significand then
    .double (((Double.ofNat significand).getD (.zero false)).negate)
  else .integer (-significand)

def afterInteger (negative : Bool) (significand : Nat) : Reader Json
  | [] => .ok (whole negative significand, [])
  | char :: rest =>
    if char = '.' then fraction negative 0 0 significand rest
    else if isExponentMark char then exponent negative significand 0 rest
    else .ok (whole negative significand, char :: rest)

def integerDigits (negative : Bool) : Nat → Reader Json
  | significand, [] => afterInteger negative significand []
  | significand, char :: rest =>
    if isDigit char then
      let next := significand * 10 + digitValue char
      if greatest < next then longInteger negative significand 0 (char :: rest)
      else integerDigits negative next rest
    else afterInteger negative significand (char :: rest)

def number (negative : Bool) : Reader Json
  | [] => .error (.before .endInValue [])
  | char :: rest =>
    if char = '0' then
      match rest with
      | next :: after =>
        if isDigit next then .error (.onto .invalidNumber (next :: after))
        else afterInteger negative 0 (next :: after)
      | [] => afterInteger negative 0 []
    else if isDigit char then integerDigits negative (digitValue char) rest
    else .error (.onto .invalidNumber (char :: rest))

def expectColon (text : List Char) : Except Failure (List Char) :=
  match skip text with
  | ':' :: rest => .ok rest
  | [] => .error (.before .endInObject [])
  | rest => .error (.onto .expectedColon rest)

def depthLimit : Nat := 128

-- Every second call takes a character, so twice the length is enough fuel; depth is
-- what is left of the limit.
mutual
def value : Nat → Nat → Reader Json
  | 0, _, text => .error (.onto .expectedValue text)
  | fuel + 1, depth, text =>
    match skip text with
    | [] => .error (.before .endInValue [])
    | char :: rest =>
      if char = 'n' then do return (.null, ← word ['u', 'l', 'l'] rest)
      else if char = 't' then do return (.bool true, ← word ['r', 'u', 'e'] rest)
      else if char = 'f' then do return (.bool false, ← word ['a', 'l', 's', 'e'] rest)
      else if char = '-' then number true rest
      else if isDigit char then number false (char :: rest)
      else if char = '"' then do
        let (text, rest) ← stringFrom [] rest
        return (.string text, rest)
      else if char = '[' then
        if depth ≤ 1 then .error (.onto .tooDeep (char :: rest)) else items fuel (depth - 1) [] rest
      else if char = '{' then
        if depth ≤ 1 then .error (.onto .tooDeep (char :: rest)) else members fuel (depth - 1) none rest
      else .error (.onto .expectedValue (char :: rest))
def items : Nat → Nat → List Json → Reader Json
  | 0, _, _, text => .error (.onto .expectedValue text)
  | fuel + 1, depth, read, text =>
    match skip text with
    | [] => .error (.before .endInList [])
    | char :: rest =>
      if char = ']' then .ok (.array read.reverse, rest)
      else if read.isEmpty then do
        let (item, rest) ← value fuel depth (char :: rest)
        items fuel depth (item :: read) rest
      else if char = ',' then
        match skip rest with
        | [] => .error (.before .endInValue [])
        | ']' :: rest => .error (.onto .trailingComma (']' :: rest))
        | rest => do
          let (item, rest) ← value fuel depth rest
          items fuel depth (item :: read) rest
      else .error (.onto .expectedListCommaOrEnd (char :: rest))
def members : Nat → Nat → Option (Table Json) → Reader Json
  | 0, _, _, text => .error (.onto .expectedValue text)
  | fuel + 1, depth, read, text =>
    match skip text with
    | [] => .error (.before .endInObject [])
    | char :: rest =>
      if char = '}' then .ok (.object (read.getD []), rest)
      else match read with
        | none =>
          if char = '"' then do
            let (key, rest) ← stringFrom [] rest
            let rest ← expectColon rest
            let (item, rest) ← value fuel depth rest
            members fuel depth (some (Table.insert key item [])) rest
          else .error (.onto .keyMustBeString (char :: rest))
        | some read =>
          if char = ',' then
            match skip rest with
            | [] => .error (.before .endInValue [])
            | '}' :: rest => .error (.onto .trailingComma ('}' :: rest))
            | '"' :: rest => do
              let (key, rest) ← stringFrom [] rest
              let rest ← expectColon rest
              let (item, rest) ← value fuel depth rest
              members fuel depth (some (read.insert key item)) rest
            | rest => .error (.onto .keyMustBeString rest)
          else .error (.onto .expectedObjectCommaOrEnd (char :: rest))
end

def read (text : List Char) : Except Failure Json := do
  let (result, rest) ← value (2 * text.length + 2) depthLimit text
  match skip rest with
  | [] => .ok result
  | rest => .error (.onto .trailingCharacters rest)

def parse (text : String) : Except String Json :=
  (read text.toList).mapError (Failure.message text.toList)

end InkProject.Json
