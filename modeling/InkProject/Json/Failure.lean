set_option autoImplicit false

namespace InkProject.Json

inductive Cause where
  | endInValue
  | endInList
  | endInObject
  | endInString
  | expectedColon
  | expectedListCommaOrEnd
  | expectedObjectCommaOrEnd
  | expectedWord
  | expectedValue
  | invalidEscape
  | invalidNumber
  | numberOutOfRange
  | controlCharacter
  | keyMustBeString
  | loneSurrogate
  | endOfHexEscape
  | trailingComma
  | trailingCharacters
  | tooDeep
deriving DecidableEq, Repr

def Cause.message : Cause → String
  | .endInValue => "EOF while parsing a value"
  | .endInList => "EOF while parsing a list"
  | .endInObject => "EOF while parsing an object"
  | .endInString => "EOF while parsing a string"
  | .expectedColon => "expected `:`"
  | .expectedListCommaOrEnd => "expected `,` or `]`"
  | .expectedObjectCommaOrEnd => "expected `,` or `\x7d`"
  | .expectedWord => "expected ident"
  | .expectedValue => "expected value"
  | .invalidEscape => "invalid escape"
  | .invalidNumber => "invalid number"
  | .numberOutOfRange => "number out of range"
  | .controlCharacter => "control character (\\u0000-\\u001F) found while parsing a string"
  | .keyMustBeString => "key must be a string"
  | .loneSurrogate => "lone leading surrogate in hex escape"
  | .endOfHexEscape => "unexpected end of hex escape"
  | .trailingComma => "trailing comma"
  | .trailingCharacters => "trailing characters"
  | .tooDeep => "recursion limit exceeded"

def byteCount : List Char → Nat
  | [] => 0
  | char :: rest => char.utf8Size + byteCount rest

structure Failure where
  cause : Cause
  left : Nat
deriving DecidableEq, Repr

def Failure.before (cause : Cause) (rest : List Char) : Failure := ⟨cause, byteCount rest⟩
def Failure.onto (cause : Cause) (rest : List Char) : Failure := ⟨cause, byteCount rest - 1⟩

structure Position where
  line : Nat
  column : Nat
deriving DecidableEq, Repr

def positionFrom (line column : Nat) : Nat → List Char → Position
  | _, [] => ⟨line, column⟩
  | offset, char :: rest =>
    if offset < char.utf8Size then ⟨line, column + offset⟩
    else if char = '\n' then positionFrom (line + 1) 0 (offset - 1) rest
    else positionFrom line (column + char.utf8Size) (offset - char.utf8Size) rest

def position (text : List Char) (offset : Nat) : Position := positionFrom 1 0 offset text

def Failure.message (text : List Char) (failure : Failure) : String :=
  let place := position text (byteCount text - failure.left)
  s!"{failure.cause.message} at line {place.line} column {place.column}"

end InkProject.Json
