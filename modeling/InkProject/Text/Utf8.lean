set_option autoImplicit false

namespace InkProject

abbrev Bytes := List UInt8

namespace Utf8

def encode (text : List Char) : Bytes := text.flatMap String.utf8EncodeChar

def ofString (text : String) : Bytes := encode text.toList

inductive Piece where
  | scalar (char : Char)
  | broken (bytes : Bytes)
deriving DecidableEq, Repr

-- What is open: the bytes read so far, their payload, how many bytes are still
-- wanted, and the range of the next one. Only the byte after the lead has a
-- range of its own, which rules out overlong forms, surrogates and > U+10FFFF.
structure Open where
  seen : Bytes
  payload : Nat
  wanted : Nat
  low : UInt8
  high : UInt8
deriving DecidableEq, Repr

def lead (byte : UInt8) : Option Open :=
  let start (wanted : Nat) (payload : UInt8) (low high : UInt8) : Option Open :=
    some ⟨[byte], payload.toNat, wanted, low, high⟩
  if 0xC2 ≤ byte ∧ byte ≤ 0xDF then start 1 (byte - 0xC0) 0x80 0xBF
  else if byte = 0xE0 then start 2 0 0xA0 0xBF
  else if byte = 0xED then start 2 (byte - 0xE0) 0x80 0x9F
  else if 0xE1 ≤ byte ∧ byte ≤ 0xEF then start 2 (byte - 0xE0) 0x80 0xBF
  else if byte = 0xF0 then start 3 0 0x90 0xBF
  else if 0xF1 ≤ byte ∧ byte ≤ 0xF3 then start 3 (byte - 0xF0) 0x80 0xBF
  else if byte = 0xF4 then start 3 (byte - 0xF0) 0x80 0x8F
  else none

def begin (byte : UInt8) : List Piece × Option Open :=
  if byte < 0x80 then ([.scalar (Char.ofNat byte.toNat)], none)
  else match lead byte with
    | some opened => ([], some opened)
    | none => ([.broken [byte]], none)

def step (state : Option Open) (byte : UInt8) : List Piece × Option Open :=
  match state with
  | none => begin byte
  | some opened =>
    if opened.low ≤ byte ∧ byte ≤ opened.high then
      let payload := opened.payload * 64 + (byte - 0x80).toNat
      if opened.wanted ≤ 1 then ([.scalar (Char.ofNat payload)], none)
      else ([], some ⟨opened.seen ++ [byte], payload, opened.wanted - 1, 0x80, 0xBF⟩)
    else
      let (pieces, next) := begin byte
      (.broken opened.seen :: pieces, next)

def piecesFrom (state : Option Open) : Bytes → List Piece
  | [] => match state with
    | none => []
    | some opened => [.broken opened.seen]
  | byte :: rest =>
    let (pieces, next) := step state byte
    pieces ++ piecesFrom next rest

def pieces (bytes : Bytes) : List Piece := piecesFrom none bytes

def Piece.scalar? : Piece → Option Char
  | .scalar char => some char
  | .broken _ => none

def decode? (bytes : Bytes) : Option (List Char) := (pieces bytes).mapM Piece.scalar?

def Piece.shown : Piece → Char
  | .scalar char => char
  | .broken _ => '\ufffd'

def lossy (bytes : Bytes) : List Char := (pieces bytes).map Piece.shown

def text? (bytes : Bytes) : Option String := (decode? bytes).map String.ofList
def lossyText (bytes : Bytes) : String := String.ofList (lossy bytes)

end Utf8

end InkProject
