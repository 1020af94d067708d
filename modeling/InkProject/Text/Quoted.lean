import InkProject.Text.Printable
import InkProject.Text.Utf8
set_option autoImplicit false

namespace InkProject.Quoted

def hexDigits (upper : Bool) (n : Nat) : List Char :=
  (Nat.toDigits 16 n).map fun c => if upper then c.toUpper else c

def escape (char : Char) : List Char :=
  if char = '\x00' then ['\\', '0']
  else if char = '\t' then ['\\', 't']
  else if char = '\r' then ['\\', 'r']
  else if char = '\n' then ['\\', 'n']
  else if char = '\\' ∨ char = '"' then ['\\', char]
  else if Printable.isPrintable char then [char]
  else ['\\', 'u', '{'] ++ hexDigits false char.toNat ++ ['}']

def quote (text : List Char) : List Char := '"' :: text.flatMap escape ++ ['"']
def quoteString (text : String) : String := String.ofList (quote text.toList)

def escapeByte (byte : UInt8) : List Char :=
  ['\\', 'x'] ++ (if byte < 16 then ['0'] else []) ++ hexDigits true byte.toNat

def escapePiece : Utf8.Piece → List Char
  | .scalar char => escape char
  | .broken bytes => bytes.flatMap escapeByte

def quoteBytes (bytes : Bytes) : String :=
  String.ofList ('"' :: (Utf8.pieces bytes).flatMap escapePiece ++ ['"'])

end InkProject.Quoted
