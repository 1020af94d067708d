import InkProject.Number.Double
import InkProject.Script.Arithmetic
set_option autoImplicit false

namespace InkProject.Script

inductive Real where
  | finite (value : Double)
  | infinite (negative : Bool)
  | notANumber
deriving DecidableEq, Repr

namespace Real

def isNegative : Real → Bool
  | finite value => value.negative
  | infinite negative => negative
  | notANumber => false

def zero : Real := finite (Double.zero false)

def ofInt (value : Int) : Real :=
  match Double.nearest (value < 0) value.natAbs 1 with
  | some found => finite found
  | none => infinite (value < 0)

def ofFraction (negative : Bool) (num den : Nat) : Real × Bool :=
  match Double.nearest negative num den with
  | some found =>
    (finite found, num = 0 || Nat.pow 2 (Double.precision - 1) ≤ found.mantissa)
  | none => (infinite negative, false)

def lowered (text : Text) : Text := text.map Char.toLower

def word? (word : String) (text : Text) : Option Text :=
  if word.toList.isPrefixOf (lowered text) then some (text.drop word.length) else none

def exponentDigits? (negative : Bool) (text : Text) : Option (Int × Text) :=
  if (text.head?.map Char.isDigit).getD false then
    let (value, rest) := digitsFrom 10 0 text
    some (if negative then -Int.ofNat value else Int.ofNat value, rest)
  else none

def exponent? (letter : Char) (text : Text) : Option (Int × Text) :=
  match text with
  | char :: rest =>
    if char.toLower = letter then match rest with
      | '-' :: rest => exponentDigits? true rest
      | '+' :: rest => exponentDigits? false rest
      | rest => exponentDigits? false rest
    else none
  | [] => none

def digits? (base : Nat) (text : Text) : Option (Nat × Nat × Text) :=
  let (value, rest) := digitsFrom base 0 text
  let size := text.length - rest.length
  match rest with
  | '.' :: more =>
    let (value, rest) := digitsFrom base value more
    let places := more.length - rest.length
    if size = 0 && places = 0 then none else some (value, places, rest)
  | _ => if size = 0 then none else some (value, 0, rest)

def decimal? (negative : Bool) (text : Text) : Option (Real × Bool × Text) := do
  let (value, places, rest) ← digits? 10 text
  let (exponent, rest) := (exponent? 'e' rest).getD (0, rest)
  let power := exponent - Int.ofNat places
  let (result, inRange) :=
    if value = 0 then (finite (Double.zero negative), true)
    else if 400 + 20 * Int.ofNat value.log2 < power then (infinite negative, false)
    else if power < -(1200 + Int.ofNat value.log2) then (finite (Double.zero negative), false)
    else if 0 ≤ power then ofFraction negative (value * Nat.pow 10 power.toNat) 1
    else ofFraction negative value (Nat.pow 10 (-power).toNat)
  return (result, inRange, rest)

def hexadecimal? (negative : Bool) (text : Text) : Option (Real × Bool × Text) := do
  let (value, places, rest) ← digits? 16 text
  let (exponent, rest) := (exponent? 'p' rest).getD (0, rest)
  let power := exponent - 4 * Int.ofNat places
  let (result, inRange) :=
    if value = 0 then (finite (Double.zero negative), true)
    else if 4000 < power then (infinite negative, false)
    else if power < -(4000 + Int.ofNat value.log2) then (finite (Double.zero negative), false)
    else if 0 ≤ power then ofFraction negative (value * Nat.pow 2 power.toNat) 1
    else ofFraction negative value (Nat.pow 2 (-power).toNat)
  return (result, inRange, rest)

def label (text : Text) : Text :=
  match text with
  | '(' :: rest => match rest.dropWhile isNameChar with
    | ')' :: rest => rest
    | _ => text
  | _ => text

def read? (text : Text) : Option (Real × Bool × Text) :=
  let (negative, text) := match text.dropWhile isSpace with
    | '-' :: rest => (true, rest)
    | '+' :: rest => (false, rest)
    | rest => (false, rest)
  match word? "infinity" text, word? "inf" text, word? "nan" text with
  | some rest, _, _ | none, some rest, _ => some (infinite negative, true, rest)
  | none, none, some rest => some (notANumber, true, label rest)
  | none, none, none => match text with
    | '0' :: x :: rest =>
      match if x = 'x' || x = 'X' then hexadecimal? negative rest else none with
      | some found => some found
      | none => decimal? negative text
    | _ => decimal? negative text

def scaledDigits (value : Double) (places : Int) : Nat :=
  let (num, den) := value.ratio
  if 0 ≤ places then Double.roundHalfEven (num * Nat.pow 10 places.toNat) den
  else Double.roundHalfEven num (den * Nat.pow 10 (-places).toNat)

def decimalDigits (value : Nat) : Text := Nat.toDigits 10 value

def point (always : Bool) (fraction : Text) : Text :=
  if fraction = [] && !always then [] else '.' :: fraction

def fixed (always : Bool) (places : Nat) (value : Double) : Text :=
  let all := decimalDigits (scaledDigits value places)
  let all := List.replicate (places + 1 - all.length) '0' ++ all
  all.take (all.length - places) ++ point always (all.drop (all.length - places))

def leading (places : Nat) (value : Double) : Int × Text :=
  if value.isZero then (0, List.replicate (places + 1) '0')
  else
    let (num, den) := value.ratio
    let guess := Double.binaryOrder num den * 30103 / 100000
    let digitsAt (power : Int) : Text := decimalDigits (scaledDigits value (Int.ofNat places - power))
    if (digitsAt guess).length ≤ places + 1 then (guess, digitsAt guess)
    else if (digitsAt (guess + 1)).length ≤ places + 1 then (guess + 1, digitsAt (guess + 1))
    else (guess + 2, digitsAt (guess + 2))

def exponentText (power : Int) : Text :=
  let size := decimalDigits power.natAbs
  (if power < 0 then '-' else '+') :: (if size.length < 2 then '0' :: size else size)

def scientific (always : Bool) (places : Nat) (value : Double) : Text :=
  let (power, all) := leading places value
  all.take 1 ++ point always (all.drop 1) ++ 'e' :: exponentText power

def withoutZeros (text : Text) : Text :=
  let (head, tail) := (text.takeWhile (· ≠ 'e'), text.dropWhile (· ≠ 'e'))
  if head.contains '.' then
    let kept := head.reverse.dropWhile (· = '0')
    (match kept with
      | '.' :: rest => rest.reverse
      | _ => kept.reverse) ++ tail
  else text

def general (always : Bool) (precision : Nat) (value : Double) : Text :=
  let precision := max precision 1
  let (power, _) := leading (precision - 1) value
  let text :=
    if -4 ≤ power && power < Int.ofNat precision then
      fixed always (Int.ofNat precision - 1 - power).toNat value
    else scientific always (precision - 1) value
  if always then text else withoutZeros text

def hexDigits (value : Nat) : Text := Nat.toDigits 16 value

def hexadecimal (always : Bool) (places : Option Nat) (value : Double) : Text :=
  let full := Nat.pow 2 (Double.precision - 1)
  let (first, rest) := (value.mantissa / full, value.mantissa % full)
  let power : Int := if value.isZero then 0 else value.exponent + Int.ofNat (Double.precision - 1)
  let padded (size : Nat) (text : Text) : Text := List.replicate (size - text.length) '0' ++ text
  let (first, fraction) := match places with
    | none =>
      let all := padded 13 (hexDigits rest)
      (first, (all.reverse.dropWhile (· = '0')).reverse)
    | some size =>
      if 13 ≤ size then (first, padded 13 (hexDigits rest) ++ List.replicate (size - 13) '0')
      else
        let rounded := Double.roundHalfEven value.mantissa (Nat.pow 16 (13 - size))
        let unit := Nat.pow 16 size
        (rounded / unit, if size = 0 then [] else padded size (hexDigits (rounded % unit)))
  '0' :: 'x' :: decimalDigits first ++ point always fraction ++ 'p' ::
    (if power < 0 then '-' else '+') :: decimalDigits power.natAbs

end Real

end InkProject.Script
