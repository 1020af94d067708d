/- Finite binary numbers with 53 significant bits, as exact integers: a value is
   mantissa * 2 ^ exponent. The mantissa has all 53 bits unless the exponent is the
   least one, so a value has one form and equality is equality of the fields. -/
set_option autoImplicit false

namespace InkProject

structure Double where
  negative : Bool
  mantissa : Nat
  exponent : Int
deriving DecidableEq, Repr

namespace Double

def precision : Nat := 53
def leastExponent : Int := -1074
def greatestExponent : Int := 971

def Canonical (x : Double) : Prop :=
  x.mantissa < Nat.pow 2 precision ∧ leastExponent ≤ x.exponent ∧ x.exponent ≤ greatestExponent ∧
    (Nat.pow 2 (precision - 1) ≤ x.mantissa ∨ x.exponent = leastExponent)

def zero (negative : Bool) : Double := ⟨negative, 0, leastExponent⟩

def isZero (x : Double) : Bool := x.mantissa == 0

def roundHalfEven (num den : Nat) : Nat :=
  let whole := num / den
  let double := 2 * (num % den)
  if double < den then whole else if den < double then whole + 1 else whole + whole % 2

def scaled (num den : Nat) (shift : Int) : Nat × Nat :=
  if 0 ≤ shift then (num, den * Nat.pow 2 shift.toNat) else (num * Nat.pow 2 (-shift).toNat, den)

def binaryOrder (num den : Nat) : Int :=
  let guess : Int := (Nat.log2 num : Int) - (Nat.log2 den : Int)
  let (n, d) := scaled num den guess
  if n < d then guess - 1 else guess

def nearest (negative : Bool) (num den : Nat) : Option Double :=
  if num = 0 then some (zero negative)
  else
    let shift := max (binaryOrder num den - (precision - 1 : Nat)) leastExponent
    let (n, d) := scaled num den shift
    let mantissa := roundHalfEven n d
    let (mantissa, shift) :=
      if mantissa = Nat.pow 2 precision then (Nat.pow 2 (precision - 1), shift + 1) else (mantissa, shift)
    if greatestExponent < shift then none else some ⟨negative, mantissa, shift⟩

def ofNat (n : Nat) : Option Double := nearest false n 1

def ratio (x : Double) : Nat × Nat :=
  if 0 ≤ x.exponent then (x.mantissa * Nat.pow 2 x.exponent.toNat, 1)
  else (x.mantissa, Nat.pow 2 (-x.exponent).toNat)

def mul (x y : Double) : Option Double :=
  let (a, b) := x.ratio
  let (c, d) := y.ratio
  nearest (x.negative != y.negative) (a * c) (b * d)

def div (x y : Double) : Option Double :=
  let (a, b) := x.ratio
  let (c, d) := y.ratio
  nearest (x.negative != y.negative) (a * d) (b * c)

def negate (x : Double) : Double := { x with negative := !x.negative }

def ofDecimal (negative : Bool) (significand : Nat) (exponent : Int) : Option Double :=
  if significand = 0 then some (zero negative)
  else
    let order := (Nat.toDigits 10 significand).length + exponent
    if order < -330 then some (zero negative)
    else if 320 < order then none
    else if 0 ≤ exponent then nearest negative (significand * Nat.pow 10 exponent.toNat) 1
    else nearest negative significand (Nat.pow 10 (-exponent).toNat)

end Double

end InkProject
