import InkProject.Number.Double
set_option autoImplicit false

namespace InkProject.Shortest

structure Digits where
  digits : Nat
  power : Int
deriving DecidableEq, Repr

def tenfold (num den : Nat) (power : Int) : Nat × Nat :=
  if 0 ≤ power then (num, den * Nat.pow 10 power.toNat) else (num * Nat.pow 10 (-power).toNat, den)

-- What rounds to the double, as bounds in quarters of its last bit; the bounds
-- themselves round to it when the mantissa is even.
structure Interval where
  low : Nat
  mid : Nat
  high : Nat
  unit : Nat × Nat
  closed : Bool

def interval (x : Double) : Interval where
  low := if x.mantissa = Nat.pow 2 (Double.precision - 1) ∧ x.exponent ≠ Double.leastExponent
    then 4 * x.mantissa - 1 else 4 * x.mantissa - 2
  mid := 4 * x.mantissa
  high := 4 * x.mantissa + 2
  unit := Double.ratio ⟨false, 1, x.exponent - 2⟩
  closed := x.mantissa % 2 = 0

def Interval.contains (bounds : Interval) (digits : Nat) (power : Int) : Bool :=
  let (u, d) := bounds.unit
  let (n, m) := tenfold digits 1 (-power)
  let value := n * d
  let low := bounds.low * u * m
  let high := bounds.high * u * m
  if bounds.closed then low ≤ value && value ≤ high else low < value && value < high

def decimalOrder (num den : Nat) : Int :=
  (Double.binaryOrder num den * 30103) / 100000

inductive Tie where
  | even
  | above
deriving DecidableEq, Repr

def onGrid (tie : Tie) (bounds : Interval) (power : Int) : Option Digits :=
  let (u, d) := bounds.unit
  let (num, den) := tenfold (bounds.mid * u) d power
  let below := num / den
  let twice := 2 * (num % den)
  let nearerAbove := den < twice || (twice == den && (tie = .above || below % 2 == 1))
  let (first, second) := if nearerAbove then (below + 1, below) else (below, below + 1)
  if bounds.contains first power then some ⟨first, power⟩
  else if bounds.contains second power then some ⟨second, power⟩
  else none

def search (tie : Tie) (bounds : Interval) : Nat → Int → Digits
  | 0, power => ⟨0, power⟩
  | fuel + 1, power => match onGrid tie bounds power with
    | some found => found
    | none => search tie bounds fuel (power - 1)

def dropZeros : Nat → Digits → Digits
  | 0, d => d
  | fuel + 1, d =>
    if d.digits ≠ 0 ∧ d.digits % 10 = 0 then dropZeros fuel ⟨d.digits / 10, d.power + 1⟩ else d

def ofDouble (tie : Tie) (x : Double) : Digits :=
  if x.isZero then ⟨0, 0⟩
  else
    let bounds := interval x
    let (u, d) := bounds.unit
    let order := decimalOrder (bounds.mid * u) d
    dropZeros 20 (search tie bounds 24 (order + 2))

structure Layout where
  plainWithin : Option (Int × Int)
  tie : Tie

def padded (count : Nat) : List Char := List.replicate count '0'

def plain (digits : List Char) (power : Int) : List Char :=
  if 0 ≤ power then digits ++ padded power.toNat ++ ['.', '0']
  else
    let places := (-power).toNat
    if digits.length ≤ places then
      ['0', '.'] ++ padded (places - digits.length) ++ digits
    else
      digits.take (digits.length - places) ++ ['.'] ++ digits.drop (digits.length - places)

def scientific (digits : List Char) (first : Int) : List Char :=
  let fraction := match digits.tail with
    | [] => []
    | rest => '.' :: rest
  digits.take 1 ++ fraction ++ ['e', if first < 0 then '-' else '+'] ++
    Nat.toDigits 10 first.natAbs

def text (layout : Layout) (x : Double) : List Char :=
  let d := ofDouble layout.tie x
  let digits := Nat.toDigits 10 d.digits
  let first : Int := d.power + (digits.length - 1 : Nat)
  let sign := if x.negative then ['-'] else []
  let body := match layout.plainWithin with
    | none => plain digits d.power
    | some (low, high) =>
      if low ≤ first ∧ first ≤ high then plain digits d.power else scientific digits first
  sign ++ body

end InkProject.Shortest
