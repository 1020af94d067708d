import InkProject.Json.Read
import InkProject.Toml.Basic
set_option autoImplicit false

namespace InkProject.Toml

def isDigit (char : Char) : Bool := '0' ≤ char && char ≤ '9'
def isWordChar (char : Char) : Bool :=
  char.isAlphanum || char = '_' || char = '+' || char = '-' || char = '.' || char = ':'

def digitIn? (base : Nat) (char : Char) : Option Nat :=
  (Json.hexDigit? char).filter (· < base)

def digitsFrom (base : Nat) (value : Nat) : List Char → Option Nat
  | [] => some value
  | '_' :: char :: rest => (digitIn? base char).bind fun d => digitsFrom base (value * base + d) rest
  | char :: rest => (digitIn? base char).bind fun d => digitsFrom base (value * base + d) rest

def digits? (base : Nat) : List Char → Option Nat
  | [] => none
  | char :: rest => (digitIn? base char).bind fun d => digitsFrom base d rest

def signed : List Char → Bool × List Char
  | '-' :: rest => (true, rest)
  | '+' :: rest => (false, rest)
  | text => (false, text)

def decimal? (text : List Char) : Option Nat :=
  if text.head? = some '0' ∧ text.length ≠ 1 then none else digits? 10 text

def bounded (value : Int) : Option Toml :=
  if Json.least ≤ value ∧ value ≤ Json.greatestSigned then some (.integer value) else none

def integer? (word : List Char) : Option Toml :=
  match word with
  | '0' :: 'x' :: rest => (digits? 16 rest).bind fun n => bounded n
  | '0' :: 'o' :: rest => (digits? 8 rest).bind fun n => bounded n
  | '0' :: 'b' :: rest => (digits? 2 rest).bind fun n => bounded n
  | _ =>
    let (negative, rest) := signed word
    (decimal? rest).bind fun n => bounded (if negative then -n else n)

def cutAt (stop : Char → Bool) (text : List Char) : List Char × Option (List Char) :=
  match text.dropWhile (!stop ·) with
  | [] => (text, none)
  | _ :: rest => (text.takeWhile (!stop ·), some rest)

def ofDecimal (negative : Bool) (significand : Nat) (exponent : Int) : Option Toml :=
  match Double.ofDecimal negative significand exponent with
  | some value => some (.double value)
  | none => if negative then some (.infinite true) else none

def double? (word : List Char) : Option Toml :=
  let (negative, rest) := signed word
  if rest = ['i', 'n', 'f'] then some (.infinite negative)
  else if rest = ['n', 'a', 'n'] then some .notANumber
  else
    let (mantissa, power) := cutAt (fun c => c = 'e' || c = 'E') rest
    let (whole, fraction) := cutAt (· = '.') mantissa
    if power.isNone ∧ fraction.isNone then none
    else do
      let whole ← decimal? whole
      let (significand, places) ← match fraction with
        | none => some (whole, 0)
        | some digits => do
          let value ← digits? 10 digits
          let places := (digits.filter isDigit).length
          some (whole * Nat.pow 10 places + value, places)
      let exponent ← match power with
        | none => some (0 : Int)
        | some power =>
          let (down, digits) := signed power
          (digits? 10 digits).map fun n => if down then -(n : Int) else n
      ofDecimal negative significand (exponent - places)

def twoDigits? (low high : Nat) : List Char → Option (Nat × List Char)
  | a :: b :: rest => do
    let n := (← digitIn? 10 a) * 10 + (← digitIn? 10 b)
    if low ≤ n ∧ n ≤ high then some (n, rest) else none
  | _ => none

def expect (char : Char) : List Char → Option (List Char)
  | c :: rest => if c = char then some rest else none
  | [] => none

def lastDay (year month : Nat) : Nat :=
  if month = 2 then
    if year % 4 = 0 ∧ (year % 100 ≠ 0 ∨ year % 400 = 0) then 29 else 28
  else if month = 4 ∨ month = 6 ∨ month = 9 ∨ month = 11 then 30
  else 31

def date? (text : List Char) : Option (List Char) := do
  let (century, rest) ← twoDigits? 0 99 text
  let (year, rest) ← twoDigits? 0 99 rest
  let (month, rest) ← twoDigits? 1 12 (← expect '-' rest)
  let (_, rest) ← twoDigits? 1 (lastDay (century * 100 + year) month) (← expect '-' rest)
  return rest

def time? (text : List Char) : Option (List Char) := do
  let (_, rest) ← twoDigits? 0 23 text
  let (_, rest) ← twoDigits? 0 59 (← expect ':' rest)
  let (_, rest) ← twoDigits? 0 60 (← expect ':' rest)
  match rest with
  | '.' :: digit :: rest => if isDigit digit then some (rest.dropWhile isDigit) else none
  | _ => some rest

def isOffset (text : List Char) : Bool :=
  match text with
  | ['Z'] | ['z'] => true
  | sign :: rest =>
    (sign = '+' || sign = '-') && (do
      let (_, rest) ← twoDigits? 0 23 rest
      let (_, rest) ← twoDigits? 0 59 (← expect ':' rest)
      return rest.isEmpty).getD false
  | [] => false

def isTime (text : List Char) : Bool := time? text = some []
def isTimeWithOffset (text : List Char) : Bool :=
  match time? text with
  | some rest => rest.isEmpty || isOffset rest
  | none => false

def isMoment (word : List Char) : Bool :=
  isTime word || match date? word with
    | some [] => true
    | some (mark :: rest) => (mark = 'T' || mark = 't' || mark = ' ') && isTimeWithOffset rest
    | none => false

def scalar? (word : List Char) : Option Toml :=
  if word = ['t', 'r', 'u', 'e'] then some (.boolean true)
  else if word = ['f', 'a', 'l', 's', 'e'] then some (.boolean false)
  else if isMoment word then some .moment
  else (integer? word).or (double? word)

def scalar (text : List Char) : Option (Toml × List Char) :=
  let word := text.takeWhile isWordChar
  let rest := text.dropWhile isWordChar
  let later := match rest with
    | ' ' :: rest => rest.takeWhile isWordChar
    | _ => []
  if date? word = some [] ∧ isTimeWithOffset later then
    some (.moment, rest.drop (later.length + 1))
  else (scalar? word).map (·, rest)

end InkProject.Toml
