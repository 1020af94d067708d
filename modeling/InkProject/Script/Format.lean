import InkProject.Script.Real
set_option autoImplicit false

namespace InkProject.Script

def isOctal (char : Char) : Bool := '0' ≤ char && char ≤ '7'

def octal (digits : Text) : Char := Char.ofNat ((digitsFrom 8 0 digits).1 % 256)

def plainEscapes : List (Char × Char) := [('a', '\x07'), ('b', '\x08'), ('e', '\x1b'), ('f', '\x0c'),
  ('n', '\n'), ('r', '\r'), ('t', '\t'), ('v', '\x0b'), ('\\', '\\')]

def escaped (text : Text) : Char × Text :=
  match text with
  | [] => ('\\', [])
  | char :: rest =>
    if isOctal char then
      let digits := (text.take 3).takeWhile isOctal
      (octal digits, text.drop digits.length)
    else match plainEscapes.lookup char with
      | some meant => (meant, rest)
      | none => ('\\', text)

def unescapeFrom : Nat → Text → Text → Text × Bool
  | 0, read, _ => (read.reverse, false)
  | _ + 1, read, [] => (read.reverse, false)
  | fuel + 1, read, '\\' :: rest => match rest with
    | 'c' :: _ => (read.reverse, true)
    | '0' :: digit :: more =>
      let (meant, rest) := escaped (if isOctal digit then digit :: more else rest)
      unescapeFrom fuel (meant :: read) rest
    | _ =>
      let (meant, rest) := escaped rest
      unescapeFrom fuel (meant :: read) rest
  | fuel + 1, read, char :: rest => unescapeFrom fuel (char :: read) rest

def unescape (text : Text) : Text × Bool := unescapeFrom (text.length + 1) [] text

def joined (words : List Text) : Text := [' '].intercalate words

def echoText (words : List Text) : Text :=
  let (silent, words) := match words with
    | ['-', 'n'] :: rest => (true, rest)
    | _ => (false, words)
  let (text, ended) := unescape (joined words)
  if silent || ended then text else text ++ ['\n']

structure Directive where
  left : Bool := false
  plus : Bool := false
  space : Bool := false
  zeros : Bool := false
  marked : Bool := false
  width : Nat := 0
  precision : Option Nat := none

namespace Directive

def pad (directive : Directive) (text : Text) : Text :=
  let missing := List.replicate (directive.width - text.length) ' '
  if directive.left then text ++ missing else missing ++ text

def padNumber (directive : Directive) (zeros : Bool) (sign digits : Text) : Text :=
  if zeros && !directive.left then
    sign ++ List.replicate (directive.width - sign.length - digits.length) '0' ++ digits
  else directive.pad (sign ++ digits)

def sign (directive : Directive) (negative : Bool) : Text :=
  if negative then ['-'] else if directive.plus then ['+'] else if directive.space then [' '] else []

def digits (directive : Directive) (base value : Nat) : Text :=
  match directive.precision with
  | some 0 => if value = 0 then [] else Nat.toDigits base value
  | some size =>
    let all := Nat.toDigits base value
    List.replicate (size - all.length) '0' ++ all
  | none => Nat.toDigits base value

def signedText (directive : Directive) (value : Int) : Text :=
  directive.padNumber (directive.zeros && directive.precision.isNone) (directive.sign (value < 0))
    (directive.digits 10 value.natAbs)

def unsignedText (directive : Directive) (letter : Char) (value : Nat) : Text :=
  let zeros := directive.zeros && directive.precision.isNone
  match letter with
  | 'o' =>
    let all := directive.digits 8 value
    directive.padNumber zeros [] (if directive.marked && all.head? ≠ some '0' then '0' :: all else all)
  | 'x' | 'X' =>
    let text := directive.padNumber zeros (if directive.marked && value ≠ 0 then ['0', 'x'] else [])
      (directive.digits 16 value)
    if letter = 'X' then text.map Char.toUpper else text
  | _ => directive.padNumber zeros [] (directive.digits 10 value)

def realText (directive : Directive) (letter : Char) (value : Real) : Text :=
  let sign := directive.sign value.isNegative
  let text := match value with
    | .infinite _ => directive.pad (sign ++ ['i', 'n', 'f'])
    | .notANumber => directive.pad (sign ++ ['n', 'a', 'n'])
    | .finite value =>
      let precision := directive.precision.getD 6
      let body := match letter.toLower with
        | 'f' => Real.fixed directive.marked precision value
        | 'e' => Real.scientific directive.marked precision value
        | 'g' => Real.general directive.marked precision value
        | _ => Real.hexadecimal directive.marked directive.precision value
      match body with
      | '0' :: 'x' :: rest => directive.padNumber directive.zeros (sign ++ ['0', 'x']) rest
      | _ => directive.padNumber directive.zeros sign body
  if letter.isUpper then text.map Char.toUpper else text

def cut (directive : Directive) (text : Text) : Text :=
  match directive.precision with
  | some size => text.take size
  | none => text

end Directive

structure Writing where
  words : List Text
  written : Text := []
  complaints : List Text := []
  failed : Bool := false

namespace Writing

def nextWord (state : Writing) : Option Text × Writing :=
  match state.words with
  | word :: words => (some word, { state with words := words })
  | [] => (none, state)

def add (text : Text) (state : Writing) : Writing :=
  { state with written := text.reverse ++ state.written }

def complain (word : Text) (message : String) (state : Writing) : Writing :=
  { state with complaints := (word ++ ofString s!": {message}") :: state.complaints }

def outOfRange : String := "Numerical result out of range"

def check (word rest : Text) (inRange : Bool) (state : Writing) : Writing :=
  if rest ≠ [] then
    state.complain word
      (if rest.length = word.length then "expected numeric value" else "not completely converted")
  else if inRange then state else state.complain word outOfRange

def quotedValue? (word : Text) : Option Nat :=
  match word with
  | '\'' :: rest | '"' :: rest => some ((rest.head?.map Char.toNat).getD 0)
  | _ => none

def nextInteger (signed : Bool) (state : Writing) : Int × Writing :=
  match state.nextWord with
  | (none, state) => (0, state)
  | (some word, state) => match quotedValue? word with
    | some value => (Int.ofNat value, state)
    | none => match signed? true word with
      | none => (0, state.check word word true)
      | some (value, rest) =>
        let low := if signed then least else -18446744073709551615
        let high := if signed then greatest else 18446744073709551615
        let inRange := low ≤ value && value ≤ high
        let kept := if inRange then value else if signed then max low (min high value) else high
        (kept, state.check word rest inRange)

def nextReal (state : Writing) : Real × Writing :=
  match state.nextWord with
  | (none, state) => (.zero, state)
  | (some word, state) => match quotedValue? word with
    | some value => (.ofInt (Int.ofNat value), state)
    | none => match Real.read? word with
      | none => (.zero, state.check word word true)
      | some (value, inRange, rest) => (value, state.check word rest inRange)

def nextSize (text : Text) (state : Writing) : Option Int × Text × Writing :=
  match text with
  | '*' :: rest =>
    let (value, state) := state.nextInteger true
    (some value, rest, state)
  | _ =>
    let (value, rest) := digitsFrom 10 0 text
    (if rest.length = text.length then none else some (Int.ofNat value), rest, state)

def value? (directive : Directive) (letter : Char) (state : Writing) : Option (Writing × Bool) :=
  match letter with
  | 's' =>
    let (word, state) := state.nextWord
    some (state.add (directive.pad (directive.cut (word.getD []))), false)
  | 'b' =>
    let (word, state) := state.nextWord
    let (text, ended) := unescape (word.getD [])
    some (state.add (directive.pad (directive.cut text)), ended)
  | 'c' =>
    let (word, state) := state.nextWord
    some (state.add (directive.pad [((word.getD []).head?).getD '\x00']), false)
  | 'd' | 'i' =>
    let (value, state) := state.nextInteger true
    some (state.add (directive.signedText value), false)
  | 'u' | 'o' | 'x' | 'X' =>
    let (value, state) := state.nextInteger false
    some (state.add (directive.unsignedText letter (Arithmetic.bits value)), false)
  | 'a' | 'A' | 'e' | 'E' | 'f' | 'F' | 'g' | 'G' =>
    let (value, state) := state.nextReal
    some (state.add (directive.realText letter value), false)
  | _ => none

def isFlag (char : Char) : Bool := ['#', '-', '+', ' ', '0'].contains char

def turn : Nat → Text → Writing → Writing × Bool
  | 0, _, state => (state, true)
  | _ + 1, [], state => (state, false)
  | fuel + 1, '\\' :: rest, state =>
    let (meant, rest) := escaped rest
    turn fuel rest (state.add [meant])
  | fuel + 1, '%' :: '%' :: rest, state => turn fuel rest (state.add ['%'])
  | fuel + 1, '%' :: rest, state =>
    let flags := rest.takeWhile isFlag
    let (width, afterWidth, state) := state.nextSize (rest.drop flags.length)
    let (precision, afterBoth, state) := match afterWidth with
      | '.' :: more =>
        let (size, more, state) := state.nextSize more
        (some (size.getD 0), more, state)
      | _ => (none, afterWidth, state)
    let width := width.getD 0
    let directive : Directive := {
      left := flags.contains '-' || width < 0
      plus := flags.contains '+', space := flags.contains ' '
      zeros := flags.contains '0', marked := flags.contains '#'
      width := width.natAbs
      precision := (precision.filter (0 ≤ ·)).map Int.toNat }
    match afterBoth with
    | [] => ({ state with complaints := ofString "missing format character" :: state.complaints, failed := true }, true)
    | letter :: after => match state.value? directive letter with
      | some (state, ended) => if ended then (state, true) else turn fuel after state
      | none =>
        let shown := '%' :: rest.take (rest.length - after.length)
        (Writing.complain shown "invalid directive" { state with failed := true }, true)
  | fuel + 1, char :: rest, state => turn fuel rest (state.add [char])

def turns (format : Text) : Nat → Writing → Writing
  | 0, state => state
  | fuel + 1, state =>
    let (done, ended) := turn (format.length + 1) format state
    if ended || done.words.isEmpty || done.words.length = state.words.length then done
    else turns format fuel done

end Writing

def writeFormat (format : Text) (words : List Text) : Writing :=
  Writing.turns format (words.length + 1) { words := words }

end InkProject.Script
