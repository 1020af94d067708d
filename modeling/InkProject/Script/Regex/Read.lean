import InkProject.Script.Arithmetic
import InkProject.Script.Regex.Basic
set_option autoImplicit false

namespace InkProject.Script

namespace Regex

structure Dialect where
  extended : Bool
  lenient : Bool
deriving DecidableEq, Repr

structure Reader where
  rest : Text
  groups : Nat := 0
  closed : List Nat := []
  idle : List Text := []

abbrev Parsing := EStateM String Reader

namespace Parsing

def invalidBefore : String := "Invalid preceding regular expression"
def unmatchedOpening : String := "Unmatched ( or \\("
def unmatchedClosing : String := "Unmatched ) or \\)"
def unmatchedBracket : String := "Unmatched [, [^, [:, [., or [="
def unmatchedBrace : String := "Unmatched \\\x7b"
def badBraces : String := "Invalid content of \\\x7b\\\x7d"
def badRange : String := "Invalid range end"

def drop (count : Nat) : Parsing Unit := modify fun reader => { reader with rest := reader.rest.drop count }

def sign? (dialect : Dialect) (text : Text) : Option (Char × Nat) :=
  match text with
  | '\\' :: char :: _ =>
    if !dialect.extended && ['(', ')', '{', '|', '+', '?'].contains char then some (char, 2) else none
  | char :: _ =>
    if char = '*' || (dialect.extended && ['(', ')', '{', '|', '+', '?'].contains char) then some (char, 1) else none
  | [] => none

def closedBy (mark : Char) : Text → Text → Option (Text × Text)
  | _, [] => none
  | _, [_] => none
  | read, first :: second :: rest =>
    if first = mark && second = ']' then some (read.reverse, rest)
    else closedBy mark (first :: read) (second :: rest)

def setChar : Text → Parsing (Char × Text)
  | '[' :: '.' :: rest => match closedBy '.' [] rest with
    | some ([char], rest) => return (char, rest)
    | some _ => throw "Invalid collation character"
    | none => throw unmatchedBracket
  | char :: rest => return (char, rest)
  | [] => throw unmatchedBracket

def membersFrom : Nat → Bool → List Member → Text → Parsing (List Member × Text)
  | 0, _, _, _ => throw unmatchedBracket
  | fuel + 1, first, read, text => do
    match text with
    | [] => throw unmatchedBracket
    | '[' :: ':' :: rest => match closedBy ':' [] rest with
      | some (name, rest) => match CharClass.names.find? fun (other, _) => other.toList = name with
        | some (_, found) => membersFrom fuel false (.family found :: read) rest
        | none => throw "Invalid character class name"
      | none => throw unmatchedBracket
    | '[' :: '=' :: rest => match closedBy '=' [] rest with
      | some ([char], rest) => membersFrom fuel false (.range char char :: read) rest
      | some _ => throw "Invalid collation character"
      | none => throw unmatchedBracket
    | _ =>
      if text.head? = some ']' && !first then return (read.reverse, text.drop 1)
      let (low, rest) ← setChar text
      match rest with
      | '-' :: ']' :: _ => membersFrom fuel false (.range low low :: read) rest
      | '-' :: high =>
        let (high, rest) ← setChar high
        if high < low then throw badRange
        membersFrom fuel false (.range low high :: read) rest
      | _ => membersFrom fuel false (.range low low :: read) rest

def set : Parsing Regex := do
  let text := (← get).rest
  let (wanted, inner) := match text with
    | '^' :: rest => (false, rest)
    | _ => (true, text)
  let (members, rest) ← membersFrom (text.length + 1) true [] inner
  modify ({ · with rest := rest })
  return .among wanted members

def number? (text : Text) : Option Nat × Text :=
  let (value, rest) := digitsFrom 10 0 text
  (if rest.length = text.length then none else some value, rest)

def most : Nat := 32767

def bounds (dialect : Dialect) (text : Text) : Except String (Nat × Option Nat × Text) :=
  let closing : Text := if dialect.extended then ['}'] else ['\\', '}']
  let (low, rest) := number? text
  let (high, rest) := match rest with
    | ',' :: rest => ((number? rest).1, (number? rest).2)
    | _ => (low, rest)
  let hasComma := (number? text).2.head? = some ','
  if closing.isPrefixOf rest && (low.isSome || hasComma) then
    let least := low.getD 0
    if high.any (· < least) then .error badBraces
    else if most < high.getD least then .error "Regular expression too big"
    else .ok (least, high, rest.drop closing.length)
  else .error (if rest.isEmpty then unmatchedBrace else badBraces)

def isPlainBrace (dialect : Dialect) (text : Text) : Bool :=
  dialect.extended && dialect.lenient && match bounds dialect text with
    | .ok _ => false
    | .error message => message = unmatchedBrace || (message = badBraces && !(text.contains '}' &&
        (text.takeWhile (· ≠ '}')).all fun char => char.isDigit || char = ','))

def repeats (dialect : Dialect) : Nat → Regex → Parsing Regex
  | 0, regex => return regex
  | fuel + 1, regex => do
    let text := (← get).rest
    match sign? dialect text with
    | some ('*', size) =>
      drop size
      repeats dialect fuel (.repeated 0 none regex)
    | some ('+', size) =>
      drop size
      repeats dialect fuel (.repeated 1 none regex)
    | some ('?', size) =>
      drop size
      repeats dialect fuel (.repeated 0 (some 1) regex)
    | some ('{', size) =>
      if isPlainBrace dialect (text.drop size) then return regex
      match bounds dialect (text.drop size) with
      | .ok (least, most, rest) =>
        modify ({ · with rest := rest })
        repeats dialect fuel (.repeated least most regex)
      | .error message => throw message
    | _ => return regex

def classes : List (Char × Bool × List Member) := [
  ('w', true, [.family .alnum, .range '_' '_']), ('W', false, [.family .alnum, .range '_' '_']),
  ('s', true, [.family .space]), ('S', false, [.family .space])]

def edges : List (Char × Edge) := [('<', .wordStart), ('>', .wordEnd), ('b', .wordEdge), ('B', .noWordEdge),
  ('\x60', .textStart), ('\'', .textEnd)]

def escaped (char : Char) : Parsing Regex := do
  match classes.lookup char, edges.lookup char with
  | some (wanted, members), _ => return .among wanted members
  | none, some edge => return .place edge
  | none, none =>
    if '1' ≤ char && char ≤ '9' then
      let number := char.toNat - '0'.toNat
      if (← get).closed.contains number then return .again number
      throw "Invalid back reference"
    return .letter char

def isLineEnd (dialect : Dialect) (rest : Text) : Bool :=
  dialect.extended || rest.isEmpty || match sign? dialect rest with
    | some (')', _) | some ('|', _) => true
    | _ => false

mutual
def alternatives (dialect : Dialect) : Nat → Bool → Parsing Regex
  | 0, _ => throw "Regular expression too big"
  | fuel + 1, inGroup => do
    let first ← branch dialect fuel inGroup true .nothing
    match sign? dialect (← get).rest with
    | some ('|', size) =>
      drop size
      return .either first (← alternatives dialect fuel inGroup)
    | _ => return first

def branch (dialect : Dialect) : Nat → Bool → Bool → Regex → Parsing Regex
  | 0, _, _, _ => throw "Regular expression too big"
  | fuel + 1, inGroup, atStart, read => do
    let text := (← get).rest
    let joined (next : Regex) : Regex := match read with
      | .nothing => next
      | _ => .both read next
    let add (size : Nat) (next : Regex) : Parsing Regex := do
      drop size
      branch dialect fuel inGroup false (joined (← repeats dialect text.length next))
    match sign? dialect text with
    | some ('|', _) => return read
    | some (')', size) =>
      if inGroup then return read
      else if dialect.extended && dialect.lenient then add size (.letter ')') else throw unmatchedClosing
    | some ('(', size) =>
      drop size
      modify fun reader => { reader with groups := reader.groups + 1 }
      let number := (← get).groups
      let inner ← alternatives dialect fuel true
      match sign? dialect (← get).rest with
      | some (')', size) =>
        modify fun reader => { reader with closed := number :: reader.closed }
        add size (.group number inner)
      | _ => throw unmatchedOpening
    | some (char, size) =>
      if dialect.extended then
        if char = '{' && isPlainBrace dialect (text.drop size) then add size (.letter '{')
        else if !dialect.lenient then throw invalidBefore
        else if char = '{' then match bounds dialect (text.drop size) with
          | .ok (_, _, rest) =>
            modify fun reader => { reader with rest := rest, idle := "\x7b...\x7d".toList :: reader.idle }
            branch dialect fuel inGroup atStart read
          | .error message => throw message
        else
          drop size
          modify fun reader => { reader with idle := [char] :: reader.idle }
          branch dialect fuel inGroup atStart read
      else if char = '{' && !dialect.lenient then throw invalidBefore
      else add size (.letter char)
    | none => match text with
      | [] => return read
      | ['\\'] => throw "Trailing backslash"
      | '\\' :: char :: _ => add 2 (← escaped char)
      | '.' :: _ => add 1 .any
      | '[' :: _ =>
        drop 1
        add 0 (← set)
      | '^' :: rest =>
        let isFirst := match read with
          | .nothing => atStart
          | _ => false
        if !isFirst && !dialect.extended then add 1 (.letter '^')
        else match dialect.extended && dialect.lenient, sign? dialect rest with
          | true, some (sign, size) =>
            if sign = '*' || sign = '+' || sign = '?' then
              drop (size + 1)
              modify fun reader => { reader with idle := [sign] :: reader.idle }
              branch dialect fuel inGroup atStart (joined (.repeated 0 none (.place .lineStart)))
            else add 1 (.place .lineStart)
          | _, _ =>
            drop 1
            branch dialect fuel inGroup atStart (joined (.place .lineStart))
      | '$' :: rest => if isLineEnd dialect rest then add 1 (.place .lineEnd) else add 1 (.letter '$')
      | char :: _ => add 1 (.letter char)
end

end Parsing

structure Parsed where
  regex : Regex
  groups : Nat
  idle : List Text

def parse (dialect : Dialect) (text : Text) : Except String Parsed :=
  match Parsing.alternatives dialect (2 * text.length + 2) false { rest := text } with
  | .ok regex reader => .ok ⟨regex, reader.groups, reader.idle.reverse⟩
  | .error message _ => .error message

end Regex

end InkProject.Script
