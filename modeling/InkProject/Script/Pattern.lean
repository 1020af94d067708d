import InkProject.Script.Command
set_option autoImplicit false

namespace InkProject.Script

inductive CharClass where
  | alnum
  | alpha
  | blank
  | cntrl
  | digit
  | graph
  | lower
  | print
  | punct
  | space
  | upper
  | xdigit
deriving DecidableEq, Repr

namespace CharClass

def names : List (String × CharClass) := [("alnum", alnum), ("alpha", alpha), ("blank", blank),
  ("cntrl", cntrl), ("digit", digit), ("graph", graph), ("lower", lower), ("print", print),
  ("punct", punct), ("space", space), ("upper", upper), ("xdigit", xdigit)]

def isGraph (char : Char) : Bool := '!' ≤ char && char ≤ '~'

def holds : CharClass → Char → Bool
  | alnum, char => char.isAlphanum
  | alpha, char => char.isAlpha
  | blank, char => isBlank char
  | cntrl, char => char < ' ' || char = '\x7f'
  | digit, char => char.isDigit
  | graph, char => isGraph char
  | lower, char => char.isLower
  | print, char => isGraph char || char = ' '
  | punct, char => isGraph char && !char.isAlphanum
  | space, char => char = ' ' || ('\t' ≤ char && char ≤ '\r')
  | upper, char => char.isUpper
  | xdigit, char => char.isDigit || ('a' ≤ char && char ≤ 'f') || ('A' ≤ char && char ≤ 'F')

def named? (text : Text) : Option (CharClass × Text) :=
  names.findSome? fun (name, found) =>
    let whole := ':' :: name.toList ++ [':', ']']
    if whole.isPrefixOf text then some (found, text.drop whole.length) else none

end CharClass

inductive Member where
  | range (low high : Char)
  | family (family : CharClass)
deriving DecidableEq, Repr

def Member.holds (char : Char) : Member → Bool
  | .range low high => low ≤ char && char ≤ high
  | .family found => found.holds char

inductive Mark where
  | char (char : Char)
  | one
  | many
  | among (wanted : Bool) (members : List Member)
deriving DecidableEq, Repr

def unescaped : Text → Option (Char × Text)
  | '\\' :: char :: rest => some (char, rest)
  | char :: rest => some (char, rest)
  | [] => none

mutual
def membersFrom : Nat → Bool → List Member → Text → Option (List Member × Text)
  | 0, _, _, _ => none
  | fuel + 1, first, read, text => match text with
    | [] => none
    | ']' :: rest =>
      if first then memberFrom fuel read ']' rest else some (read.reverse, rest)
    | '[' :: rest => match CharClass.named? rest with
      | some (found, rest) => membersFrom fuel false (.family found :: read) rest
      | none => memberFrom fuel read '[' rest
    | '\\' :: char :: rest => memberFrom fuel read char rest
    | char :: rest => memberFrom fuel read char rest

def memberFrom : Nat → List Member → Char → Text → Option (List Member × Text)
  | 0, _, _, _ => none
  | fuel + 1, read, low, text => match text with
    | '-' :: high :: rest =>
      if high = ']' then membersFrom fuel false (.range low low :: read) text
      else match unescaped (high :: rest) with
        | some (high, rest) => membersFrom fuel false (.range low high :: read) rest
        | none => none
    | _ => membersFrom fuel false (.range low low :: read) text
end

def set? (text : Text) : Option (Mark × Text) :=
  let (wanted, inner) := match text with
    | '!' :: rest => (false, rest)
    | _ => (true, text)
  (membersFrom (2 * text.length + 2) true [] inner).map fun (members, rest) => (.among wanted members, rest)

def marksFrom : Nat → Text → List Mark
  | 0, _ => []
  | _ + 1, [] => []
  | fuel + 1, '\\' :: char :: rest => .char char :: marksFrom fuel rest
  | fuel + 1, '*' :: rest => .many :: marksFrom fuel rest
  | fuel + 1, '?' :: rest => .one :: marksFrom fuel rest
  | fuel + 1, '[' :: rest => match set? rest with
    | some (mark, rest) => mark :: marksFrom fuel rest
    | none => .char '[' :: marksFrom fuel rest
  | fuel + 1, char :: rest => .char char :: marksFrom fuel rest

def marks (pattern : Text) : List Mark := marksFrom (pattern.length + 1) pattern

def Mark.accepts (char : Char) : Mark → Bool
  | .char wanted => char = wanted
  | .one | .many => true
  | .among wanted members => (members.any (·.holds char)) = wanted

def ways : List Mark → List (List Mark)
  | .many :: rest => (.many :: rest) :: ways rest
  | marks => [marks]

def after (char : Char) : List Mark → List (List Mark)
  | [] => []
  | .many :: rest => [.many :: rest]
  | mark :: rest => if mark.accepts char then [rest] else []

def withoutRepeats (found : List (List Mark)) : List (List Mark) :=
  found.foldr (fun marks kept =>
    if kept.any fun other => other.length = marks.length then kept else marks :: kept) []

def step (char : Char) (states : List (List Mark)) : List (List Mark) :=
  withoutRepeats (states.flatMap fun marks => (after char marks).flatMap ways)

def fittingFrom : Text → Nat → List (List Mark) → List Nat → List Nat
  | text, size, states, found =>
    let found := if states.any List.isEmpty then size :: found else found
    match text with
    | [] => found
    | char :: rest => if states.isEmpty then found else fittingFrom rest (size + 1) (step char states) found

def fitting (marks : List Mark) (text : Text) : List Nat := fittingFrom text 0 (ways marks) []

def fits (marks : List Mark) (text : Text) : Bool :=
  (text.foldl (fun states char => if states.isEmpty then [] else step char states) (ways marks)).any
    List.isEmpty

def withoutStart (long : Bool) (marks : List Mark) (text : Text) : Text :=
  match if long then (fitting marks text).head? else (fitting marks text).getLast? with
  | some size => text.drop size
  | none => text

def withoutEnd (long : Bool) (marks : List Mark) (text : Text) : Text :=
  (withoutStart long marks.reverse text.reverse).reverse

def hasMarks (pattern : Text) : Bool := pattern.any fun char => ['*', '?', '['].contains char

end InkProject.Script
