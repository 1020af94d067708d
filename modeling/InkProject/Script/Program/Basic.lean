import InkProject.Script.Call
set_option autoImplicit false

namespace InkProject.Script

abbrev Program := Caller → List Text → Running Nat

namespace Program

open Shell

def report (message : Text) : Running Unit := do
  complain ((← get).name ++ ofString ": " ++ message ++ ['\n'])

def reportText (message : String) : Running Unit := report (ofString message)

def referToHelp : Running Unit := do
  complain (ofString "Try '" ++ (← get).name ++ ofString " --help' for more information.\n")

def misused {α : Type} (status : Nat) (message : Text) : Running α := do
  report message
  referToHelp
  leaveWith status

def isPlain (char : Char) : Bool :=
  char.isAlphanum || ['%', '+', ',', '-', '.', '/', ':', '@', ']', '_', '{', '}', '#', '~'].contains char

def isShown (char : Char) : Bool := ' ' ≤ char && char ≤ '~'

def isBare (name : Text) : Bool :=
  name ≠ [] && name.all isPlain && name ≠ ['{'] && name ≠ ['}'] &&
    !((name.head?).any fun char => char = '#' || char = '~')

def controlLetters : List (Char × Char) := [('\x07', 'a'), ('\x08', 'b'), ('\t', 't'), ('\n', 'n'),
  ('\x0b', 'v'), ('\x0c', 'f'), ('\r', 'r')]

def escapedChar (char : Char) : Text :=
  match controlLetters.lookup char with
  | some letter => ['\\', letter]
  | none =>
    let digits := Nat.toDigits 8 char.toNat
    '\\' :: List.replicate (3 - digits.length) '0' ++ digits

def insideQuotes : Bool → Text → Text
  | _, [] => ['\'']
  | escaping, char :: rest =>
    if !isShown char then
      (if escaping then [] else ['\'', '$', '\'']) ++ escapedChar char ++ insideQuotes true rest
    else if char = '\'' then ['\'', '\\', '\'', '\''] ++ insideQuotes false rest
    else (if escaping then ['\'', '\''] else []) ++ char :: insideQuotes false rest

def fitsDouble (name : Text) : Bool :=
  name.contains '\'' && name.all fun char => isPlain char || char = '\'' || char = ' '

def quoted (name : Text) : Text :=
  if fitsDouble name then '"' :: name ++ ['"'] else '\'' :: insideQuotes false name

def quotedIfNeeded (name : Text) : Text := if isBare name then name else quoted name

def cited (word : Text) : Text :=
  '\'' :: (word.flatMap fun char =>
    if char = '\'' || char = '\\' then ['\\', char] else if isShown char then [char] else escapedChar char) ++
    ['\'']

def reportError (shown : Text) (error : IoError) : Running Unit :=
  report (shown ++ ofString (": " ++ reason error))

inductive Operand where
  | none
  | required
  | optional
deriving DecidableEq, Repr

structure Grammar where
  letters : String
  names : List (String × Char × Operand) := []
  inOrder : Bool := false
  status : Nat := 1
  usage : String := ""
  named : Bool := false

structure Arguments where
  options : List (Char × Text) := []
  operands : List Text := []

namespace Arguments

def has (arguments : Arguments) (letter : Char) : Bool := arguments.options.any fun (other, _) => other = letter

def last? (arguments : Arguments) (letter : Char) : Option Text :=
  (arguments.options.reverse.find? fun (other, _) => other = letter).map Prod.snd

def lastOf (arguments : Arguments) (letters : List Char) : Option Char :=
  (arguments.options.reverse.find? fun (other, _) => letters.contains other).map Prod.fst

end Arguments

def misusedFor {α : Type} (grammar : Grammar) (message : Text) : Running α := do
  report message
  complain (ofString grammar.usage)
  if grammar.named then complain ((← get).name ++ [':', ' '])
  referToHelp
  leaveWith grammar.status

def lettersOf (grammar : Grammar) : Text → List Text → List (Char × Text) →
    Running (List (Char × Text) × List Text)
  | [], words, read => return (read, words)
  | letter :: rest, words, read => do
    match (grammar.letters.toList).dropWhile (· ≠ letter) with
    | _ :: ':' :: _ =>
      if rest ≠ [] then return ((letter, rest) :: read, words)
      else match words with
        | word :: words => return ((letter, word) :: read, words)
        | [] => misusedFor grammar (ofString s!"option requires an argument -- '{letter}'")
    | [] => misusedFor grammar (ofString "invalid option -- '" ++ [letter, '\''])
    | _ => lettersOf grammar rest words ((letter, []) :: read)

def nameOf (grammar : Grammar) (word : Text) (words : List Text) : Running ((Char × Text) × List Text) := do
  let name := word.takeWhile (· ≠ '=')
  let value := (word.drop name.length).drop 1
  let hasValue := word.length ≠ name.length
  let all := grammar.names ++ [("help", 'h', Operand.none), ("version", 'v', Operand.none)]
  let shown := ofString "'--" ++ name ++ ['\'']
  let fitting := all.filter fun (other, _) => name.isPrefixOf other.toList
  let exact := fitting.filter fun (other, _) => other.toList = name
  match if exact.isEmpty then fitting else exact with
  | [(full, letter, operand)] =>
    let asked := ofString s!"'--{full}'"
    if (full = "help" || full = "version") && !(grammar.names.any fun (other, _) => other = full) then leaveWith 0
    match operand with
    | .none =>
      if hasValue then misusedFor grammar (ofString "option " ++ asked ++ ofString " doesn't allow an argument")
      return ((letter, []), words)
    | .required =>
      if hasValue then return ((letter, value), words)
      else match words with
        | word :: words => return ((letter, word), words)
        | [] => misusedFor grammar (ofString "option " ++ asked ++ ofString " requires an argument")
    | .optional => return ((letter, value), words)
  | [] => misusedFor grammar (ofString "unrecognized option " ++ ofString "'--" ++ word ++ ['\''])
  | several =>
    let names := several.flatMap fun (other, _) => ofString s!" '--{other}'"
    misusedFor grammar (ofString "option " ++ shown ++ ofString " is ambiguous; possibilities:" ++ names)

def argumentsFrom (grammar : Grammar) : Nat → List Text → List (Char × Text) → List Text → Running Arguments
  | 0, _, read, others => return ⟨read.reverse, others.reverse⟩
  | fuel + 1, words, read, others => do
    match words with
    | [] => return ⟨read.reverse, others.reverse⟩
    | ['-', '-'] :: rest => return ⟨read.reverse, others.reverse ++ rest⟩
    | ('-' :: '-' :: name) :: rest =>
      let (option, rest) ← nameOf grammar name rest
      argumentsFrom grammar fuel rest (option :: read) others
    | ('-' :: letter :: letters) :: rest =>
      let (read, rest) ← lettersOf grammar (letter :: letters) rest read
      argumentsFrom grammar fuel rest read others
    | word :: rest =>
      if grammar.inOrder then return ⟨read.reverse, others.reverse ++ word :: rest⟩
      else argumentsFrom grammar fuel rest read (word :: others)

def arguments (grammar : Grammar) (words : List Text) : Running Arguments :=
  argumentsFrom grammar (words.length + 1) words [] []

def content (name : Text) : Running (Except IoError Text) :=
  if name = ['-'] then takeAll 0 else readNamed name

def linesFrom : Text → Text → List Text
  | [], [] => []
  | read, [] => [read.reverse]
  | read, '\n' :: rest => ('\n' :: read).reverse :: linesFrom [] rest
  | read, char :: rest => linesFrom (char :: read) rest

def linesOf (text : Text) : List Text := linesFrom [] text

def bare (line : Text) : Text := if line.getLast? = some '\n' then line.dropLast else line

def ended (line : Text) : Text := if line.getLast? = some '\n' then line else line ++ ['\n']

def below (directory name : Text) : Text :=
  if directory.getLast? = some '/' then directory ++ name else directory ++ '/' :: name

def orInput (names : List Text) : List Text := if names.isEmpty then [['-']] else names

end Program

end InkProject.Script
