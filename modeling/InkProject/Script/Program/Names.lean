import InkProject.Script.Program.Basic
set_option autoImplicit false

namespace InkProject.Script.Program

open Shell

def always (status : Nat) : Program := fun _ _ => return status

def unescapeHex : Nat → Text → Text → Text × Bool
  | 0, read, _ => (read.reverse, false)
  | _ + 1, read, [] => (read.reverse, false)
  | fuel + 1, read, '\\' :: rest => match rest with
    | 'c' :: _ => (read.reverse, true)
    | '0' :: rest =>
      let digits := (rest.take 3).takeWhile isOctal
      unescapeHex fuel (octal digits :: read) (rest.drop digits.length)
    | 'x' :: rest =>
      let digits := (rest.take 2).takeWhile fun char => (digitValue? 16 char).isSome
      if digits.isEmpty then unescapeHex fuel ('x' :: '\\' :: read) rest
      else unescapeHex fuel (Char.ofNat (digitsFrom 16 0 digits).1 :: read) (rest.drop digits.length)
    | char :: rest => match plainEscapes.lookup char with
      | some meant => unescapeHex fuel (meant :: read) rest
      | none => unescapeHex fuel (char :: '\\' :: read) rest
    | [] => ((read.reverse ++ ['\\']), false)
  | fuel + 1, read, char :: rest => unescapeHex fuel (char :: read) rest

def echoOptions (word : Text) : Bool :=
  match word with
  | '-' :: letters => letters ≠ [] && letters.all fun letter => ['n', 'e', 'E'].contains letter
  | _ => false

def echo : Program := fun _ words => do
  let flags := (words.takeWhile echoOptions).flatten
  let text := joined (words.dropWhile echoOptions)
  let escapes := (flags.filter fun flag => flag = 'e' || flag = 'E').getLast? = some 'e'
  let (text, ended) := if escapes then unescapeHex (text.length + 1) [] text else (text, false)
  say (if flags.contains 'n' || ended then text else text ++ ['\n'])
  return 0

def printf : Program := fun _ words => do
  match if words.head? = some ['-', '-'] then words.drop 1 else words with
  | [] => misused 1 (ofString "missing operand")
  | format :: words =>
    let done := writeFormat format words
    say done.written.reverse
    for complaint in done.complaints.reverse do
      let (word, why) := complaint.splitAt ((complaint.length - ((complaint.reverse.takeWhile (· ≠ ':')).length)) - 1)
      report (cited word ++ why)
    return if done.failed || !done.complaints.isEmpty then 1 else 0

def baseOf (name suffix : Text) : Text :=
  let trimmed := (name.reverse.dropWhile (· = '/')).reverse
  let base := if trimmed.isEmpty then (if name.isEmpty then [] else ['/'])
    else (trimmed.reverse.takeWhile (· ≠ '/')).reverse
  if suffix ≠ [] && suffix ≠ base && suffix.isSuffixOf base then base.take (base.length - suffix.length) else base

def basename : Program := fun _ words => do
  let arguments ← arguments { letters := "as:z", inOrder := true, names := [("multiple", 'a', .none),
    ("suffix", 's', .required), ("zero", 'z', .none)] } words
  let sign := if arguments.has 'z' then '\x00' else '\n'
  let operands := arguments.operands
  if operands.isEmpty then misused 1 (ofString "missing operand")
  if arguments.has 'a' || arguments.has 's' then
    for name in operands do say (baseOf name ((arguments.last? 's').getD []) ++ [sign])
  else
    match operands[2]? with
    | some extra => misused 1 (ofString "extra operand " ++ cited extra)
    | none => say (baseOf (operands.headD []) (operands.getD 1 []) ++ [sign])
  return 0

def directoryOf (name : Text) : Text :=
  let trimmed := name.reverse.dropWhile (· = '/')
  let above := (trimmed.dropWhile (· ≠ '/')).dropWhile (· = '/')
  if !above.isEmpty then above.reverse
  else if name.head? = some '/' then ['/'] else ['.']

def dirname : Program := fun _ words => do
  let arguments ← arguments { letters := "z", names := [("zero", 'z', .none)] } words
  if arguments.operands.isEmpty then misused 1 (ofString "missing operand")
  for name in arguments.operands do
    say (directoryOf name ++ [if arguments.has 'z' then '\x00' else '\n'])
  return 0

def pwd : Program := fun _ words => do
  let arguments ← arguments { letters := "LP" } words
  if !arguments.operands.isEmpty then reportText "ignoring non-option arguments"
  sayLine (ofBytes (Disk.pathOf (← getDisk).cwd).bytes)
  return 0

def isInterval (word : Text) : Bool :=
  let digits := if (word.getLast?).any ['s', 'm', 'h', 'd'].contains then word.dropLast else word
  let whole := digits.takeWhile Char.isDigit
  let rest := digits.drop whole.length
  word = ofString "infinity" || match rest with
    | [] => whole ≠ []
    | '.' :: fraction => (whole ≠ [] || fraction ≠ []) && fraction.all Char.isDigit
    | _ => false

def sleep : Program := fun _ words => do
  let arguments ← arguments { letters := "" } words
  if arguments.operands.isEmpty then misused 1 (ofString "missing operand")
  let wrong := arguments.operands.filter (!isInterval ·)
  for word in wrong do report (ofString "invalid time interval " ++ cited word)
  if !wrong.isEmpty then
    referToHelp
    return 1
  return 0

def exported (shell : Shell) : List (Text × Text) :=
  shell.bindings.filterMap fun (name, held) =>
    if held.exported then held.value.map fun value => (name, value) else none

def export1 (name value : Text) : Running Unit :=
  rebind name (some { value := some value, exported := true })

def env : Program := fun call words => do
  let arguments ← arguments { letters := "iu:C:0vS:", inOrder := true, status := 125, names := [
    ("ignore-environment", 'i', .none), ("unset", 'u', .required), ("chdir", 'C', .required),
    ("null", '0', .none)] } words
  let (bare, operands) := match arguments.operands with
    | ['-'] :: rest => (true, rest)
    | operands => (false, operands)
  if bare || arguments.has 'i' then modify ({ · with bindings := [] })
  for (letter, value) in arguments.options do
    if letter = 'u' then rebind value none
  let settings := operands.takeWhile (·.contains '=')
  for word in settings do
    let name := word.takeWhile (· ≠ '=')
    export1 name (word.drop (name.length + 1))
  match arguments.last? 'C' with
  | some directory => match (← getDisk).locate true (pathOf directory) with
    | .ok (place, .dir _) => modify fun shell => { shell with machine.disk.cwd := place }
    | _ =>
      reportError (ofString "cannot change directory to " ++ quoted directory) .notFound
      leaveWith 125
  | none => pure ()
  match operands.drop settings.length with
  | [] =>
    for (name, value) in (exported (← get)).reverse do
      say (name ++ '=' :: value ++ [if arguments.has '0' then '\x00' else '\n'])
    return 0
  | name :: rest =>
    let error ← call name rest
    reportError (cited name) error
    if name.contains ' ' then
      reportText "use -[v]S to pass options in shebang lines"
    return if error = .notFound then 127 else 126

def readlink : Program := fun _ words => do
  let arguments ← arguments { letters := "femnqsvz", names := [("canonicalize", 'f', .none),
    ("canonicalize-existing", 'e', .none), ("canonicalize-missing", 'm', .none), ("no-newline", 'n', .none),
    ("quiet", 'q', .none), ("silent", 'q', .none), ("verbose", 'v', .none), ("zero", 'z', .none)] } words
  if arguments.operands.isEmpty then misused 1 (ofString "missing operand")
  let disk ← getDisk
  let canonical := arguments.lastOf ['f', 'e', 'm']
  let mut status := 0
  for name in arguments.operands do
    let found : Except IoError Text := match canonical with
      | none => match disk.locate false (pathOf name) with
        | .ok (_, .link target) => .ok (ofBytes target)
        | .ok _ => .error .invalid
        | .error error => .error error
      | some letter => match disk.locate true (pathOf name) with
        | .ok (place, _) => .ok (ofBytes (Disk.pathOf place).bytes)
        | .error error =>
          if letter = 'e' then .error error
          else match (disk.ending (pathOf name)).bind (·.place .notFound) with
            | .ok place => .ok (ofBytes (Disk.pathOf place).bytes)
            | .error error => .error error
    match found with
    | .ok text =>
      let sign : Text := if arguments.has 'n' then [] else if arguments.has 'z' then ['\x00'] else ['\n']
      say (text ++ sign)
    | .error error =>
      if arguments.has 'v' then reportError (quotedIfNeeded name) error
      status := 1
  return status

def realpath : Program := fun _ words => do
  let arguments ← arguments { letters := "eLmPqsz", names := [("canonicalize-existing", 'e', .none),
    ("canonicalize-missing", 'm', .none), ("quiet", 'q', .none), ("no-symlinks", 's', .none)] } words
  if arguments.operands.isEmpty then misused 1 (ofString "missing operand")
  let disk ← getDisk
  let mut status := 0
  for name in arguments.operands do
    let found : Except IoError Place := match disk.locate true (pathOf name) with
      | .ok (place, _) => .ok place
      | .error error =>
        if arguments.has 'e' then .error error
        else (disk.ending (pathOf name)).bind (·.place .notFound)
    match found with
    | .ok place => sayLine (ofBytes (Disk.pathOf place).bytes)
    | .error error =>
      if !arguments.has 'q' then reportError (quotedIfNeeded name) error
      status := 1
  return status

structure Step where
  value : Int
  places : Nat

def signed (word : Text) : Bool × Text :=
  match word with
  | '-' :: rest => (true, rest)
  | '+' :: rest => (false, rest)
  | rest => (false, rest)

def exponent? (word : Text) : Option Int :=
  match word with
  | [] => some 0
  | char :: rest =>
    let (negative, digits) := signed rest
    if (char = 'e' || char = 'E') && digits ≠ [] && digits.all Char.isDigit then
      let value := Int.ofNat (digitsFrom 10 0 digits).1
      some (if negative then -value else value)
    else none

def step? (word : Text) : Option Step :=
  let (negative, digits) := signed word
  let whole := digits.takeWhile Char.isDigit
  let rest := digits.drop whole.length
  let fraction := if rest.head? = some '.' then (rest.drop 1).takeWhile Char.isDigit else []
  let rest := if rest.head? = some '.' then rest.drop (fraction.length + 1) else rest
  if whole = [] && fraction = [] then none
  else (exponent? rest).map fun exponent =>
    let places := (Int.ofNat fraction.length - exponent).toNat
    let above := (exponent - Int.ofNat fraction.length).toNat
    let value := Int.ofNat ((digitsFrom 10 0 (whole ++ fraction)).1 * Nat.pow 10 above)
    ⟨if negative then -value else value, places⟩

def Step.scaled (places : Nat) (step : Step) : Int := step.value * Int.ofNat (Nat.pow 10 (places - step.places))

def Step.shown (places : Nat) (value : Int) : Text :=
  if places = 0 then signedDecimal value
  else
    let digits := decimal value.natAbs
    let digits := List.replicate (places + 1 - digits.length) '0' ++ digits
    let point := digits.length - places
    (if value < 0 then ['-'] else []) ++ digits.take point ++ '.' :: digits.drop point

def widened (width : Nat) (text : Text) : Text :=
  match text with
  | '-' :: digits => '-' :: List.replicate (width - text.length) '0' ++ digits
  | _ => List.replicate (width - text.length) '0' ++ text

def seqArguments : Nat → List Text → List (Char × Text) → Running (List (Char × Text) × List Text)
  | 0, words, read => return (read, words)
  | fuel + 1, words, read => do
    match words with
    | ['-', '-'] :: rest => return (read, rest)
    | ('-' :: char :: rest) :: others =>
      if char.isDigit || char = '.' then return (read, words)
      else
        let (read, others) ← match char with
          | '-' => do
            let (option, others) ← nameOf { letters := "", names := [("separator", 's', .required),
              ("format", 'f', .required), ("equal-width", 'w', .none)] } rest others
            pure (option :: read, others)
          | _ => lettersOf { letters := "f:s:w" } (char :: rest) others read
        seqArguments fuel others read
    | _ => return (read, words)

def directivesFrom : Nat → Text → List Text
  | 0, _ => []
  | fuel + 1, text => match text.dropWhile (· ≠ '%') with
    | '%' :: '%' :: rest => directivesFrom fuel rest
    | '%' :: rest => rest :: directivesFrom fuel rest
    | _ => []

def checkFormat (format : Text) : Running Unit := do
  let wrong (message : Text) : Running Unit := do
    report (ofString "format " ++ cited format ++ message)
    leaveWith 1
  match directivesFrom (format.length + 1) format with
  | [] => wrong (ofString " has no % directive")
  | rest :: others =>
    let isFlag (char : Char) : Bool := ['-', '+', '#', '0', ' ', '\''].contains char
    let rest := (rest.dropWhile isFlag).dropWhile Char.isDigit
    let rest := if rest.head? = some '.' then (rest.drop 1).dropWhile Char.isDigit else rest
    match rest with
    | [] => wrong (ofString " ends in %")
    | char :: _ =>
      if !(['e', 'f', 'g', 'a', 'E', 'F', 'G', 'A'].contains char) then
        wrong (ofString " has unknown %" ++ char :: ofString " directive")
      else if !others.isEmpty then wrong (ofString " has too many % directives")

def seq : Program := fun _ words => do
  let (options, operands) ← seqArguments (words.length + 1) words []
  match options.lookup 'f' with
  | some format => checkFormat format
  | none => pure ()
  if operands.isEmpty then misused 1 (ofString "missing operand")
  match operands[3]? with
  | some extra => misused 1 (ofString "extra operand " ++ cited extra)
  | none => pure ()
  let steps ← operands.mapM fun word => do
    match step? word with
    | some step => return step
    | none => misused 1 (ofString "invalid floating point argument: " ++ cited word)
  let one : Step := ⟨1, 0⟩
  let (first, step, last) := match steps with
    | [last] => (one, one, last)
    | [first, last] => (first, one, last)
    | first :: step :: last :: _ => (first, step, last)
    | [] => (one, one, one)
  if step.value = 0 then misused 1 (ofString "invalid Zero increment value: " ++ cited (operands.getD 1 []))
  let places := max first.places step.places
  let all := max places last.places
  let scale := Int.ofNat (Nat.pow 10 (all - places))
  let start := first.scaled all
  let by1 := step.scaled all
  let count := ((last.scaled all - start) / by1 + 1).toNat
  let numbers := (List.range count).map fun index => Step.shown places ((start + by1 * Int.ofNat index) / scale)
  let width := if (options.lookup 'w').isSome then
      ((numbers.head?.map List.length).getD 0).max ((numbers.getLast?.map List.length).getD 0)
    else 0
  let separator := (options.lookup 's').getD ['\n']
  let format := options.lookup 'f'
  let texts := numbers.map fun number => match format with
    | some format => (writeFormat format [number]).written.reverse
    | none => widened width number
  if !texts.isEmpty then say (separator.intercalate texts ++ ['\n'])
  return 0

def test : Program := fun _ words => do
  match Condition.check (words.length + 1) (← get) words with
  | .ok answer => return if answer then 0 else 1
  | .error message =>
    report message
    return 2

def bracket : Program := fun call words => do
  if words.getLast? = some [']'] then test call words.dropLast
  else
    reportText "missing ']'"
    return 2

end InkProject.Script.Program
