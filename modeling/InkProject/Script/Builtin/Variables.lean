import InkProject.Script.Builtin.Basic
set_option autoImplicit false

namespace InkProject.Script.Builtin

open Shell

def sortedByName {α : Type} (entries : List (Text × α)) : List (Text × α) :=
  entries.mergeSort fun a b => decide (toBytes a.1 ≤ toBytes b.1)

def showVariables (front : Text) (shown : Variable → Bool) : Running Unit := do
  for (name, held) in sortedByName (← get).bindings do
    if shown held then
      let value := match held.value with
        | some value => '=' :: quoted value
        | none => []
      sayLine (front ++ name ++ value)

def splitAssignment (word : Text) : Text × Option Text :=
  let name := word.takeWhile (· ≠ '=')
  match word.drop name.length with
  | _ :: value => (name, some value)
  | [] => (name, none)

def declare (word : Text) (mark : Variable → Variable) : Running Unit := do
  let (name, value) := splitAssignment word
  match value with
  | some value => assign name value
  | none => if !isName name then fail (name ++ ofString ": bad variable name")
  rebind name (some (mark (((← get).binding? name).getD {})))

def declaring (name : String) (mark : Variable → Variable) (isMarked : Variable → Bool) : Builtin :=
  ⟨name.toList, true, true, fun _ words => do
    let (flags, words) ← options "p" words
    if flags.isEmpty && !words.isEmpty then
      for word in words do declare word mark
    else showVariables (name.toList ++ [' ']) isMarked
    return 0⟩

def «export» : Builtin := declaring "export" ({ · with exported := true }) Variable.exported
def readonly : Builtin := declaring "readonly" ({ · with readOnly := true }) Variable.readOnly

def «local» : Builtin :=
  ⟨"local".toList, true, true, fun _ words => do
    if (← get).shadowed.isEmpty then failWith "not in a function"
    for word in words do
      let (name, value) := splitAssignment word
      shadow name
      match value with
      | some value => assign name value
      | none => if !isName name then fail (name ++ ofString ": bad variable name")
    return 0⟩

def unsetting : Builtin := special "unset" fun _ words => do
  let (flags, names) ← options "vf" words
  let ofFunctions := (flags.getLast?).any fun (flag, _) => flag = 'f'
  for name in names do
    if ofFunctions then
      modify fun shell => { shell with functions := shell.functions.filter (·.1 ≠ name) }
    else
      if !isName name then fail (name ++ ofString ": bad variable name")
      unset name
  return 0

def optionNames : List (Char × String) := [('e', "errexit"), ('f', "noglob"), ('I', "ignoreeof"),
  ('i', "interactive"), ('m', "monitor"), ('n', "noexec"), ('s', "stdin"), ('x', "xtrace"),
  ('v', "verbose"), ('V', "vi"), ('E', "emacs"), ('C', "noclobber"), ('a', "allexport"),
  ('b', "notify"), ('u', "nounset"), ('\x01', "nolog"), ('\x02', "debug")]

def setOption (letter : Char) (value : Bool) : Running Unit := do
  if optionNames.any fun (other, _) => other = letter && letter.isAlpha then
    modify fun shell =>
      let others := shell.options.filter (· ≠ letter)
      { shell with options := if value then letter :: others else others }
  else failWith s!"Illegal option -{letter}"

def setNamed (name : Text) (value : Bool) : Running Unit := do
  match optionNames.find? fun (_, other) => other.toList = name with
  | some (letter, _) =>
    modify fun shell =>
      let others := shell.options.filter (· ≠ letter)
      { shell with options := if value then letter :: others else others }
  | none => fail (ofString "Illegal option -o " ++ name)

def showOptions (asCommands : Bool) : Running Unit := do
  let shell ← get
  if !asCommands then sayLine (ofString "Current option settings")
  for (letter, name) in optionNames do
    let isOn := shell.options.contains letter
    if asCommands then
      let sign := if isOn then "-o" else "+o"
      say (ofString s!"set {sign} {name}\n")
    else
      let pad := String.ofList (List.replicate (16 - name.length) ' ')
      let state := if isOn then "on" else "off"
      say (ofString s!"{name}{pad}{state}\n")

def setLetters (value : Bool) : Text → List Text → Running (List Text)
  | [], words => return words
  | 'o' :: letters, words => do
    match words with
    | name :: words =>
      setNamed name value
      setLetters value letters words
    | [] =>
      showOptions (!value)
      setLetters value letters []
  | letter :: letters, words => do
    setOption letter value
    setLetters value letters words

def setFrom : Nat → List Text → Running (List Text × Bool)
  | 0, words => return (words, false)
  | fuel + 1, words => do
    match words with
    | ['-'] :: rest =>
      modify fun shell => { shell with options := shell.options.filter fun letter => letter ≠ 'x' && letter ≠ 'v' }
      return (rest, false)
    | ['-', '-'] :: rest => return (rest, rest.isEmpty)
    | ('-' :: letters) :: rest => setFrom fuel (← setLetters true letters rest)
    | ('+' :: letters) :: rest => setFrom fuel (← setLetters false letters rest)
    | _ => return (words, false)

def setArguments (words : List Text) : Running Unit :=
  modify fun shell => { shell with arguments := words, optionPlace := (1, 0) }

def setting : Builtin := special "set" fun _ words => do
  if words.isEmpty then
    showVariables [] fun held => held.value.isSome
    return 0
  let (rest, dropped) ← setFrom (words.length + 1) words
  if dropped || !rest.isEmpty then setArguments rest
  return 0

def shift : Builtin := special "shift" fun _ words => do
  let count ← match words with
    | word :: _ => number word
    | [] => pure 1
  let arguments := (← get).arguments
  if arguments.length < count then failWith "can't shift that many"
  setArguments (arguments.drop count)
  return 0

structure NextOption where
  letter : Char
  argument : Option Text
  complaint : Option String := none
  place : Nat × Nat
  isOver : Bool := false

def nextOption (allowed : Text) (words : List Text) (place : Nat × Nat) : NextOption :=
  let index := place.1 - 1
  let inWord : Text := if place.1 ≤ 1 || place.2 = 0 then [] else (words.getD (index - 1) []).drop place.2
  let quiet := allowed.head? = some ':'
  let read (letter : Char) (rest : Text) (next offset : Nat) : NextOption :=
    let kept : Nat × Nat := (next + 1, if rest.isEmpty then 0 else offset)
    match allowed.dropWhile (· ≠ letter) with
    | [] =>
      if quiet then ⟨'?', some [letter], none, kept, false⟩
      else ⟨'?', none, some s!"Illegal option -{letter}", kept, false⟩
    | _ :: ':' :: _ =>
      if !rest.isEmpty then ⟨letter, some rest, none, (next + 1, 0), false⟩
      else match words[next]? with
        | some word => ⟨letter, some word, none, (next + 2, 0), false⟩
        | none =>
          if quiet then ⟨':', some [letter], none, (next + 1, 0), false⟩
          else ⟨'?', none, some s!"No arg for -{letter} option", (next + 1, 0), false⟩
    | _ => ⟨letter, some [], none, kept, false⟩
  let ended (next : Nat) : NextOption := ⟨'?', none, none, (next + 1, 0), true⟩
  match inWord with
  | letter :: rest => read letter rest index (place.2 + 1)
  | [] => match words[index]? with
    | some ['-', '-'] => ended (index + 1)
    | some ('-' :: letter :: rest) => read letter rest (index + 1) 2
    | _ => ended index

def getopts : Builtin := regular "getopts" fun _ words => do
  match ← withoutOptions words with
  | allowed :: name :: words =>
    let shell ← get
    let words := if words.isEmpty then shell.arguments else words
    let place := if words.length + 1 < shell.optionPlace.1 then (1, 0) else shell.optionPlace
    let found := nextOption allowed words place
    if !found.isOver then
      match found.complaint with
      | some text => complain (ofString (text ++ "\n"))
      | none => pure ()
      match found.argument with
      | some argument => assign (ofString "OPTARG") argument
      | none => unset (ofString "OPTARG")
    assign (ofString "OPTIND") (decimal found.place.1)
    assign name [found.letter]
    modify ({ · with optionPlace := found.place })
    return if found.isOver then 1 else 0
  | _ => failWith "Usage: getopts optstring var [arg...]"

def showAlias (name value : Text) : Running Unit := sayLine (name ++ '=' :: quoted value)

def «alias» : Builtin := ⟨"alias".toList, false, true, fun _ words => do
  if words.isEmpty then
    for (name, value) in sortedByName (← get).aliases do showAlias name value
    return 0
  let mut status := 0
  for word in words do
    match splitAssignment word with
    | (name, some value) =>
      modify fun shell => { shell with aliases := (name, value) :: shell.aliases.filter (·.1 ≠ name) }
    | (name, none) => match (← get).aliases.lookup name with
      | some value => showAlias name value
      | none =>
        complain (ofString "alias: " ++ name ++ ofString " not found\n")
        status := 1
  return status⟩

def unalias : Builtin := regular "unalias" fun _ words => do
  let (flags, names) ← options "a" words
  if !flags.isEmpty then
    modify ({ · with aliases := [] })
    return 0
  let mut status := 0
  for name in names do
    if ((← get).aliases.lookup name).isSome then
      modify fun shell => { shell with aliases := shell.aliases.filter (·.1 ≠ name) }
    else
      complain (ofString "unalias: " ++ name ++ ofString " not found\n")
      status := 1
  return status

def ofVariables : List Builtin := [«export», readonly, «local», unsetting, setting, shift, getopts, «alias»,
  unalias]

end InkProject.Script.Builtin
