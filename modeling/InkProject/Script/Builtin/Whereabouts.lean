import InkProject.Script.Builtin.Control
import InkProject.Script.Builtin.Variables
import InkProject.Script.Builtin.Words
set_option autoImplicit false

namespace InkProject.Script.Builtin

open Shell

def withoutDots (path : Text) : Text :=
  let parts := Path.segments (toBytes path)
  let kept := parts.foldl (fun (kept : List Bytes) part =>
    if part = [] || part = Path.dot then kept
    else if part = Path.dots then kept.drop 1
    else part :: kept) []
  '/' :: ofBytes (Path.glue kept.reverse)

def goTo (physical : Bool) (path : Text) : Running Bool := do
  let shell ← get
  let named := if path.head? = some '/' then path else shell.directory ++ '/' :: path
  let target := if physical then path else withoutDots named
  match shell.machine.disk.locate true (pathOf target) with
  | .ok (place, .dir _) =>
    let now := if physical then ofBytes (Disk.pathOf place).bytes else target
    set { shell with machine.disk.cwd := place, directory := now }
    for (name, value) in [("OLDPWD", shell.directory), ("PWD", now)] do
      assign (ofString name) value
      rebind (ofString name) (((← get).binding? (ofString name)).map ({ · with exported := true }))
    return true
  | _ => return false

def isLocal (path : Text) : Bool :=
  path.head? = some '/' || path = ['.'] || path = ['.', '.'] ||
    ['.', '/'].isPrefixOf path || ['.', '.', '/'].isPrefixOf path

def directoriesFor (shell : Shell) (name : Text) : List (Text × Bool) :=
  match shell.valueOf (ofString "CDPATH") with
  | some search => (Expand.splitAtColons search).map fun front =>
    if front.isEmpty then (name, false) else (front ++ '/' :: name, true)
  | none => []

def sayDirectory : Running Unit := do sayLine (← get).directory

def cd : Builtin := regular "cd" fun _ words => do
  let (flags, words) ← options "LP" words
  let physical := (flags.getLast?).any fun (flag, _) => flag = 'P'
  let shell ← get
  let home := (shell.valueOf (ofString "HOME")).getD []
  let wanted := words.headD home
  let isBack := wanted = ['-']
  let target := if isBack then (shell.valueOf (ofString "OLDPWD")).getD [] else wanted
  let isThere (path : Text) : Bool := shell.machine.disk.isDir (pathOf path)
  let found := if isLocal target || target.isEmpty then none
    else (directoriesFor shell target).find? fun (path, _) => isThere path
  let (path, isTold) := found.getD (if target.isEmpty then ['.'] else target, false)
  if ← goTo physical path then
    if isBack || isTold then sayDirectory
    return 0
  else fail (ofString "can't cd to " ++ target)

def pwd : Builtin := regular "pwd" fun _ words => do
  let (flags, _) ← options "LP" words
  if (flags.getLast?).any fun (flag, _) => flag = 'P' then
    sayLine (ofBytes (Disk.pathOf (← getDisk).cwd).bytes)
  else sayDirectory
  return 0

def maskText (mask : Nat) : Text :=
  let group (name : Char) (bits : Nat) : Text :=
    let letter (bit : Nat) (letter : Char) : Text := if bits &&& bit = 0 then [letter] else []
    name :: '=' :: letter 4 'r' ++ letter 2 'w' ++ letter 1 'x'
  [','].intercalate [group 'u' (mask / 64 % 8), group 'g' (mask / 8 % 8), group 'o' (mask % 8)]

def permissionBit : Char → Option Nat
  | 'r' => some 4
  | 'w' => some 2
  | 'x' => some 1
  | _ => none

def applyMode (allowed : Nat) (part : Text) : Option Nat :=
  let who := part.takeWhile fun char => ['u', 'g', 'o', 'a'].contains char
  let places := if who = [] || who.contains 'a' then 73
    else (if who.contains 'u' then 64 else 0) + (if who.contains 'g' then 8 else 0) +
      (if who.contains 'o' then 1 else 0)
  match part.drop who.length with
  | sign :: letters =>
    match letters.mapM permissionBit with
    | none => none
    | some bits =>
      let wanted := places * bits.foldl (fun all bit => all ||| bit) 0
      match sign with
      | '=' => some ((allowed &&& (511 - places * 7)) ||| wanted)
      | '+' => some (allowed ||| wanted)
      | '-' => some (allowed &&& (511 - wanted))
      | _ => none
  | [] => none

def splitAtCommas (text : Text) : List Text :=
  text.foldr (fun char parts => if char = ',' then [] :: parts else match parts with
    | part :: parts => (char :: part) :: parts
    | [] => [[char]]) [[]]

def umask : Builtin := regular "umask" fun _ words => do
  let (flags, words) ← options "S" words
  let mask := (← get).mask
  match words with
  | [] =>
    if flags.isEmpty then
      let digits := Nat.toDigits 8 mask
      sayLine (List.replicate (4 - digits.length) '0' ++ digits)
    else sayLine (maskText mask)
    return 0
  | word :: _ =>
    if (word.head?).any Char.isDigit then
      let (value, rest) := digitsFrom 8 0 word
      if rest ≠ [] || 511 < value then failNumber word
      modify ({ · with mask := value })
    else match (splitAtCommas word).foldlM applyMode (511 - mask) with
      | some allowed => modify ({ · with mask := 511 - allowed })
      | none => fail (ofString "Illegal mode: " ++ word)
    return 0

def ulimit : Builtin := regular "ulimit" fun _ words => do
  let (flags, words) ← options "HSatfdsmcnpvwlr" words
  if words.isEmpty && !(flags.any fun (flag, _) => flag = 'a') then sayLine (ofString "unlimited")
  return 0

def times : Builtin := special "times" fun _ _ => do
  let line := ofString "0m0.000000s 0m0.000000s"
  sayLine line
  sayLine line
  return 0

def regularNames : List Text := ["[", "alias", "bg", "cd", "chdir", "command", "echo", "false", "fg",
  "getopts", "hash", "jobs", "kill", "printf", "pwd", "read", "test", "true", "type", "ulimit",
  "umask", "unalias", "wait"].map String.toList

inductive Whereabouts where
  | keyword
  | alias (value : Text)
  | function
  | builtin (isSpecial : Bool)
  | program (path : Text) (isTracked : Bool)
  | nowhere
deriving DecidableEq, Repr

def whereabouts (shell : Shell) (name : Text) : Whereabouts :=
  if keywords.contains name then .keyword
  else match shell.aliases.lookup name with
    | some value => .alias value
    | none =>
      if name.contains '/' then
        if shell.machine.disk.exists? (pathOf name) then .program name false else .nowhere
      else if (shell.functions.lookup name).isSome then .function
      else if specialNamesOf.contains name then .builtin true
      else if regularNames.contains name then .builtin false
      else match findProgram shell name with
        | .ok path => .program path ((shell.tracked.lookup name).isSome)
        | .error _ => .nowhere

def describe (inFull : Bool) (name : Text) : Running Nat := do
  let tell (short : Text) (full : Text) : Running Nat := do
    sayLine (if inFull then name ++ full else short)
    return 0
  match whereabouts (← get) name with
  | .keyword => tell name (ofString " is a shell keyword")
  | .alias value =>
    tell (ofString "alias " ++ name ++ '=' :: quoted value) (ofString " is an alias for " ++ value)
  | .function => tell name (ofString " is a shell function")
  | .builtin isSpecial =>
    tell name (ofString (if isSpecial then " is a special shell builtin" else " is a shell builtin"))
  | .program path isTracked =>
    tell path (ofString (if isTracked then " is a tracked alias for " else " is ") ++ path)
  | .nowhere =>
    if inFull then sayLine (name ++ ofString ": not found")
    return 127

def type : Builtin := regular "type" fun _ words => do
  let mut status := 0
  for word in words do
    let found ← describe true word
    if found ≠ 0 then status := found
  return status

def command : Builtin := regular "command" fun _ words => do
  let (flags, words) ← options "pvV" words
  let asked := flags.filter fun (flag, _) => flag ≠ 'p'
  match asked.getLast?, words with
  | some (flag, _), word :: _ => describe (flag = 'V') word
  | _, _ => return 0

def hash : Builtin := regular "hash" fun _ words => do
  let (flags, words) ← options "r" words
  if !flags.isEmpty then modify ({ · with tracked := [] })
  else if words.isEmpty then
    for (_, path) in (← get).tracked.reverse do sayLine path
  let mut status := 0
  for word in words do
    match whereabouts (← get) word with
    | .nowhere =>
      warn (word ++ ofString ": not found")
      status := 1
    | .program path false => modify fun shell => { shell with tracked := (word, path) :: shell.tracked }
    | _ => pure ()
  return status

def ofWhereabouts : List Builtin := [cd, { cd with name := "chdir".toList }, pwd, umask, ulimit, times,
  type, command, hash]

def table : List Builtin := ofWords ++ ofControl ++ ofVariables ++ ofWhereabouts

def find? (name : Text) : Option Builtin := table.find? fun builtin => builtin.name = name

end InkProject.Script.Builtin
