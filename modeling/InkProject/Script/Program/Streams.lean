import InkProject.Script.Program.Basic
set_option autoImplicit false

namespace InkProject.Script.Program

open Shell

def padded (width : Nat) (text : Text) : Text := List.replicate (width - text.length) ' ' ++ text

structure Showing where
  numbers : Bool := false
  filledOnly : Bool := false
  squeeze : Bool := false
  ends : Bool := false
  tabs : Bool := false
  controls : Bool := false

structure Shown where
  line : Nat := 0
  atStart : Bool := true
  blanks : Nat := 0

def shownChar (showing : Showing) (char : Char) : Text :=
  if char = '\t' then if showing.tabs then ['^', 'I'] else ['\t']
  else if char = '\n' || !showing.controls then [char]
  else
    let code := char.toNat
    let high : Text := if 128 ≤ code then ['M', '-'] else []
    let code := code % 128
    high ++ if code < 32 then ['^', Char.ofNat (code + 64)] else if code = 127 then ['^', '?'] else [Char.ofNat code]

def showLine (showing : Showing) (state : Shown) (line : Text) : Text × Shown :=
  let isBlank := state.atStart && line = ['\n']
  let blanks := if isBlank then state.blanks + 1 else 0
  let isEnded := line.getLast? = some '\n'
  if showing.squeeze && 1 < blanks then ([], { state with blanks := blanks })
  else
    let isNumbered := state.atStart && (showing.filledOnly && !isBlank || showing.numbers && !showing.filledOnly)
    let number := if isNumbered then padded 6 (decimal (state.line + 1)) ++ ['\t'] else []
    let bareLine := bare line
    let body := if showing.ends && isEnded && bareLine.getLast? = some '\r' then
        bareLine.dropLast.flatMap (shownChar showing) ++ ['^', 'M']
      else bareLine.flatMap (shownChar showing)
    let mark := if isEnded then (if showing.ends then ['$', '\n'] else ['\n']) else []
    (number ++ body ++ mark,
      ⟨if isNumbered then state.line + 1 else state.line, isEnded, blanks⟩)

def showText (showing : Showing) (state : Shown) (text : Text) : Text × Shown :=
  let (written, state) := (linesOf text).foldl (fun (written, state) line =>
    let (next, state) := showLine showing state line
    (next :: written, state)) (([] : List Text), state)
  (written.reverse.flatten, state)

def readsItself (name : Text) : Running Bool := do
  let shell ← get
  match shell.channelOf 1 with
  | some (_, .file place offset opening) =>
    let (here, start) := if name = ['-'] then match shell.channelOf 0 with
        | some (_, .file place offset _) => (some place, offset)
        | _ => (none, 0)
      else match shell.machine.disk.locate true (pathOf name) with
        | .ok (place, .file _ _) => (some place, 0)
        | _ => (none, 0)
    let size := match shell.machine.disk.top.at? place with
      | some (.file content _) => content.length
      | _ => 0
    return here = some place && start < (if opening = .append then size else offset)
  | _ => return false

def catFrom (showing : Showing) (plain : Bool) : List Text → Shown → Nat → Running Nat
  | [], _, status => return status
  | name :: names, state, status => do
    if ← readsItself name then
      report (quotedIfNeeded name ++ ofString ": input file is output file")
      catFrom showing plain names state 1
    else match ← content name with
      | .error error =>
        reportError (quotedIfNeeded name) error
        catFrom showing plain names state 1
      | .ok text =>
        if plain then
          say text
          catFrom showing plain names state status
        else
          let (written, state) := showText showing state text
          say written
          catFrom showing plain names state status

def cat : Program := fun _ words => do
  let arguments ← arguments { letters := "benstuvAET", names := [("number-nonblank", 'b', .none),
    ("number", 'n', .none), ("squeeze-blank", 's', .none), ("show-nonprinting", 'v', .none),
    ("show-ends", 'E', .none), ("show-tabs", 'T', .none), ("show-all", 'A', .none)] } words
  let any (letters : List Char) : Bool := letters.any arguments.has
  let showing : Showing := {
    numbers := any ['n'], filledOnly := any ['b'], squeeze := any ['s'], ends := any ['e', 'E', 'A']
    tabs := any ['t', 'T', 'A'], controls := any ['v', 'e', 't', 'A'] }
  let names := orInput arguments.operands
  let status ← catFrom showing (!any ['b', 'n', 's', 'e', 'E', 'A', 't', 'T', 'v']) names {} 0
  if names.contains ['-'] && ((← get).channelOf 0).isNone then
    reportError (ofString "closing standard input") badStream
    return 1
  return status

def multipliers : List (String × Nat) := [("", 1), ("b", 512), ("kB", 1000), ("K", 1024), ("k", 1024),
  ("KiB", 1024), ("MB", 1000000), ("M", 1048576), ("m", 1048576), ("MiB", 1048576), ("G", 1073741824)]

def count? (word : Text) : Option Nat :=
  let (value, rest) := digitsFrom 10 0 word
  if rest.length = word.length then none
  else (multipliers.lookup (String.ofList rest)).map fun times => value * times

inductive Amount where
  | first (count : Nat)
  | butLast (count : Nat)
  | last (count : Nat)
  | from (place : Nat)

def Amount.of {α : Type} (items : List α) : Amount → List α
  | .first count => items.take count
  | .butLast count => items.take (items.length - count)
  | .last count => items.drop (items.length - count)
  | .from place => items.drop (place - 1)

structure Cut where
  bytes : Bool := false
  amount : Amount
  ending : Char := '\n'

def recordsFrom (ending : Char) : Text → Text → List Text
  | [], [] => []
  | read, [] => [read.reverse]
  | read, char :: rest =>
    if char = ending then (char :: read).reverse :: recordsFrom ending [] rest
    else recordsFrom ending (char :: read) rest

def plainRecords (ending : Char) (text : Text) : List Text :=
  (recordsFrom ending [] text).map fun record =>
    if record.getLast? = some ending then record.dropLast else record

def Cut.of (cut : Cut) (text : Text) : Text :=
  if cut.bytes then cut.amount.of text else (cut.amount.of (recordsFrom cut.ending [] text)).flatten

def displayName (name : Text) : Text := if name = ['-'] then ofString "standard input" else name

def partOf (cut : Cut) (name : Text) : Running (Except IoError Text) := do
  let taken (text : Text) : Nat := match cut.amount with
    | .first _ | .butLast _ => (cut.of text).length
    | _ => text.length
  let isFile := match (← get).channelOf 0 with
    | some (_, .file _ _ _) => true
    | _ => false
  if name = ['-'] && isFile then
    match ← takeInput 0 taken with
    | .ok text => match cut.amount with
      | .first _ | .butLast _ => return .ok text
      | _ => return .ok (cut.of text)
    | .error error => return .error error
  else return (← content name).map cut.of

def showParts (cut : Cut) (titles : Bool) : List Text → Bool → Nat → Running Nat
  | [], _, status => return status
  | name :: names, isFirst, status => do
    let title : Running Unit := do
      if titles then
        say ((if isFirst then [] else ['\n']) ++ ofString "==> " ++ displayName name ++ ofString " <==\n")
    match ← partOf cut name with
    | .ok text =>
      title
      say text
      showParts cut titles names false status
    | .error .isDirectory =>
      title
      reportError (ofString "error reading " ++ quoted name) .isDirectory
      showParts cut titles names false 1
    | .error error =>
      reportError (ofString "cannot open " ++ quoted name ++ ofString " for reading") error
      showParts cut titles names isFirst 1

def wantsTitles (arguments : Arguments) : Bool :=
  match arguments.lastOf ['q', 'v'] with
  | some 'v' => true
  | some _ => false
  | none => 1 < arguments.operands.length

def partGrammar : Grammar := { letters := "c:n:qvzf", names := [("bytes", 'c', .required),
  ("lines", 'n', .required), ("quiet", 'q', .none), ("silent", 'q', .none), ("verbose", 'v', .none),
  ("zero-terminated", 'z', .none)] }

def withBareCount (words : List Text) : List Text :=
  match words with
  | ('-' :: digit :: rest) :: words =>
    if digit.isDigit then
      let digits := (digit :: rest).takeWhile Char.isDigit
      let letters := (digit :: rest).drop digits.length
      let unit := if letters.contains 'c' then 'c' else 'n'
      let others := letters.filter fun letter => letter ≠ 'c' && letter ≠ 'l'
      ('-' :: unit :: digits) :: (if others = [] then words else ('-' :: others) :: words)
    else ('-' :: digit :: rest) :: words
  | _ => words

def cutOf (arguments : Arguments) (amount : Bool → Text → Option Amount) : Running Cut := do
  let unit := (arguments.lastOf ['c', 'n']).getD 'n'
  let word := (arguments.last? unit).getD (ofString "10")
  let bytes := unit = 'c'
  match amount bytes word with
  | some amount => return ⟨bytes, amount, if arguments.has 'z' then '\x00' else '\n'⟩
  | none =>
    let units := if bytes then "bytes" else "lines"
    report (ofString s!"invalid number of {units}: " ++ cited word)
    leaveWith 1

def head : Program := fun _ words => do
  let arguments ← arguments partGrammar (withBareCount words)
  let cut ← cutOf arguments fun _ word => match word with
    | '-' :: rest => (count? rest).map .butLast
    | '+' :: rest => (count? rest).map .first
    | _ => (count? word).map .first
  showParts cut (wantsTitles arguments) (orInput arguments.operands) true 0

def withBarePlace (words : List Text) : List Text :=
  match words with
  | ('+' :: rest) :: names =>
    let digits := rest.takeWhile Char.isDigit
    let letters := rest.drop digits.length
    if digits ≠ [] && names.length ≤ 1 && (letters = [] || letters = ['c'] || letters = ['l']) then
      ('-' :: (if letters = ['c'] then 'c' else 'n') :: '+' :: digits) :: names
    else words
  | _ => withBareCount words

def tail : Program := fun _ words => do
  let arguments ← arguments partGrammar (withBarePlace words)
  let cut ← cutOf arguments fun _ word => match word with
    | '-' :: rest => (count? rest).map .last
    | '+' :: rest => (count? rest).map .from
    | _ => (count? word).map .last
  showParts cut (wantsTitles arguments) (orInput arguments.operands) true 0

structure Counts where
  lines : Nat := 0
  words : Nat := 0
  bytes : Nat := 0
  longest : Nat := 0

structure Counting where
  counts : Counts := {}
  inWord : Bool := false
  column : Nat := 0

namespace Counting

def leaveWord (state : Counting) : Counting :=
  if state.inWord then { state with counts.words := state.counts.words + 1, inWord := false } else state

def leaveLine (state : Counting) : Counting :=
  { state with counts.longest := max state.counts.longest state.column, column := 0 }

def add (state : Counting) (char : Char) : Counting :=
  let state := { state with counts.bytes := state.counts.bytes + 1 }
  match char with
  | '\n' =>
    let state := state.leaveWord.leaveLine
    { state with counts.lines := state.counts.lines + 1 }
  | '\r' | '\x0c' => state.leaveWord.leaveLine
  | '\t' => { state.leaveWord with column := (state.column / 8 + 1) * 8 }
  | ' ' => { state.leaveWord with column := state.column + 1 }
  | '\x0b' => state.leaveWord
  | _ => if isShown char then { state with inWord := true, column := state.column + 1 } else state

end Counting

def countsOf (text : Text) : Counts := (text.foldl Counting.add {}).leaveWord.leaveLine.counts

def Counts.plus (a b : Counts) : Counts :=
  ⟨a.lines + b.lines, a.words + b.words, a.bytes + b.bytes, max a.longest b.longest⟩

def sizeOf (name : Text) : Running (Option (Nat × Bool)) := do
  let shell ← get
  let sized (node : Option Node) : Option (Nat × Bool) := match node with
    | some (.file content _) => some (content.length, true)
    | some _ => some (0, false)
    | none => none
  if name = ['-'] then match shell.channelOf 0 with
    | some (_, .file place _ _) => return sized (shell.machine.disk.top.at? place)
    | some _ => return some (0, false)
    | none => return none
  else return sized ((shell.machine.disk.look (pathOf name)).toOption)

def countWidth (names : List Text) : Running Nat := do
  let sizes := (← names.mapM sizeOf).filterMap id
  let total := sizes.foldl (fun total (size, _) => total + size) 0
  let least := if sizes.any fun (_, regular) => !regular then 7 else 1
  return max (decimal total).length least

def wc : Program := fun _ words => do
  let arguments ← arguments { letters := "clLmw", names := [("bytes", 'c', .none), ("chars", 'm', .none),
    ("lines", 'l', .none), ("words", 'w', .none), ("max-line-length", 'L', .none)] } words
  let wanted := ['l', 'w', 'm', 'c', 'L'].filter arguments.has
  let wanted := if wanted.isEmpty then ['l', 'w', 'c'] else wanted
  let names := orInput arguments.operands
  let width ← if names.length = 1 && wanted.length = 1 then pure 1 else countWidth names
  let show1 (counts : Counts) (name : Option Text) : Running Unit := do
    let numbers := wanted.map fun letter => match letter with
      | 'l' => counts.lines
      | 'w' => counts.words
      | 'L' => counts.longest
      | _ => counts.bytes
    let columns := joinedBy [' '] (numbers.map fun number => padded width (decimal number))
    sayLine (columns ++ match name with
      | some name => ' ' :: name
      | none => [])
  let mut total : Counts := {}
  let mut status := 0
  for name in names do
    match ← content name with
    | .error error =>
      reportError (quotedIfNeeded name) error
      status := 1
      if error = .isDirectory then show1 {} (some name)
    | .ok text =>
      let counts := countsOf text
      total := total.plus counts
      show1 counts (if arguments.operands.isEmpty then none else some name)
  if 1 < names.length then show1 total (some (ofString "total"))
  return status

def tee : Program := fun _ words => do
  let arguments ← arguments { letters := "ai", names := [("append", 'a', .none),
    ("ignore-interrupts", 'i', .none)] } words
  let opening : Opening := if arguments.has 'a' then .append else .write
  let mut status := 0
  let mut channels := []
  for name in arguments.operands do
    match ← openFile opening name with
    | .ok channel => channels := (name, channel) :: channels
    | .error error =>
      reportError (quotedIfNeeded name) error
      status := 1
  match ← takeAll 0 with
  | .error error =>
    reportError (ofString "read error") error
    return 1
  | .ok text =>
    if let .error error ← put 1 text then
      reportError (ofString "'standard output'") error
      status := 1
    for (name, channel) in channels.reverse do
      if let .error error ← onStream 9 channel (put 9 text) then
        reportError (quotedIfNeeded name) error
        status := 1
    return status

end InkProject.Script.Program
