import InkProject.Disk.Operations
import InkProject.Script.Source
/- What a running script has. Some of it is shared by all that runs: the disk, the open
   files and the pipes. The rest is its own, and is copied for what it starts. -/
set_option autoImplicit false

namespace InkProject.Script

inductive Channel where
  | sink (pipe : Nat)
  | source (rest : Text)
  | file (place : Place) (offset : Nat) (opening : Opening)
  | device (device : Device)
  | directory

structure Pipe where
  texts : List Text := []
  size : Nat := 0
  room : Option Nat := none

structure Machine where
  disk : Disk
  channels : Array Channel := #[]
  pipes : Array Pipe := #[]
  processes : Nat := 4242
  signals : List (Nat × Nat) := []
  times : List (Place × Nat) := []
  now : Nat := 1

inductive Halt where
  | failed
  | ended
  | killed (signal : Nat)
deriving DecidableEq, Repr

inductive Exit where
  | status (number : Nat)
  | signal (number : Nat)
deriving DecidableEq, Repr

def Exit.code : Exit → Nat
  | .status number => number % 256
  | .signal number => 128 + number

inductive Skip where
  | none
  | left (loops : Nat)
  | resumed (loops : Nat)
  | returned
deriving DecidableEq, Repr

structure Variable where
  value : Option Text := none
  exported : Bool := false
  readOnly : Bool := false
deriving DecidableEq, Repr

structure Job where
  process : Nat
  run : Machine → Machine × Exit
  finished : Option Exit := none

structure Shell where
  machine : Machine
  process : Nat := 4242
  root : Nat := 4242
  name : Text
  arguments : List Text := []
  bindings : List (Text × Variable) := []
  shadowed : List (List (Text × Variable)) := []
  functions : List (Text × Command) := []
  aliases : List (Text × Text) := []
  tracked : List (Text × Text) := []
  documents : Array Word := #[]
  streams : List (Nat × Nat) := []
  directory : Text := []
  status : Nat := 0
  substituted : Nat := 0
  line : Nat := 1
  reached : Nat := 1
  builtin : Option Text := none
  options : List Char := []
  traps : List (Nat × Text) := []
  pending : List Nat := []
  saved : Option Nat := none
  ignored : List Nat := []
  skip : Skip := .none
  loops : Nat := 0
  calls : Nat := 0
  jobs : List Job := []
  latestJob : Option Nat := none
  optionPlace : Nat × Nat := (1, 0)
  mask : Nat := 18
  unwritten : Option IoError := none

abbrev Running := EStateM Halt Shell

namespace Shell

def shown (text : Text) : String := Utf8.lossyText (toBytes text)

def pathOf (name : Text) : Path := ⟨toBytes name⟩

def getDisk : Running Disk := return (← get).machine.disk
def setDisk (disk : Disk) : Running Unit := modify fun shell => { shell with machine.disk := disk }
def setStatus (status : Nat) : Running Unit := modify ({ · with status := status })

def hasOption (option : Char) : Running Bool := return (← get).options.contains option

def touch (place : Place) : Running Unit :=
  modify fun shell => { shell with
    machine.times := (place, shell.machine.now) :: shell.machine.times.filter (·.1 ≠ place)
    machine.now := shell.machine.now + 1 }

def channelOf (shell : Shell) (stream : Nat) : Option (Nat × Channel) := do
  let index ← shell.streams.lookup stream
  return (index, ← shell.machine.channels[index]?)

def setChannel (index : Nat) (channel : Channel) : Running Unit :=
  modify fun shell => { shell with
    machine.channels := shell.machine.channels.setIfInBounds index channel }

def addChannel (channel : Channel) : Running Nat :=
  modifyGet fun shell => (shell.machine.channels.size, { shell with
    machine.channels := shell.machine.channels.push channel })

def addPipe (room : Option Nat) : Running Nat :=
  modifyGet fun shell => (shell.machine.pipes.size, { shell with
    machine.pipes := shell.machine.pipes.push { room := room } })

def setStream (stream : Nat) (index : Option Nat) : Running Unit :=
  modify fun shell =>
    let others := shell.streams.filter (·.1 ≠ stream)
    { shell with streams := match index with
      | some index => (stream, index) :: others
      | none => others }

def addToPipe (text : Text) (pipe : Pipe) : Pipe :=
  { pipe with texts := text :: pipe.texts, size := pipe.size + text.length }

def isFull (pipe : Pipe) : Bool :=
  match pipe.room with
  | some room => room ≤ pipe.size
  | none => false

def written (machine : Machine) (pipe : Nat) : Text :=
  (((machine.pipes[pipe]?).map Pipe.texts).getD []).reverse.flatten

def badStream : IoError := .system 9

def ignores (shell : Shell) (signal : Nat) : Bool :=
  shell.ignored.contains signal || shell.traps.lookup signal = some []

def overwritten (content : Bytes) (offset : Nat) (bytes : Bytes) : Bytes :=
  content.take offset ++ List.replicate (offset - content.length) 0 ++ bytes ++
    content.drop (offset + bytes.length)

def put (stream : Nat) (text : Text) : Running (Except IoError Unit) := do
  let shell ← get
  match shell.channelOf stream with
  | some (_, .sink pipe) =>
    if (shell.machine.pipes[pipe]?).any isFull then
      if shell.ignores 13 then return .error (.system 32) else throw (.killed 13)
    set { shell with machine.pipes := shell.machine.pipes.modify pipe (addToPipe text) }
    return .ok ()
  | some (index, .file place offset opening) =>
    if opening = .read then return .error badStream
    match shell.machine.disk.top.at? place with
    | some (.file content executable) =>
      let bytes := toBytes text
      let offset := if opening = .append then content.length else offset
      setDisk (shell.machine.disk.set place (some (.file (overwritten content offset bytes) executable)))
      setChannel index (.file place (offset + bytes.length) opening)
      touch place
      return .ok ()
    | _ => return .ok ()
  | some (_, .device .null) => return .ok ()
  | some (_, .device .full) => return .error .noSpace
  | some (_, .source _) | some (_, .directory) | none => return .error badStream

def emit (stream : Nat) (text : Text) : Running Unit := do
  if text.isEmpty then return ()
  match ← put stream text with
  | .ok () => return ()
  | .error error => modify fun shell => { shell with unwritten := some error }

def say (text : Text) : Running Unit := emit 1 text
def sayLine (text : Text) : Running Unit := emit 1 (text ++ ['\n'])

def complain (text : Text) : Running Unit := do
  let _ ← put 2 text

def remaining (shell : Shell) : Channel → Except IoError Text
  | .source rest => .ok rest
  | .file place offset opening =>
    if opening = .write || opening = .append || opening = .replace then .error badStream
    else match shell.machine.disk.top.at? place with
      | some (.file content _) => .ok (ofBytes (content.drop offset))
      | _ => .ok []
  | .device _ => .ok []
  | .sink _ => .error badStream
  | .directory => .error .isDirectory

def takeInput (stream : Nat) (size : Text → Nat) : Running (Except IoError Text) := do
  let shell ← get
  match shell.channelOf stream with
  | none => return .error badStream
  | some (index, channel) => match shell.remaining channel with
    | .error error => return .error error
    | .ok rest =>
      let count := size rest
      match channel with
      | .source _ => setChannel index (.source (rest.drop count))
      | .file place offset opening => setChannel index (.file place (offset + count) opening)
      | _ => pure ()
      return .ok (rest.take count)

def takeAll (stream : Nat) : Running (Except IoError Text) := takeInput stream List.length

def warn (message : Text) : Running Unit := do
  let shell ← get
  let command := match shell.builtin with
    | some command => command ++ ofString ": "
    | none => []
  complain (shell.name ++ ofString s!": {shell.line}: " ++ command ++ message ++ ['\n'])

def fail {α : Type} (message : Text) : Running α := do
  setStatus 2
  warn message
  throw .failed

def failWith {α : Type} (message : String) : Running α := fail (ofString message)

def failNumber {α : Type} (text : Text) : Running α := fail (ofString "Illegal number: " ++ text)


def binding? (shell : Shell) (name : Text) : Option Variable := shell.bindings.lookup name

def valueOf (shell : Shell) (name : Text) : Option Text :=
  match shell.binding? name with
  | some found => found.value
  | none => none

def rebind (name : Text) (binding? : Option Variable) : Running Unit :=
  modify fun shell =>
    let others := shell.bindings.filter (·.1 ≠ name)
    { shell with bindings := match binding? with
      | some found => (name, found) :: others
      | none => others }

def noteAssigned (name value : Text) : Running Unit := do
  if name = ofString "OPTIND" then
    modify fun shell => { shell with
      optionPlace := (((String.ofList value).toNat?).getD 1, 0) }

def assign (name value : Text) : Running Unit := do
  if !isName name then fail (name ++ ofString ": bad variable name")
  let before := ((← get).binding? name).getD {}
  if before.readOnly then fail (name ++ ofString ": is read only")
  let exported := before.exported || (← get).options.contains 'a'
  rebind name (some { before with value := some value, exported := exported })
  noteAssigned name value

def unset (name : Text) : Running Unit := do
  match (← get).binding? name with
  | some found =>
    if found.readOnly then fail (name ++ ofString ": is read only")
    rebind name none
  | none => return ()

def shadow (name : Text) : Running Unit :=
  modify fun shell => { shell with shadowed := match shell.shadowed with
    | frame :: frames =>
      if frame.any fun (other, _) => other = name then frame :: frames
      else ((name, (shell.binding? name).getD {}) :: frame) :: frames
    | [] => [] }

def restored (bindings : List (Text × Variable)) (frame : List (Text × Variable)) :
    List (Text × Variable) :=
  frame.foldl (fun bindings (name, was) =>
    let others := bindings.filter (·.1 ≠ name)
    if was.value.isNone && !was.exported && !was.readOnly then others else (name, was) :: others) bindings

def leaveLocals (depth : Nat) : Running Unit :=
  modify fun shell =>
    let ended := shell.shadowed.take (shell.shadowed.length - depth)
    { shell with
      bindings := ended.foldl restored shell.bindings
      shadowed := shell.shadowed.drop ended.length }

def joinedBy (separator : Text) (texts : List Text) : Text := separator.intercalate texts

def decimal (value : Nat) : Text := Nat.toDigits 10 value
def signedDecimal (value : Int) : Text :=
  if value < 0 then '-' :: decimal value.natAbs else decimal value.natAbs

def optionOrder : List Char := "ubaCEVvxsnmiIfe".toList

def parameter? (shell : Shell) (name : Text) : Option Text :=
  match name with
  | ['#'] => some (decimal shell.arguments.length)
  | ['?'] => some (decimal shell.status)
  | ['$'] => some (decimal shell.root)
  | ['!'] => shell.latestJob.map decimal
  | ['-'] => some (optionOrder.filter shell.options.contains)
  | ['0'] => some shell.name
  | char :: _ =>
    if char.isDigit then
      match (String.ofList name).toNat? with
      | some 0 => some shell.name
      | some place => shell.arguments[place - 1]?
      | none => none
    else shell.valueOf name
  | [] => none

def splitters (shell : Shell) : Text := (shell.valueOf (ofString "IFS")).getD [' ', '\t', '\n']

def separator (shell : Shell) : Text := shell.splitters.take 1

end Shell

end InkProject.Script
