import InkProject.Script.Process
set_option autoImplicit false

namespace InkProject.Script

inductive Target where
  | file (stream : Nat) (opening : Opening) (name : Text)
  | copy (stream : Nat) (source : Option Nat)
  | document (stream : Nat) (number : Nat)
deriving DecidableEq, Repr

def Target.stream : Target → Nat
  | .file stream _ _ | .copy stream _ | .document stream _ => stream

namespace Shell

def reason : IoError → String
  | .system number => IoError.systemText number
  | error => error.message

def absent (error : IoError) : Bool := error = .notFound || error = .notDirectory

def streamNamed? (name : Text) : Option Nat :=
  let numbered (front : String) : Option Nat :=
    let rest := name.drop front.length
    if front.toList.isPrefixOf name && rest.length = 1 then (String.ofList rest).toNat? else none
  match String.ofList name with
  | "/dev/stdin" => some 0
  | "/dev/stdout" => some 1
  | "/dev/stderr" => some 2
  | _ => (numbered "/dev/fd/").or (numbered "/proc/self/fd/")

def truncate (place : Place) : Running Unit := do
  let disk ← getDisk
  match disk.top.at? place with
  | some (.file _ executable) =>
    setDisk (disk.set place (some (.file [] executable)))
    touch place
  | _ => return ()

def truncates (opening : Opening) : Bool := opening = .write || opening = .replace

def openPlace (opening : Opening) (place : Place) : Running Nat := do
  if truncates opening then truncate place
  addChannel (.file place 0 opening)

def openFile (opening : Opening) (name : Text) : Running (Except IoError Nat) := do
  let shell ← get
  match streamNamed? name with
  | some stream => match shell.channelOf stream with
    | none => return .error .notFound
    | some (_, .file place _ _) => return .ok (← openPlace opening place)
    | some (index, _) => return .ok index
  | none =>
    let path := pathOf name
    match shell.machine.disk.locate true path with
    | .ok (_, .device device) => return .ok (← addChannel (.device device))
    | .ok (place, .file _ _) => return .ok (← openPlace opening place)
    | .ok _ => if opening = .read then return .ok (← addChannel .directory) else return .error .isDirectory
    | .error error =>
      if opening = .read then return .error error
      match shell.machine.disk.write path [] with
      | .error error => return .error error
      | .ok disk =>
        setDisk disk
        match disk.locate true path with
        | .ok (place, _) =>
          touch place
          return .ok (← addChannel (.file place 0 opening))
        | .error error => return .error error

def onStream {α : Type} (stream : Nat) (channel : Nat) (act : Running α) : Running α := do
  let before := (← get).streams
  setStream stream (some channel)
  let result ← act
  modify ({ · with streams := before })
  return result

def readNamed (name : Text) : Running (Except IoError Text) := do
  match ← openFile .read name with
  | .error error => return .error error
  | .ok channel => onStream 9 channel (takeAll 9)

def badNumber {α : Type} : Running α := do
  modify fun shell => { shell with line := shell.reached }
  failWith "Syntax error: Bad fd number"

def targetOf (run : Runner) : Redirect → Running Target
  | .file stream opening name => return .file stream opening (← Expand.toText (capture run) name)
  | .document stream number => return .document stream number
  | .copy stream name => do
    match ← Expand.toText (capture run) name with
    | ['-'] => return .copy stream none
    | [digit] => if digit.isDigit then return .copy stream (some (digit.toNat - '0'.toNat)) else badNumber
    | _ => badNumber

def cannotCreate (name : Text) (why : String) : Running Unit :=
  fail (ofString "cannot create " ++ name ++ ofString (": " ++ why))

def checkNew (name : Text) : Running Unit := do
  let shell ← get
  if shell.options.contains 'C' && shell.machine.disk.isFile (pathOf name) then
    cannotCreate name (reason .taken)

def redirect (run : Runner) : Target → Running Unit
  | .file stream opening name => do
    if opening = .write then checkNew name
    match ← openFile opening name with
    | .ok channel => setStream stream (some channel)
    | .error error =>
      if opening = .read then
        let why := if absent error then "No such file" else reason error
        fail (ofString "cannot open " ++ name ++ ofString (": " ++ why))
      else cannotCreate name (if absent error then "Directory nonexistent" else reason error)
  | .copy stream none => setStream stream none
  | .copy stream (some source) => do
    match (← get).streams.lookup source with
    | some channel => setStream stream (some channel)
    | none => if source ≠ stream then failWith s!"{source}: {reason badStream}"
  | .document stream number => do
    let text ← Expand.toDocument (capture run) ((← get).documents.getD number [])
    setStream stream (some (← addChannel (.source text)))

def redirectAll (run : Runner) (targets : List Target) : Running Bool := do
  try
    for target in targets do redirect run target
    return true
  catch halt => if halt = .failed then return false else throw halt

def restoreStreams (targets : List Target) (before : List (Nat × Nat)) : Running Unit := do
  for target in targets do setStream target.stream (before.lookup target.stream)

def redirected {α : Type} (run : Runner) (redirects : List Redirect) (keep : Bool) (body : Bool → Running α) :
    Running α := do
  let targets ← redirects.mapM (targetOf run)
  let before := (← get).streams
  try
    let result ← body (← redirectAll run targets)
    if !keep then restoreStreams targets before
    return result
  catch halt =>
    if !keep then restoreStreams targets before
    throw halt

end Shell

end InkProject.Script
