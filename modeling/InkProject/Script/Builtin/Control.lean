import InkProject.Script.Builtin.Basic
set_option autoImplicit false

namespace InkProject.Script.Builtin

open Shell

def always (name : String) (status : Nat) : Builtin := regular name fun _ _ => return status

def nothing : Builtin := special ":" fun _ _ => return 0

def leavingLoops (name : String) (skip : Nat → Skip) : Builtin := special name fun _ words => do
  let count ← match words with
    | word :: _ =>
      let count ← number word
      if count = 0 then failNumber word
      pure count
    | [] => pure 1
  let loops := (← get).loops
  if 0 < loops then modify ({ · with skip := skip (min count loops) })
  return 0

def «return» : Builtin := special "return" fun _ words => do
  let shell ← get
  let status ← match words with
    | word :: _ => number word
    | [] => pure (shell.saved.getD shell.status)
  modify ({ · with skip := .returned })
  return status

def exit : Builtin := special "exit" fun _ words => do
  let shell ← get
  let status ← match words with
    | word :: _ => number word
    | [] => pure (shell.saved.getD shell.status)
  setStatus status
  throw .ended

def eval : Builtin := special "eval" fun services words => do
  let words ← withoutOptions words
  if words.isEmpty then return 0
  runText services.run { tested := services.manner.tested } (joinedBy [' '] words)

def scriptFile (name : Text) : Running Text := do
  if name.contains '/' then return name
  let shell ← get
  let isFile (path : Text) : Bool := shell.machine.disk.isFile (pathOf path)
  match (searched shell name).find? isFile with
  | some path => return path
  | none => fail (name ++ ofString ": not found")

def source : Builtin := special "." fun services words => do
  match ← withoutOptions words with
  | [] => return 0
  | name :: _ =>
    let path ← scriptFile name
    match ← readNamed path with
    | .error error =>
      let why := if absent error then "No such file" else reason error
      fail (ofString "cannot open " ++ path ++ ofString (": " ++ why))
    | .ok text =>
      modify ({ · with builtin := some path })
      let status ← runFile services.run text
      if (← get).skip = .returned then modify ({ · with skip := .none })
      return status

def missedStatus (error : IoError) : Nat := if absent error then 127 else 126

def missedText (error : IoError) : String := if absent error then "not found" else reason error

def exec : Builtin := special "exec" fun services words => do
  match ← withoutOptions words with
  | [] => return 0
  | name :: arguments =>
    let error ← services.call name arguments
    warn (name ++ ofString (": " ++ missedText error))
    setStatus (missedStatus error)
    throw .ended

def showTrap (signal : Nat) (text : Text) : Running Unit :=
  sayLine (ofString "trap -- " ++ quoted text ++ ' ' :: Signal.name signal)

def setTraps (action : Option Text) : List Text → Running Nat
  | [] => return 0
  | word :: words => do
    match Signal.ofText? word with
    | none =>
      complain (ofString "trap: " ++ word ++ ofString ": bad trap\n")
      return 1
    | some signal =>
      let action := action.filter (· ≠ ['-'])
      modify fun shell =>
        let others := shell.traps.filter fun (other, _) => other ≠ signal
        { shell with traps := match action with
          | some text => (signal, text) :: others
          | none => others }
      setTraps action words

def trap : Builtin := special "trap" fun _ words => do
  match ← withoutOptions words with
  | [] =>
    for (signal, text) in (← get).traps.mergeSort fun a b => a.1 ≤ b.1 do showTrap signal text
    return 0
  | [word] => setTraps none [word]
  | word :: words =>
    if (Signal.ofDigits? word).isSome then setTraps none (word :: words)
    else setTraps (some word) words

def jobOf (word : Text) : Running (Option Job) := do
  let shell ← get
  match word with
  | '%' :: rest =>
    let found := match (String.ofList rest).toNat? with
      | some place => if place = 0 then none else shell.jobs[place - 1]?
      | none => if rest = ['%'] || rest = ['+'] || rest = [] then shell.jobs.getLast? else none
    if found.isNone then fail (ofString "No such job: " ++ word)
    return found
  | _ =>
    let process ← number word
    return shell.jobs.find? fun job => job.process = process

def waitEach : List Text → Nat → Running Nat
  | [], status => return status
  | word :: words, status => do
    match ← jobOf word with
    | none => waitEach words status
    | some job =>
      let exit ← runJob job
      announce exit
      modify fun shell => { shell with jobs := shell.jobs.filter fun other => other.process ≠ job.process }
      waitEach words exit.code

def wait : Builtin := regular "wait" fun _ words => do
  match ← withoutOptions words with
  | [] =>
    runJobs
    modify ({ · with jobs := [] })
    return 0
  | words => waitEach words 127

def listSignals : List Text → Running Nat
  | [] => do
    sayLine ['0']
    for name in Signal.names.drop 1 do sayLine name
    return 0
  | word :: _ => do
    let given ← number word
    let signal := if 128 < given then given - 128 else given
    if 0 < signal && signal < Signal.count then
      sayLine (Signal.name signal)
      return 0
    else fail (ofString "invalid signal number or exit status: " ++ word)

def send (signal process : Nat) : Running (Except IoError Unit) := do
  let shell ← get
  let isDone := shell.jobs.any fun job => job.process = process && job.finished.isSome
  if shell.jobs.any fun job => job.process = process then
    let ended (job : Job) : Job :=
      if job.process = process && !isDone && !Signal.harmless.contains signal then
        { job with finished := some (.signal signal) }
      else job
    set { shell with jobs := shell.jobs.map ended }
    return .ok ()
  else if process ≤ shell.machine.processes && shell.root ≤ process then
    if signal ≠ 0 then
      set { shell with machine.signals := shell.machine.signals ++ [(process, signal)] }
      receive
    return .ok ()
  else if process + 1 = shell.root then return .ok ()
  else return .error (.system 3)

def sendEach (signal : Nat) : List Text → Nat → Running Nat
  | [], status => return status
  | word :: words, status => do
    let process ← match word with
      | '%' :: _ => pure (((← jobOf word).map Job.process).getD 0)
      | _ => number word
    match ← send signal process with
    | .ok () => sendEach signal words status
    | .error error =>
      warn (ofString (reason error ++ "\n"))
      sendEach signal words 1

def killUsage : String := "Usage: kill [-s sigspec | -signum | -sigspec] [pid | job]... or\nkill -l [exitstatus]"

def kill : Builtin := regular "kill" fun _ words => do
  let direct := match words with
    | ('-' :: name) :: _ => Signal.ofText? name
    | _ => none
  let (flags, targets) ←
    if direct.isSome then pure ([], words.drop 1)
    else if (words.head?).any fun word => word.head? = some '-' then options "ls:" words
    else pure ([], words)
  let listing := flags.any fun (flag, _) => flag = 'l'
  let mut signal := direct
  for (flag, value) in flags do
    if flag = 's' then
      signal := Signal.ofText? value
      if signal.isNone then fail (ofString "invalid signal number or name: " ++ value)
  if listing then
    if signal.isSome then failWith killUsage
    listSignals targets
  else if targets.isEmpty then failWith killUsage
  else sendEach (signal.getD 15) targets 0

def noJob (name : String) : Builtin := regular name fun _ _ => failWith "No current job"

def ofControl : List Builtin := [nothing, always "true" 0, always "false" 1,
  leavingLoops "break" .left, leavingLoops "continue" .resumed, «return», exit, eval, source, exec, trap,
  wait, kill, always "jobs" 0, noJob "fg", noJob "bg"]

end InkProject.Script.Builtin
