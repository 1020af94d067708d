import InkProject.Script.Expand
import InkProject.Script.Read
import InkProject.Script.Signal
set_option autoImplicit false

namespace InkProject.Script

structure Manner where
  tested : Bool := false
  exits : Bool := false
deriving DecidableEq, Repr

abbrev Runner := Manner → Command → Running Unit

namespace Shell

def isOver (source : Source) : Bool :=
  match source.kept with
  | some .ended => true
  | _ => false

def readPart (text rest : Text) : Text := text.take (text.length - rest.length)

def runLines (run : Runner) (manner : Manner) : Nat → Source → Nat → Running Nat
  | 0, _, result => return result
  | fuel + 1, source, result => do
    let shell ← get
    match Source.nextLine { source with documents := shell.documents, aliases := shell.aliases } with
    | .error error source =>
      set { shell with documents := source.documents, line := error.line, reached := error.line }
      fail (ofString "Syntax error: " ++ error.message)
    | .ok found after =>
      set { shell with documents := after.documents, reached := after.line }
      if source.isFile && shell.options.contains 'v' then complain (readPart source.rest after.rest)
      match found with
      | none => return result
      | some command =>
        run { manner with exits := manner.exits && isOver after } command
        let shell ← get
        let result := if command.isNothing then result else shell.status
        if shell.skip = .none then runLines run manner fuel after result else return result

def runText (run : Runner) (manner : Manner) (text : Text) : Running Nat :=
  runLines run manner (text.length + 1) { rest := text } 0

def runFile (run : Runner) (text : Text) : Running Nat :=
  runLines run {} (text.length + 1) { rest := text, isFile := true } 0

def receive : Running Unit := do
  let shell ← get
  if shell.machine.signals.isEmpty then return ()
  let mine := (shell.machine.signals.filter fun (process, _) => process = shell.process).map Prod.snd
  set { shell with
    machine.signals := shell.machine.signals.filter fun (process, _) => process ≠ shell.process }
  for signal in mine do
    if signal = Signal.kill then throw (.killed signal)
    if !shell.ignores signal then
      if (shell.traps.lookup signal).isSome then
        modify fun shell => { shell with pending := signal :: shell.pending.filter (· ≠ signal) }
      else if !Signal.harmless.contains signal then throw (.killed signal)

def trapsFrom (run : Runner) (status : Nat) : List Nat → Running Unit
  | [] => return ()
  | signal :: signals => do
    let shell ← get
    if shell.skip ≠ .none then set { shell with pending := signal :: signals }
    else
      set { shell with pending := shell.pending.filter (· ≠ signal) }
      match shell.traps.lookup signal with
      | some text =>
        let _ ← runText run {} text
        if (← get).skip ≠ .returned then setStatus status
      | none => return ()
      trapsFrom run status signals

def takeTraps (run : Runner) : Running Unit := do
  let shell ← get
  if shell.pending.isEmpty || shell.skip ≠ .none then return ()
  let status := shell.saved.getD shell.status
  set { shell with saved := some status }
  trapsFrom run status (shell.pending.mergeSort)
  modify ({ · with saved := shell.saved })

def lastTrap (run : Runner) (shell : Shell) : Exit × Shell :=
  let shell := { shell with skip := .none, loops := 0 }
  match shell.traps.lookup 0 with
  | none => (.status shell.status, shell)
  | some text =>
    let started := { shell with
      traps := shell.traps.filter fun (signal, _) => signal ≠ 0, saved := some shell.status }
    match runText run {} text started with
    | .ok _ done => (.status shell.status, done)
    | .error (.killed signal) done => (.signal signal, done)
    | .error _ done => (.status done.status, done)

def runJob (job : Job) : Running Exit := do
  match job.finished with
  | some exit => return exit
  | none =>
    let shell ← get
    let (machine, exit) := job.run shell.machine
    let noted (other : Job) : Job :=
      if other.process = job.process then { other with finished := some exit } else other
    set { shell with machine := machine, jobs := shell.jobs.map noted }
    receive
    return exit

def runJobs : Running Unit := do
  for job in (← get).jobs do
    let _ ← runJob job

def complete (run : Runner) (body : Running Unit) (shell : Shell) : Exit × Machine :=
  let (exit, done) := match body shell with
    | .ok _ done => lastTrap run done
    | .error (.killed signal) done => (.signal signal, done)
    | .error _ done => lastTrap run done
  match runJobs done with
  | .ok _ done | .error _ done => (exit, done.machine)

def child (shell : Shell) : Shell :=
  let process := shell.machine.processes + 1
  { shell with
    machine.processes := process, process := process
    traps := shell.traps.filter fun (_, text) => text.isEmpty
    pending := [], saved := none, skip := .none, loops := 0, jobs := [] }

def fork (run : Runner) (body : Running Unit) : Running Exit := do
  let shell ← get
  let (exit, machine) := complete run body shell.child
  set { shell with machine := machine }
  receive
  return exit

def announce (exit : Exit) : Running Unit := do
  match exit with
  | .signal signal =>
    if !Signal.isSilent signal then complain (ofString (Signal.text signal ++ "\n"))
  | .status _ => return ()

def wait (exit : Exit) : Running Unit := do
  announce exit
  setStatus exit.code

def capture (run : Runner) : Capture := fun command => do
  if command.isNothing then return []
  let pipe ← addPipe none
  let channel ← addChannel (.sink pipe)
  let exit ← fork run do
    setStream 1 (some channel)
    run { exits := true } command
  announce exit
  let shell ← get
  set { shell with substituted := exit.code }
  let text := written shell.machine pipe
  return ((text.reverse.dropWhile (· = '\n')).reverse).filter (· ≠ '\x00')

def pipeRoom : Nat := 262144

def pipeFrom (run : Runner) (manner : Manner) : Option Nat → List Command → List Exit → Running (List Exit)
  | _, [], exits => return exits.reverse
  | input, command :: commands, exits => do
    let output ← if commands.isEmpty then pure none else some <$> addPipe (some pipeRoom)
    let exit ← fork run do
      match input with
      | some channel => setStream 0 (some channel)
      | none => pure ()
      match output with
      | some pipe => setStream 1 (some (← addChannel (.sink pipe)))
      | none => pure ()
      run { manner with exits := true } command
    let input ← match output with
      | some pipe => some <$> addChannel (.source (written (← get).machine pipe))
      | none => pure none
    pipeFrom run manner input commands (exit :: exits)

def pipeline (run : Runner) (manner : Manner) (commands : List Command) : Running Unit := do
  let exits ← pipeFrom run manner none commands []
  for exit in exits do announce exit
  setStatus ((exits.getLast?).map Exit.code |>.getD 0)

def background (run : Runner) (body : Running Unit) : Running Unit := do
  let shell ← get
  let child := shell.child
  let started : Running Unit := do
    setStream 0 (some (← addChannel (.device .null)))
    body
  let job : Job := {
    process := child.process
    run := fun machine =>
      let (exit, machine) := complete run started { child with machine := machine }
      (machine, exit) }
  set { shell with
    machine.processes := child.process, jobs := shell.jobs ++ [job], latestJob := some child.process }
  setStatus 0

end Shell

end InkProject.Script
