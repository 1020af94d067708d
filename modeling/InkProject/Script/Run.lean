import InkProject.Compiler.Report
import InkProject.Script.Program.Table
/- Running commands. Each is run with less fuel than the one that calls for it, and what
   no fuel is left for is ended as if from outside. -/
set_option autoImplicit false

namespace InkProject.Script

namespace Shell

inductive Turn where
  | onward
  | resumed
  | over
deriving DecidableEq, Repr

def endTurn : Running Turn :=
  modifyGet fun shell => match shell.skip with
    | .none => (.onward, shell)
    | .left loops =>
      (.over, { shell with skip := if loops ≤ 1 then .none else .left (loops - 1) })
    | .resumed loops =>
      if loops ≤ 1 then (.resumed, { shell with skip := .none })
      else (.over, { shell with skip := .resumed (loops - 1) })
    | .returned => (.over, shell)

def isReturned : Running Bool := return (← get).skip = .returned

def loopFrom (test body : Running Unit) (wanted : Bool) : Nat → Nat → Running Nat
  | 0, _ => throw (.killed Signal.kill)
  | turns + 1, status => do
    test
    let tested := (← get).status
    let returned ← isReturned
    match ← endTurn with
    | .over => return if returned then tested else status
    | .resumed => loopFrom test body wanted turns status
    | .onward =>
      if decide (tested = 0) ≠ wanted then return status
      body
      let done := (← get).status
      match ← endTurn with
      | .over => return done
      | _ => loopFrom test body wanted turns done

def eachFrom (name : Text) (body : Running Unit) : List Text → Nat → Running Nat
  | [], status => return status
  | value :: values, _ => do
    assign name value
    body
    let done := (← get).status
    match ← endTurn with
    | .over => return done
    | _ => eachFrom name body values done

def looping (loop : Running Nat) : Running Unit := do
  modify fun shell => { shell with loops := shell.loops + 1 }
  let status ← loop
  modify fun shell => { shell with loops := shell.loops - 1, status := status }

def fitsAny (run : Runner) (text : Text) : List Word → Running Bool
  | [] => return false
  | pattern :: patterns => do
    if fits (← Expand.toMarks (capture run) pattern) text then return true
    fitsAny run text patterns

def selectFrom (run : Runner) (manner : Manner) (text : Text) : List Arm → Running Unit
  | [] => setStatus 0
  | .mk patterns body :: arms => do
    if ← fitsAny run text patterns then
      if body.isNothing then setStatus 0 else run manner body
    else selectFrom run manner text arms

def redirectSurely (run : Runner) (targets : List Target) : Running Unit := do
  for target in targets do redirect run target

def setLine (line : Nat) : Running Unit := modify ({ · with line := line })

def isSkipping : Running Bool := return (← get).skip ≠ .none

def perform (run : Runner) (turns : Nat) (manner : Manner) (command : Command) : Running Bool := do
  let inner : Manner := { tested := manner.tested }
  let asking : Manner := { tested := true }
  match command with
  | .nothing => return false
  | .simple line assignments words redirects =>
    runSimple ⟨run, Program.caller run, manner⟩ line assignments words redirects
    return true
  | .sequence first second =>
    run inner first
    if !(← isSkipping) then run manner second
    return false
  | .both first second =>
    run asking first
    if (← get).status = 0 && !(← isSkipping) then run manner second
    return false
  | .either first second =>
    run asking first
    if (← get).status ≠ 0 && !(← isSkipping) then run manner second
    return false
  | .negated inner =>
    run asking inner
    modify fun shell => { shell with status := if shell.status = 0 then 1 else 0 }
    return false
  | .pipe commands =>
    for command in commands do foresee command
    pipeline run inner commands
    return true
  | .branch test body otherwise =>
    run asking test
    if ← isSkipping then return false
    if (← get).status = 0 then run manner body
    else if otherwise.isNothing then setStatus 0
    else run manner otherwise
    return false
  | .loop wanted test body =>
    looping (loopFrom (run asking test) (run inner body) wanted turns 0)
    return false
  | .each line name words body =>
    setLine line
    let values ← Expand.allToFields (capture run) words
    looping (eachFrom name (run inner body) values 0)
    return false
  | .select line word arms =>
    setLine line
    let text ← Expand.toText (capture run) word
    selectFrom run manner text arms
    return false
  | .nested line inner redirects =>
    setLine line
    let targets ← redirects.mapM (targetOf run)
    let body : Running Unit := do
      redirectSurely run targets
      run { manner with exits := true } inner
    if manner.exits && !hasTraps (← get) then
      modify ({ · with traps := [] })
      body
    else wait (← fork run body)
    return true
  | .background line inner redirects =>
    setLine line
    let targets ← redirects.mapM (targetOf run)
    background run do
      redirectSurely run targets
      run { exits := true } inner
    return true
  | .define _ name body =>
    modify fun shell => { shell with
      functions := (name, body) :: shell.functions.filter fun (other, _) => other ≠ name, status := 0 }
    return false
  | .redirected line body redirects =>
    setLine line
    redirected run redirects false fun isOpen => do
      if isOpen then run inner body else setStatus 2
      return !isOpen

end Shell

open Shell

def run : Nat → Runner
  | 0, _, _ => throw (.killed Signal.kill)
  | fuel + 1, manner, command => do
    if ← hasOption 'n' then
      if manner.exits then throw .ended
    else
      let isChecked ← if command.isNothing then pure false else do
        takeTraps (run fuel)
        perform (run fuel) fuel manner command
      takeTraps (run fuel)
      let shell ← get
      if isChecked && !manner.tested && shell.status ≠ 0 && shell.options.contains 'e' then throw .ended
      if manner.exits then throw .ended

def runFuel : Nat := 1000000000

def startShell (disk : Disk) : Shell := {
  machine := {
    disk := disk, channels := #[.source [], .sink 0, .sink 1], pipes := #[{}, {}] }
  name := [], streams := [(0, 0), (1, 1), (2, 2)]
  bindings := [(ofString "HOME", { value := some (ofString "/root"), exported := true }),
    (ofString "PATH", {
      value := some (ofString "/usr/local/sbin:/usr/local/bin:/usr/sbin:/usr/bin:/sbin:/bin"), exported := true })] }

def finish (exit : Exit) (machine : Machine) : Compiler.Finish := {
  exitCode := match exit with
    | .status number => some (Int.ofNat (number % 256))
    | .signal _ => none
  stdout := toBytes (written machine 0)
  stderr := toBytes (written machine 1) }

def launch : Compiler.Launcher := fun disk executable arguments =>
  if executable.bytes.contains 0 || arguments.any (·.contains 0) then (disk, .error .nulInArgument)
  else
    let path := ofBytes executable.bytes
    match resolve interpreterLimit disk path path (arguments.map ofBytes) with
    | .error error => (disk, .error error)
    | .ok _ =>
      let run := run runFuel
      let body : Running Unit := do
        let _ ← Program.caller run path (arguments.map ofBytes)
        throw .ended
      let (exit, machine) := complete run body (startShell disk)
      ({ machine.disk with cwd := disk.cwd }, .ok (finish exit machine))

def systemDirectories : List String := ["/dev", "/etc", "/home", "/opt", "/root", "/tmp", "/usr/bin",
  "/usr/lib", "/usr/local/bin", "/usr/sbin", "/var/tmp"]

def systemLinks : List (String × String) := [("bin", "usr/bin"), ("lib", "usr/lib"), ("sbin", "usr/sbin")]

def devices : List (String × Device) := [("null", .null), ("full", .full)]

def install (disk : Disk) : Disk :=
  let bare := systemDirectories.foldl (fun disk name => (disk.makeDirs (Path.ofString name)).1) disk
  let put (disk : Disk) (place : List Bytes) (node : Node) : Disk :=
    if (disk.top.at? place).isSome then disk else disk.set place (some node)
  let linked := systemLinks.foldl (fun disk (name, target) =>
    put disk [Utf8.ofString name] (.link (Utf8.ofString target))) bare
  let equipped := devices.foldl (fun disk (name, device) =>
    put disk (["dev", name].map Utf8.ofString) (.device device)) linked
  Program.names.foldl (fun disk name =>
    put disk (["usr", "bin"].map Utf8.ofString ++ [toBytes name]) (.file (programContent name) true)) equipped

end InkProject.Script
