import InkProject.Script.Builtin.Whereabouts
set_option autoImplicit false

namespace InkProject.Script

namespace Shell

def afterCommand : List Text → Option (List Text)
  | [] => none
  | word :: rest =>
    if word = ['-', '-'] then if rest.isEmpty then none else some rest
    else match word with
      | '-' :: letter :: letters =>
        if (letter :: letters).all (· = 'p') then afterCommand rest else none
      | _ => some (word :: rest)

def commandName : Text := "command".toList

def calledFrom (shell : Shell) : Nat → List Text → Bool → List Text × Bool
  | 0, words, plain => (words, plain)
  | fuel + 1, words, plain =>
    if words.head? = some commandName && (plain || (shell.functions.lookup commandName).isNone) then
      match afterCommand (words.drop 1) with
      | some rest => calledFrom shell fuel rest true
      | none => (words, plain)
    else (words, plain)

def called (shell : Shell) (words : List Text) : List Text × Bool :=
  if words.head? = some commandName then calledFrom shell (words.length + 1) words false
  else (words, false)

def mayAssign : List Text := ["command", "export", "readonly", "local", "alias"].map String.toList

def assignsAfter (shell : Shell) (words : List Text) : Bool :=
  match words with
  | [] => false
  | first :: _ => mayAssign.contains first && match called shell words with
    | (name :: _, plain) =>
      (plain || (shell.functions.lookup name).isNone) && (Builtin.find? name).any Builtin.assigns
    | _ => false

def fieldsOf (run : Runner) (assigns : Bool) (word : Word) : Running (List Text) := do
  match if assigns then assignment? word else none with
  | some (.mk name value) => return [name ++ '=' :: (← Expand.toValue (capture run) value)]
  | none => Expand.toFields (capture run) word

def fieldsFrom (run : Runner) : List Word → List Text → Running (List Text)
  | [], read => return read
  | word :: words, read => do
    let next ← fieldsOf run (assignsAfter (← get) read) word
    fieldsFrom run words (if read.isEmpty then next else read ++ next)

def callFunction (run : Runner) (manner : Manner) (body : Command) (arguments : List Text) :
    Running Unit := do
  let shell ← get
  let before := shell.arguments
  let place := shell.optionPlace
  let loops := shell.loops
  let leave : Running Unit := modify fun shell => { shell with
    arguments := before, optionPlace := place, loops := loops
    skip := if shell.skip = .returned then .none else shell.skip }
  set { shell with arguments := arguments, optionPlace := (1, 0), loops := 0 }
  try
    run { tested := manner.tested } body
    leave
  catch halt =>
    leave
    throw halt

def callBuiltin (services : Services) (builtin : Builtin) (arguments : List Text) (isFatal : Bool) :
    Running Unit := do
  let shell ← get
  let outer := shell.builtin
  let depth := shell.shadowed.length
  set { shell with builtin := some builtin.name, unwritten := none }
  try
    let status ← builtin.act services arguments
    if (← get).unwritten.isSome then
      modify ({ · with builtin := some builtin.name })
      warn (builtin.name ++ ofString ": I/O error")
      setStatus (status ||| 1)
    else setStatus status
    modify ({ · with builtin := outer, unwritten := none })
  catch halt =>
    modify ({ · with builtin := outer, unwritten := none })
    if halt = .failed && !isFatal then leaveLocals depth else throw halt

def become (call : Caller) (name : Text) (arguments : List Text) : Running Unit := do
  let error ← call name arguments
  warn (name ++ ofString (": " ++ Builtin.missedText error))
  setStatus (Builtin.missedStatus error)
  throw .ended

def hasTraps (shell : Shell) : Bool := shell.traps.any fun (_, text) => !text.isEmpty

def pauses (name : Text) : Bool := name = "sleep".toList

def callProgram (services : Services) (name : Text) (arguments : List Text) : Running Unit := do
  let shell ← get
  if services.manner.exits && !hasTraps shell && shell.jobs.isEmpty then
    become services.call name arguments
  else
    if pauses name then runJobs
    wait (← fork services.run (become services.call name arguments))

def track (name : Text) : Running (Except IoError Unit) :=
  modifyGet fun shell => match findProgram shell name with
    | .ok path =>
      (.ok (), if (shell.tracked.lookup name).isSome then shell
        else { shell with tracked := (name, path) :: shell.tracked })
    | .error error => (.error error, shell)

def foresee (command : Command) : Running Unit := do
  match command with
  | .simple _ _ (word :: _) _ =>
    let shell ← get
    let name := (bare? word).getD []
    if isName name && (shell.functions.lookup name).isNone && (Builtin.find? name).isNone then
      let _ ← track name
  | _ => return ()

def callNamed (services : Services) (name : Text) (arguments : List Text) : Running Unit := do
  if name.contains '/' then callProgram services name arguments
  else match ← track name with
    | .ok () => callProgram services name arguments
    | .error error =>
      warn (name ++ ofString (": " ++ Builtin.missedText error))
      setStatus 127

def traceFront (run : Runner) : Running Text := do
  let shell ← get
  let text := (shell.valueOf (ofString "PS4")).getD []
  if !text.any fun char => ['$', '\x60', '\\'].contains char then return text
  let fuel := 24 * (text.length + 8)
  let read := Source.pieces (Source.innerCommand fuel) .document fuel 0 false [.literal [] true]
  match read { rest := text } with
  | .ok word _ =>
    modify fun shell => { shell with options := shell.options.filter (· ≠ 'x') }
    let front ← Expand.toDocument (capture run) word
    modify ({ · with options := shell.options })
    return front
  | .error _ _ => return text

def trace (run : Runner) (streams : List (Nat × Nat)) (words : List Text) : Running Unit := do
  if ← hasOption 'x' then
    let front ← traceFront run
    let now := (← get).streams
    modify ({ · with streams := streams })
    complain (front ++ joinedBy [' '] words ++ ['\n'])
    modify ({ · with streams := now })

def assignFor (run : Runner) (isLocal exports : Bool) (assignment : Assignment) : Running Text := do
  let .mk name word := assignment
  let value ← Expand.toValue (capture run) word
  if isLocal then shadow name
  assign name value
  if isLocal || exports then
    rebind name (((← get).binding? name).map ({ · with exported := true }))
  return name ++ '=' :: value

def execName : Text := "exec".toList

def runSimple (services : Services) (line : Nat) (assignments : List Assignment) (words : List Word)
    (redirects : List Redirect) : Running Unit := do
  modify fun shell => { shell with line := line, substituted := 0 }
  let run := services.run
  let read ← fieldsFrom run words []
  let shell ← get
  let (fields, plain) := called shell read
  let name := fields.headD []
  let function := if plain then none else shell.functions.lookup name
  let builtin := if fields.isEmpty || function.isSome then none else Builtin.find? name
  let isSpecial := !plain && builtin.any Builtin.isSpecial
  let isExec := name = execName && builtin.isSome
  let isLocal := !(fields.isEmpty || isSpecial)
  let streams := shell.streams
  let depth := shell.shadowed.length
  redirected run redirects isExec fun isOpen => do
    if isOpen then
      if isLocal then modify fun shell => { shell with shadowed := [] :: shell.shadowed }
      let assigned ← assignments.mapM (assignFor run isLocal (isExec && 1 < fields.length))
      trace run streams (assigned ++ fields)
      match fields with
      | [] => modify fun shell => { shell with status := shell.substituted }
      | name :: arguments => match function, builtin with
        | some body, _ => callFunction run services.manner body arguments
        | none, some builtin => callBuiltin services builtin arguments isSpecial
        | none, none => callNamed services name arguments
      if isLocal then leaveLocals depth
    else
      setStatus 2
      if isSpecial then throw .failed

end Shell

end InkProject.Script
