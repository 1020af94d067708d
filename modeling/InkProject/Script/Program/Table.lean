import InkProject.Script.Program.Evaluation
import InkProject.Script.Program.Fields
import InkProject.Script.Program.Listing
import InkProject.Script.Program.Making
import InkProject.Script.Program.Names
import InkProject.Script.Program.Search
import InkProject.Script.Program.Sorting
import InkProject.Script.Program.Streams
import InkProject.Script.Program.Translate
set_option autoImplicit false

namespace InkProject.Script.Program

open Shell

def ofStreams : List (String × Program) := [("cat", cat), ("head", head), ("tail", tail), ("wc", wc),
  ("tee", tee), ("tr", tr), ("sort", sort), ("cut", cut),
  ("grep", searchWith none), ("egrep", searchWith (some 'E')), ("fgrep", searchWith (some 'F'))]

def ofFiles : List (String × Program) := [("cp", cp), ("mv", mv), ("rm", rm), ("mkdir", mkdir),
  ("rmdir", rmdir), ("touch", touchProgram), ("ln", ln), ("chmod", chmod), ("ls", ls)]

def ofNames : List (String × Program) := [("true", always 0), ("false", always 1),
  ("echo", echo), ("printf", printf), ("basename", basename), ("dirname", dirname), ("pwd", pwd),
  ("sleep", sleep), ("env", env), ("readlink", readlink), ("realpath", realpath), ("seq", seq),
  ("test", test), ("[", bracket), ("expr", expr)]

def table : List (Text × Program) :=
  (ofStreams ++ ofFiles ++ ofNames).map fun (name, program) => (name.toList, program)

def shells : List Text := ["sh", "dash", "bash"].map String.toList

def names : List Text := shells ++ table.map Prod.fst

def startVariables (shell : Shell) : List (Text × Variable) :=
  let taken := shell.bindings.filterMap fun (name, held) =>
    if held.exported && held.value.isSome then some (name, { held with readOnly := false }) else none
  let plain (name value : String) : Text × Variable := (ofString name, { value := some (ofString value) })
  let fixed := [plain "PPID" (toString (shell.root - 1)), plain "PS4" "+ ", plain "PS2" "> ", plain "PS1" "# ",
    plain "OPTIND" "1", plain "IFS" " \t\n"]
  let added := fixed.foldl (fun bindings (name, held) => (name, held) :: bindings.filter (·.1 ≠ name)) taken
  if (added.lookup (ofString "PATH")).isSome then added
  else plain "PATH" "/usr/local/sbin:/usr/local/bin:/usr/sbin:/usr/bin:/sbin:/bin" :: added

def startDirectory (shell : Shell) : Text :=
  let here := ofBytes (Disk.pathOf shell.machine.disk.cwd).bytes
  match shell.valueOf (ofString "PWD") with
  | some named =>
    let leads := match shell.machine.disk.locate true (pathOf named) with
      | .ok (place, _) => place = shell.machine.disk.cwd
      | .error _ => false
    if named.head? = some '/' && leads then named else here
  | none => here

def freshShell (name : Text) (arguments : List Text) (options : List Char) (shell : Shell) : Shell :=
  let directory := startDirectory shell
  let bindings := (startVariables shell).filter fun (name, _) => name ≠ ofString "PWD"
  { machine := shell.machine, process := shell.process, root := shell.process, name := name
    arguments := arguments
    bindings := (ofString "PWD", { value := some directory, exported := true }) :: bindings
    streams := shell.streams, directory := directory, options := options, jobs := shell.jobs
    ignored := shell.ignored ++ (shell.traps.filter fun (_, text) => text.isEmpty).map Prod.fst
    mask := shell.mask }

structure Call where
  options : List Char := []
  command : Bool := false
  input : Bool := false
  rest : List Text := []

def callLetters (value : Bool) : Text → List Text → Call → Running (List Text × Call)
  | [], words, call => return (words, call)
  | letter :: letters, words, call => do
    match letter with
    | 'c' => callLetters value letters words { call with command := true }
    | 'l' => callLetters value letters words call
    | 'o' => match words with
      | name :: words => match Builtin.optionNames.find? fun (_, other) => other.toList = name with
        | some (letter, _) =>
          let others := call.options.filter (· ≠ letter)
          callLetters value letters words { call with options := if value then letter :: others else others }
        | none => failWith s!"Illegal option -o {shown name}"
      | [] => callLetters value letters [] call
    | _ =>
      if Builtin.optionNames.any fun (other, _) => other = letter && letter.isAlpha then
        let others := call.options.filter (· ≠ letter)
        callLetters value letters words { call with
          options := if value then letter :: others else others, input := call.input || letter = 's' }
      else failWith s!"Illegal option -{letter}"

def callFrom : Nat → List Text → Call → Running Call
  | 0, words, call => return { call with rest := words }
  | fuel + 1, words, call => do
    match words with
    | ['-'] :: rest | ['-', '-'] :: rest => return { call with rest := rest }
    | ('-' :: letters) :: rest =>
      let (rest, call) ← callLetters true letters rest call
      callFrom fuel rest call
    | ('+' :: letters) :: rest =>
      let (rest, call) ← callLetters false letters rest call
      callFrom fuel rest call
    | _ => return { call with rest := words }

def script (run : Runner) (arguments : List Text) : Running Unit := do
  modify fun shell => { freshShell shell.name [] [] shell with line := 0 }
  let call ← callFrom (arguments.length + 1) arguments {}
  let name := (← get).name
  if call.command then
    match call.rest with
    | [] => failWith "-c requires an argument"
    | text :: rest =>
      modify fun shell => { shell with
        name := rest.headD name, arguments := rest.drop 1, options := call.options }
      let _ ← runText run { exits := true } text
  else
    let (text, name, rest) ← match if call.input then [] else call.rest with
      | [] => match ← takeAll 0 with
        | .ok text => pure (text, name, call.rest)
        | .error _ => pure ([], name, call.rest)
      | path :: rest => match ← readNamed path with
        | .ok text => pure (text, path, rest)
        | .error .isDirectory => pure ([], path, rest)
        | .error error =>
          let why := if absent error then "No such file" else reason error
          fail (ofString "cannot open " ++ path ++ ofString (": " ++ why))
    let options := if call.rest.isEmpty || call.input then 's' :: call.options.filter (· ≠ 's') else call.options
    modify fun shell => { shell with name := name, arguments := rest, options := options }
    let _ ← runFile run text

def finished (program : Program) (call : Caller) (arguments : List Text) : Running Unit := do
  modify ({ · with unwritten := none, builtin := none })
  let status ← program call arguments
  match (← get).unwritten with
  | some error =>
    reportError (ofString "write error") error
    leaveWith (if status = 0 then 1 else status)
  | none => leaveWith status

def callDepth : Nat := 64

def callerOf (run : Runner) : Nat → Caller
  | 0 => fun _ _ => return .tooManyLinks
  | depth + 1 => callWith fun start => do
    modify ({ · with name := start.name, builtin := none })
    if shells.contains start.program then
      script run start.arguments
      throw .ended
    else match table.lookup start.program with
      | some program => finished program (callerOf run depth) start.arguments
      | none => leaveWith 127

def caller (run : Runner) : Caller := callerOf run callDepth

end InkProject.Script.Program
