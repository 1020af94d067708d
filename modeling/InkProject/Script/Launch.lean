import InkProject.Script.Redirect
set_option autoImplicit false

namespace InkProject.Script

structure Start where
  program : Text
  name : Text
  arguments : List Text
deriving DecidableEq, Repr

def programMark : Text := '\x7f' :: ['E', 'L', 'F']

def programContent (name : Text) : Bytes := toBytes (programMark ++ name)

def programOf? (content : Text) : Option Text :=
  if programMark.isPrefixOf content then some (content.drop programMark.length) else none

def headSize : Nat := 256

def interpreter? (content : Text) : Except IoError (Text × List Text) :=
  match content with
  | '#' :: '!' :: _ =>
    let head := (content.take headSize).drop 2
    let line := head.takeWhile (· ≠ '\n')
    let hasEnd := line.length < head.length
    let start := line.dropWhile isBlank
    let isCut := !hasEnd && headSize ≤ content.length
    if isCut && !(start.any fun char => isBlank char || char = '\x00') then .error .badExecutable
    else if hasEnd && start = [] then .error .badExecutable
    else
      let text := if hasEnd then (start.reverse.dropWhile isBlank).reverse else start
      let path := text.takeWhile fun char => !isBlank char && char ≠ '\x00'
      if path = [] then .error .denied
      else
        let blanks := (text.drop path.length).takeWhile isBlank
        let option := (text.drop (path.length + blanks.length)).takeWhile (· ≠ '\x00')
        .ok (path, if blanks = [] || (option = [] && isCut) then [] else [option])
  | _ => .error .badExecutable

def interpreterLimit : Nat := 5

def resolve : Nat → Disk → Text → Text → List Text → Except IoError Start
  | 0, _, _, _, _ => .error .tooManyLinks
  | more + 1, disk, path, name, arguments => do
    let (_, node) ← disk.locate true (Shell.pathOf path)
    match node with
    | .file content true =>
      let content := ofBytes content
      match programOf? content with
      | some program => .ok ⟨program, name, arguments⟩
      | none =>
        let (next, option) ← interpreter? content
        resolve more disk next next (option ++ path :: arguments)
    | _ => .error .denied

def searched (shell : Shell) (name : Text) : List Text :=
  let directories := Expand.splitAtColons ((shell.valueOf (ofString "PATH")).getD [])
  directories.map fun directory =>
    if directory.isEmpty then name else directory ++ '/' :: name

def findProgram (shell : Shell) (name : Text) : Except IoError Text :=
  let disk := shell.machine.disk
  let paths := searched shell name
  let isProgram (path : Text) : Bool := match disk.look (Shell.pathOf path) with
    | .ok (.file _ executable) => executable
    | _ => false
  let isThere (path : Text) : Bool := disk.exists? (Shell.pathOf path)
  match paths.find? isProgram with
  | some path => .ok path
  | none => .error (if paths.any isThere then .denied else .notFound)

abbrev Caller := Text → List Text → Running IoError

def leaveWith {α : Type} (status : Nat) : Running α := do
  modify fun shell => { shell with status := status, traps := [] }
  throw .ended

def callFrom (become : Start → Running Unit) (name : Text) (arguments : List Text) :
    List Text → IoError → Running IoError
  | [], error => return error
  | path :: paths, found => do
    match resolve interpreterLimit (← get).machine.disk path name arguments with
    | .ok start =>
      become start
      return found
    | .error error =>
      if error = .badExecutable then
        let shell := ofString "/bin/sh"
        match resolve interpreterLimit (← get).machine.disk shell shell (path :: arguments) with
        | .ok start =>
          become start
          return found
        | .error error => return error
      else callFrom become name arguments paths (if Shell.absent error then found else error)

def callWith (become : Start → Running Unit) : Caller := fun name arguments => do
  let shell ← get
  let paths := if name.contains '/' || name.isEmpty then [name]
    else if (shell.valueOf (ofString "PATH")).isNone then
      ["/bin/", "/usr/bin/"].map fun directory => ofString directory ++ name
    else searched shell name
  callFrom become name arguments paths .notFound

end InkProject.Script
