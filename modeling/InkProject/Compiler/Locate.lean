import InkProject.Compiler.Candidates
import InkProject.Log
import InkProject.Outcome
import InkProject.Text.Quoted
/- Locating the compiler: of all candidates the first is taken, its directory is hidden
   unless it is, and the companion library that waits next to it is put in place.
   Choosing only looks at the disk, and hiding and settling change it by relocations. -/
set_option autoImplicit false

namespace InkProject.Compiler

inductive LocateEvent where
  | candidate (path : Path)
  | several (executable : FileName) (chosen : Path) (ignored : List Path)
  | alreadyHidden (directory : Path)
  | relocated (relocation : Relocation)
  | duplicateRemoved (path : Path)
deriving DecidableEq

def quotedPaths (paths : List Path) : String :=
  "[" ++ ", ".intercalate (paths.map fun path => Quoted.quoteBytes path.bytes) ++ "]"

def LocateEvent.line : LocateEvent → Log.Line
  | .candidate path => ⟨.debug, "Found compiler candidate", [("path", .text path.display)]⟩
  | .several executable chosen ignored =>
    ⟨.warn, "Multiple compiler executables found; using the first",
      [("executable", .text executable.text), ("chosen", .text chosen.display),
        ("ignored", .text (quotedPaths ignored))]⟩
  | .alreadyHidden directory =>
    ⟨.debug, "Compiler directory already hidden", [("directory", .text directory.display)]⟩
  | .relocated relocation =>
    ⟨.info, "Relocated",
      [("from", .text relocation.source.display), ("to", .text relocation.target.display),
        ("kind", .text relocation.kind.title)]⟩
  | .duplicateRemoved path =>
    ⟨.info, "Removed duplicate pending companion library", [("path", .text path.display)]⟩

def Relocation.event (relocation : Relocation) : LocateEvent :=
  match relocation.kind with
  | .discardDuplicate => .duplicateRemoved relocation.source
  | _ => .relocated relocation

structure Choice where
  chosen : Path
  ignored : List Path

def searchRoot (disk : Disk) (settings : Settings) : Except LocateError (Path × Entries) :=
  match settings.check with
  | .error fault => .error (.configuration fault)
  | .ok () =>
    if !disk.isDir settings.root then .error (.configuration (.notDirectory settings.root))
    else match disk.canonical settings.root with
      | .error error => .error (.search settings.root error)
      | .ok root => match disk.list settings.root with
        | .error error => .error (.search settings.root error)
        | .ok entries => .ok (root, entries)

def choose (order : Enumeration) (settings : Settings) (disk : Disk) :
    List LocateEvent × Except LocateError Choice :=
  match searchRoot disk settings with
  | .error error => ([], .error error)
  | .ok (root, entries) =>
    let result := search disk order settings.executable root entries
    let events := result.found.map .candidate
    match result.failure with
    | some (directory, error) => (events, .error (.search directory error))
    | none => match ranked settings.hiddenSuffix result.found with
      | [] => (events, .error (.notFound settings.executable.text root))
      | [chosen] => (events, .ok ⟨chosen, []⟩)
      | chosen :: ignored =>
        (events ++ [.several settings.executable chosen ignored], .ok ⟨chosen, ignored⟩)

-- A rename never takes the place of what exists.
def move (kind : RelocationKind) (disk : Disk) (source target : Path) :
    Except LocateError (Disk × Relocation) :=
  if disk.exists? target then .error (.relocation source target (.inl .occupied))
  else
    let relocation : Relocation := ⟨kind, source, target⟩
    match relocation.apply disk with
    | .error error => .error (.relocation source target (.inr error))
    | .ok moved => .ok (moved, relocation)

def hiddenSibling (directory : Path) (suffix : String) : Except LocateError Path :=
  match directory.fileName? with
  | none => .error (.relocation directory directory (.inl .unnamed))
  | some name => .ok (directory.withFileName (name ++ Utf8.ofString suffix))

def hide (settings : Settings) (disk : Disk) (directory : Path) :
    Except LocateError (Disk × Path × Option Relocation) :=
  if isHidden directory settings.hiddenSuffix then .ok (disk, directory, none)
  else do
    let target ← hiddenSibling directory settings.hiddenSuffix
    let (disk, relocation) ← move .hideDirectory disk directory target
    return (disk, target, some relocation)

def sameContents (disk : Disk) (a b : Path) : Except IoError Bool := do
  if (← disk.size a) ≠ (← disk.size b) then return false
  return (← disk.read a) = (← disk.read b)

def settle (settings : Settings) (disk : Disk) (directory : Path) :
    Except LocateError (Disk × Option Relocation) :=
  let final := directory.child settings.companion.bytes
  let pending := directory.childNamed settings.pendingCompanion
  if !disk.isFile pending then .ok (disk, none)
  else if disk.exists? final then
    match sameContents disk pending final with
    | .error error => .error (.relocation pending final (.inr error))
    | .ok false => .error (.relocation pending final (.inl .differentCompanion))
    | .ok true =>
      let relocation : Relocation := ⟨.discardDuplicate, pending, final⟩
      match relocation.apply disk with
      | .error error => .error (.relocation pending final (.inr error))
      | .ok disk => .ok (disk, some relocation)
  else do
    let (disk, relocation) ← move .renameCompanion disk pending final
    return (disk, some relocation)

def companionState (settings : Settings) (disk : Disk) (directory : Path) : CompanionState :=
  if disk.isFile (directory.child settings.companion.bytes) then .installed settings.companion
  else .absent

def directoryOf (path : Path) : Path := path.parent?.getD ⟨[]⟩

def locate (order : Enumeration) (settings : Settings) (disk : Disk) :
    Outcome LocateError Located LocateEvent :=
  match choose order settings disk with
  | (events, .error error) => ⟨.error error, disk, events⟩
  | (events, .ok choice) =>
    match hide settings disk (directoryOf choice.chosen) with
    | .error error => ⟨.error error, disk, events⟩
    | .ok (disk, directory, hidden) =>
      let events := events ++ [match hidden with
        | some relocation => relocation.event
        | none => .alreadyHidden directory]
      match settle settings disk directory with
      | .error error => ⟨.error error, disk, events⟩
      | .ok (disk, settled) =>
        let descriptor := Descriptor.inDirectory settings.executable directory settings.hiddenSuffix
        ⟨.ok ⟨descriptor.path, descriptor, companionState settings disk directory,
            hidden.toList ++ settled.toList⟩,
          disk, events ++ settled.toList.map Relocation.event⟩

end InkProject.Compiler
