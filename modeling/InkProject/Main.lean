import InkProject.Command.Run
import InkProject.Script.Run
/- The command. The working directory and the project are read as a disk, the command is
   run on it, and what it has changed is written back. -/
set_option autoImplicit false

namespace InkProject

def entryAt (directory name : String) : IO.FS.DirEntry := { root := directory, fileName := name }

partial def readEntries (directory : String) : IO Entries := do
  let found ← (entryAt directory ".").path.readDir
  let mut entries := Entries.nil
  for entry in found do
    let path := entry.path
    let name := Utf8.ofString entry.fileName
    match (← path.symlinkMetadata).type with
    | .dir => entries := entries.put name (.dir (← readEntries path.toString))
    | .file =>
      let content ← IO.FS.readBinFile path
      entries := entries.put name (.file content.toList true)
    | .symlink =>
      if ← path.pathExists then
        entries := entries.put name (.link (Utf8.ofString (← IO.FS.realPath path).toString))
    | .other => pure ()
  return entries

def placeOf (path : Path) : Place := (Path.segments path.bytes).filter (· ≠ [])

def readInto (top : Entries) (directory : String) : IO Entries := do
  let place := placeOf (Path.ofString directory)
  let bare := (Disk.makeDirs ⟨top, []⟩ (Disk.pathOf place)).1
  return bare.top.set place (some (.dir (← readEntries directory)))

partial def writeNode (path : String) : Node → IO Unit
  | .file content _ => IO.FS.writeBinFile path ⟨content.toArray⟩
  | .link _ | .device _ => pure ()
  | .dir entries => do
    IO.FS.createDir path
    for (name, node) in entries.toList do
      writeNode (path ++ "/" ++ Utf8.lossyText name) node

def removeNode (path : String) : Node → IO Unit
  | .dir _ => IO.FS.removeDirAll path
  | _ => IO.FS.removeFile path

mutual
partial def writeChanges (directory : String) (old new : Entries) : IO Unit := do
  let pathOf (name : Bytes) : String := directory ++ "/" ++ Utf8.lossyText name
  let gone := old.toList.filter fun (name, _) => (new.find? name).isNone
  let come := new.toList.filter fun (name, _) => (old.find? name).isNone
  match gone, come with
  | [(before, held)], [(after, moved)] =>
    if held.isDir = moved.isDir then
      IO.FS.rename (pathOf before) (pathOf after)
      writeChange (pathOf after) held moved
    else
      removeNode (pathOf before) held
      writeNode (pathOf after) moved
  | _, _ =>
    for (name, node) in gone do removeNode (pathOf name) node
    for (name, node) in come do writeNode (pathOf name) node
  for (name, node) in new.toList do
    match old.find? name with
    | some held => writeChange (pathOf name) held node
    | none => pure ()

partial def writeChange (path : String) (before after : Node) : IO Unit := do
  match before, after with
  | .dir old, .dir new => if old ≠ new then writeChanges path old new
  | .file old _, .file new _ => if old ≠ new then IO.FS.writeBinFile path ⟨new.toArray⟩
  | _, _ =>
    if before ≠ after then
      removeNode path before
      writeNode path after
end

def snapshot (project : Path) : IO Disk := do
  let working := (← IO.currentDir).toString
  let top ← readInto .nil working
  let disk := Script.install ⟨top, placeOf (Path.ofString working)⟩
  if disk.exists? project then return disk
  match ← (IO.FS.realPath project.display).toBaseIO with
  | .ok found =>
    if ← found.isDir then return { disk with top := ← readInto disk.top found.toString }
    else return disk
  | .error _ => return disk

def runWords (words : List Bytes) : IO UInt32 := do
  let disk ← match Command.Line.ofWords? words with
    | some (.request request) => snapshot request.project
    | _ => pure ⟨.nil, []⟩
  let finished := Command.run Script.launch words disk
  writeChanges "" disk.top finished.disk.top
  IO.print finished.stdout
  IO.eprint finished.stderr
  return UInt32.ofNat finished.code

end InkProject

def main (words : List String) : IO UInt32 :=
  InkProject.runWords (words.map InkProject.Utf8.ofString)
