import InkProject.Disk.Walk
set_option autoImplicit false

namespace InkProject.Disk

def look (disk : Disk) (path : Path) : Except IoError Node := return (← disk.locate true path).2

def exists? (disk : Disk) (path : Path) : Bool := (disk.look path).isOk

def isFile (disk : Disk) (path : Path) : Bool :=
  match disk.look path with
  | .ok (.file _ _) => true
  | _ => false

def isDir (disk : Disk) (path : Path) : Bool :=
  match disk.look path with
  | .ok (.dir _) => true
  | _ => false

def canonical (disk : Disk) (path : Path) : Except IoError Path :=
  return pathOf (← disk.locate true path).1

def read (disk : Disk) (path : Path) : Except IoError Bytes := do
  match ← disk.look path with
  | .file content _ => .ok content
  | .device _ => .ok []
  | _ => .error .isDirectory

def readText (disk : Disk) (path : Path) : Except IoError String := do
  match Utf8.text? (← disk.read path) with
  | some text => .ok text
  | none => .error .notText

def directorySize : Nat := 4096

def size (disk : Disk) (path : Path) : Except IoError Nat := do
  match ← disk.look path with
  | .file content _ => .ok content.length
  | .device _ => .ok 0
  | _ => .ok directorySize

def list (disk : Disk) (path : Path) : Except IoError Entries := do
  match ← disk.look path with
  | .dir entries => .ok entries
  | _ => .error .notDirectory

def set (disk : Disk) (place : Place) (node : Option Node) : Disk :=
  { disk with top := disk.top.set place node }

def write (disk : Disk) (path : Path) (content : Bytes) : Except IoError Disk := do
  match ← disk.walk .creation path (steps path.bytes) with
  | .vacant parent name => .ok (disk.set (parent ++ [name]) (some (.file content false)))
  | .held place => match disk.top.at? place with
    | some (.file _ executable) => .ok (disk.set place (some (.file content executable)))
    | some (.device device) => if device = .full ∧ content ≠ [] then .error .noSpace else .ok disk
    | _ => .error .isDirectory

structure Ending where
  parent : Place
  name? : Option Bytes
  slashed : Bool

def isName (segment : Bytes) : Bool := segment ≠ Path.dot && segment ≠ Path.dots

def ending (disk : Disk) (path : Path) : Except IoError Ending := do
  let named := (Path.segments path.bytes).filter (· ≠ [])
  match ← disk.walk .target path (named.dropLast ++ [Path.dot]) with
  | .vacant _ _ => .error .notFound
  | .held parent => .ok ⟨parent, named.getLast?.filter isName, path.endsInSlash⟩

def Ending.place (ending : Ending) (unnamed : IoError) : Except IoError Place :=
  match ending.name? with
  | none => .error unnamed
  | some name => if nameLimit < name.length then .error .nameTooLong else .ok (ending.parent ++ [name])

def makeDir (disk : Disk) (path : Path) : Except IoError Disk := do
  let place ← (← disk.ending path).place .taken
  match disk.top.at? place with
  | some _ => .error .taken
  | none => .ok (disk.set place (some (.dir .nil)))

def orIsDir (disk : Disk) (path : Path) (error : IoError) : Disk × Except IoError Unit :=
  (disk, if disk.isDir path then .ok () else .error error)

-- The directories above are made first where they are missing; they stay when the
-- directory itself cannot be made.
def makeDirsFrom (disk : Disk) : Nat → Path → Disk × Except IoError Unit
  | 0, _ => (disk, .error .noParent)
  | fuel + 1, path =>
    if path.bytes = [] then (disk, .ok ())
    else match disk.makeDir path with
      | .ok made => (made, .ok ())
      | .error error =>
        if error ≠ .notFound then disk.orIsDir path error
        else match path.parent? with
          | none => (disk, .error .noParent)
          | some parent => match disk.makeDirsFrom fuel parent with
            | (disk, .error error) => (disk, .error error)
            | (disk, .ok ()) => match disk.makeDir path with
              | .ok made => (made, .ok ())
              | .error error => disk.orIsDir path error

def makeDirs (disk : Disk) (path : Path) : Disk × Except IoError Unit :=
  disk.makeDirsFrom (path.bytes.length + 1) path

def remove (disk : Disk) (path : Path) : Except IoError Disk := do
  let ending ← disk.ending path
  let place ← ending.place .isDirectory
  match disk.top.at? place with
  | none => .error .notFound
  | some (.dir _) => .error .isDirectory
  | some _ => if ending.slashed then .error .notDirectory else .ok (disk.set place none)

def replaceable (moved : Node) : Option Node → Except IoError Unit
  | none => .ok ()
  | some (.dir entries) =>
    if !moved.isDir then .error .isDirectory
    else if entries = .nil then .ok () else .error .notEmpty
  | some _ => if moved.isDir then .error .notDirectory else .ok ()

def moveWorking (old new cwd : Place) : Place :=
  if old.isPrefixOf cwd then new ++ cwd.drop old.length else cwd

-- Both ways have to lead somewhere before the names at their ends are looked at.
def rename (disk : Disk) (source target : Path) : Except IoError Disk := do
  let old ← disk.ending source
  let new ← disk.ending target
  if old.name?.isNone ∨ new.name?.isNone then .error .busy
  else
    let oldPlace ← old.place .busy
    match disk.top.at? oldPlace with
    | none => .error .notFound
    | some node =>
      let newPlace ← new.place .busy
      if !node.isDir ∧ (old.slashed ∨ new.slashed) then .error .notDirectory
      else if oldPlace = newPlace then .ok disk
      else if node.isDir ∧ oldPlace.isPrefixOf newPlace then .error .invalid
      else if newPlace.isPrefixOf oldPlace then .error .notEmpty
      else
        replaceable node (disk.top.at? newPlace)
        let moved := (disk.set oldPlace none).set newPlace (some node)
        .ok { moved with cwd := moveWorking oldPlace newPlace disk.cwd }

end InkProject.Disk
