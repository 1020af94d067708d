import InkProject.Files.Fresh
import InkProject.Log
import InkProject.Outcome
set_option autoImplicit false

namespace InkProject.Files

inductive FileError where
  | io (path : Path) (error : IoError)
  | templateNotText (path : Path)
deriving DecidableEq, Repr

namespace FileError

def message : FileError → String
  | .io path error => s!"I/O error on {path.display}: {error.message}"
  | .templateNotText path => s!"Template {path.display} is not valid UTF-8"

def cause? : FileError → Option IoError
  | .io _ error => some error
  | .templateNotText _ => none

end FileError

inductive FileEvent where
  | templateMissing (template : Path)
  | storyCreated (path : Path) (fromTemplate : Bool)
  | stateSaved (path : Path)
deriving DecidableEq, Repr

def FileEvent.line : FileEvent → Log.Line
  | .templateMissing template =>
    ⟨.warn, "Could not find story template; new file will be empty",
      [("template", .text template.display)]⟩
  | .storyCreated path fromTemplate =>
    ⟨.info, "Created story file",
      [("path", .text path.display), ("from_template", .flag fromTemplate)]⟩
  | .stateSaved path => ⟨.info, "Saved story state", [("path", .text path.display)]⟩

structure Created where
  path : Path
  fromTemplate : Bool
deriving DecidableEq, Repr

def mark : Char := '\ufeff'
def storyExtension : String := "ink"
def storyStem : String := "New Ink"
def stateExtension : String := "json"
def stateStem : String := "storyState"

def marked (text : List Char) : Bytes :=
  Utf8.encode (mark :: if text.head? = some mark then text.tail else text)

def template? (disk : Disk) (template : Path) : Except FileError (Option (List Char)) :=
  if !disk.isFile template then .ok none
  else match disk.read template with
    | .error error => .error (.io template error)
    | .ok bytes => match Utf8.decode? bytes with
      | none => .error (.templateNotText template)
      | some text => .ok (some text)

def createFrom (target template : Path) (disk : Disk) : Outcome FileError Created FileEvent :=
  match template? disk template with
  | .error error => ⟨.error error, disk, []⟩
  | .ok text =>
    let events := if text.isNone then [.templateMissing template] else []
    match disk.write target (marked (text.getD [])) with
    | .error error => ⟨.error (.io target error), disk, events⟩
    | .ok disk =>
      ⟨.ok ⟨target, text.isSome⟩, disk, events ++ [.storyCreated target text.isSome]⟩

def createStory (directory template : Path) (disk : Disk) : Outcome FileError Created FileEvent :=
  createFrom (free disk directory storyStem storyExtension) template disk

def saveState (directory : Path) (stem json : String) (disk : Disk) :
    Outcome FileError Path FileEvent :=
  match disk.makeDirs directory with
  | (disk, .error error) => ⟨.error (.io directory error), disk, []⟩
  | (disk, .ok ()) =>
    let path := free disk directory stem stateExtension
    match disk.write path (Utf8.ofString json) with
    | .error error => ⟨.error (.io path error), disk, []⟩
    | .ok disk => ⟨.ok path, disk, [.stateSaved path]⟩

end InkProject.Files
