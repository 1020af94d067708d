import InkProject.Command.Arguments
import InkProject.Files.Create
set_option autoImplicit false

namespace InkProject.Command

inductive Task where
  | locate (root : Option Path) (name : Option String) (json : Bool)
  | compile (source : Path) (output : Option Path)
  | validate (story : Path) (state : Option Path)
  | create (directory : Path) (template : Option Path)
  | saveState (story : Path) (directory : Option Path) (stem : String)
deriving DecidableEq, Repr

structure Request where
  project : Path
  task : Task
deriving DecidableEq, Repr

inductive Line where
  | help
  | version
  | request (request : Request)
deriving DecidableEq, Repr

def pathOption (name : String) : OptionForm := ⟨name, none, .path⟩
def textOption (name : String) : OptionForm := ⟨name, none, .text⟩
def flagOption (name : String) : OptionForm := ⟨name, none, .nothing⟩

def shared : List OptionForm := [pathOption "project", flagOption "log-json"]

def helpQuestion : String × Char × Question := ("help", 'h', .help)
def versionQuestion : String × Char × Question := ("version", 'V', .version)

def mainForm : Form := ⟨shared, [helpQuestion, versionQuestion], none⟩

def commandForm (places : Nat) (own : List OptionForm) : Form := ⟨own ++ shared, [helpQuestion], some places⟩

def here : Path := Path.ofString "."

structure Entry where
  name : String
  form : Form
  task? : Given → Option Task

def commands : List Entry := [
  ⟨"locate", commandForm 0 [pathOption "root", textOption "name", flagOption "json"],
    fun given => some (.locate (given.path? "root") (given.text? "name") (given.has "json"))⟩,
  ⟨"compile", commandForm 1 [⟨"output", some 'o', .path⟩],
    fun given => (given.place? 0).map fun source => .compile source (given.path? "output")⟩,
  ⟨"validate", commandForm 1 [pathOption "state"],
    fun given => (given.place? 0).map fun story => .validate story (given.path? "state")⟩,
  ⟨"new", commandForm 1 [pathOption "template"],
    fun given => some (.create ((given.place? 0).getD here) (given.path? "template"))⟩,
  ⟨"save-state", commandForm 1 [pathOption "dir", textOption "name"],
    fun given => (given.place? 0).map fun story =>
      .saveState story (given.path? "dir") ((given.text? "name").getD Files.stateStem)⟩]

def questionLine : Question → Line
  | .help => .help
  | .version => .version

def Entry.read (command : Entry) (before : Given) (words : List Bytes) : Option Line :=
  match command.form.read words with
  | none => none
  | some (.question question) => some (questionLine question)
  | some (.given given _) => do
    let task ← command.task? given
    return .request ⟨((given.path? "project").or (before.path? "project")).getD here, task⟩

def Entry.bytes (command : Entry) : Bytes := Utf8.ofString command.name

def helpName : Bytes := Utf8.ofString "help"

def helpTopics : List (List Bytes) := [] :: [helpName] :: commands.map fun command => [command.bytes]

def Line.ofWords? (words : List Bytes) : Option Line :=
  match mainForm.read words with
  | none => none
  | some (.question question) => some (questionLine question)
  | some (.given _ []) => none
  | some (.given given (name :: rest)) =>
    if name = helpName then if helpTopics.contains rest then some .help else none
    else (commands.find? fun command => command.bytes = name).bind
      fun command => command.read given rest

end InkProject.Command
