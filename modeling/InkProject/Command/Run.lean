import InkProject.Command.Usage
import InkProject.Compiler.Codec
import InkProject.Path.Relative
import InkProject.Project.Config
import InkProject.Story.Validation
set_option autoImplicit false

namespace InkProject.Command

open Compiler Files Project

structure Finished where
  code : Nat
  stdout : String
  stderr : String
  disk : Disk
deriving DecidableEq

inductive Failure where
  | reading (what : String) (path : Path) (error : IoError)
  | project (path : Path) (error : ConfigError)
  | settings (fault : ConfigurationFault)
  | locating (error : LocateError)
  | compiling (error : CompileError)
  | file (error : FileError)
  | story (path : Path) (error : Story.EngineError)
  | pathNotText
deriving DecidableEq

def chain (message : String) (cause : Option IoError) : String :=
  match cause with
  | some error => s!"{message}: {error.message}"
  | none => message

def Failure.message : Failure → String
  | .reading what path error => s!"reading {what}{path.display}: {error.message}"
  | .project path .notToml => s!"parsing {path.display}: TOML parse error"
  | .project path (.shape mismatch) => s!"parsing {path.display}: TOML parse error: {mismatch.message}"
  | .settings fault => (LocateError.configuration fault).message
  | .locating error => chain error.message error.cause?
  | .compiling error => chain error.message error.cause?
  | .file error => chain error.message error.cause?
  | .story path error => s!"{path.display} is not a valid compiled story: {error.message}"
  | .pathNotText => "path contains invalid UTF-8 characters"

structure Step (α : Type) where
  result : Except Failure α
  disk : Disk

def Step.ofOutcome {ε α ν : Type} (failure : ε → Failure) (outcome : Outcome ε α ν) : Step α :=
  ⟨outcome.result.mapError failure, outcome.disk⟩

structure Answer where
  code : Nat
  text : String

def configName : String := "inkbridge.toml"

def loadConfig (disk : Disk) (project : Path) : Except Failure Config :=
  let path := project.childNamed configName
  if !disk.isFile path then .ok {}
  else match disk.readText path with
    | .error error => .error (.reading "" path error)
    | .ok text => (Config.parse text).mapError (.project path)

def settingsFor (project : Path) (config : Config) (root : Option Path) (name : Option String) :
    Except Failure Settings :=
  (Settings.forPlatform (root.getD (project.join config.compiler.searchRoot)) .linux
    (name.or config.compiler.customName)).mapError .settings

def locateFor (project : Path) (config : Config) (root : Option Path) (name : Option String)
    (disk : Disk) : Step Located :=
  match settingsFor project config root name with
  | .error failure => ⟨.error failure, disk⟩
  | .ok settings => .ofOutcome .locating (Compiler.locate .sorted settings disk)

def verdictAnswer (path : Path) (verdict : Story.Verdict) : Answer :=
  ⟨if verdict.isValid then 0 else 1, s!"{path.display}: {verdict.message}\n"⟩

def readStory (what : String) (disk : Disk) (path : Path) : Except Failure String :=
  (disk.readText path).mapError (.reading what path)

def runLocate (project : Path) (config : Config) (root : Option Path) (name : Option String)
    (json : Bool) (disk : Disk) : Step Answer :=
  let located := locateFor project config root name disk
  let shown (found : Located) : Except Failure Answer :=
    if json then match found.encode? with
      | some value => .ok ⟨0, value.indented ++ "\n"⟩
      | none => .error .pathNotText
    else .ok ⟨0, found.path.display ++ "\n"⟩
  ⟨located.result.bind shown, located.disk⟩

def messageLine (message : Message) : String := s!"{message.kind.title}: {message.text}\n"

def runCompile (launch : Launcher) (project : Path) (config : Config) (source : Path)
    (output : Option Path) (disk : Disk) : Step Answer × String :=
  let output := output.getD (source.withExtension (Utf8.ofString stateExtension))
  let located := locateFor project config none none disk
  match located.result with
  | .error failure => (⟨.error failure, located.disk⟩, "")
  | .ok found =>
    let compiled := Compiler.compile launch found.path source output located.disk
    match compiled.result with
    | .error error => (⟨.error (.compiling error), compiled.disk⟩, "")
    | .ok report =>
      let said := String.join (report.messages.map messageLine)
      if !report.succeeded then (⟨.ok ⟨1, ""⟩, compiled.disk⟩, said)
      else
        let checked := (readStory "compiled story " compiled.disk output).map fun json =>
          verdictAnswer output (Story.jsonEngine.checkStory json).value
        (⟨checked, compiled.disk⟩, said)

def runValidate (story : Path) (state : Option Path) (disk : Disk) : Except Failure Answer := do
  let text ← readStory "" disk story
  match state with
  | none => return verdictAnswer story (Story.jsonEngine.checkStory text).value
  | some state =>
    let saved ← readStory "" disk state
    return verdictAnswer story (Story.jsonEngine.checkState text saved).value

def projectDisplay (disk : Disk) (project path : Path) : String :=
  let canonical (path : Path) : Path := (disk.canonical path).toOption.getD path
  ((canonical path).projectRelative? (canonical project)).getD path.display

def createdAnswer (project : Path) (step : Step Path) : Step Answer :=
  ⟨step.result.map fun path => ⟨0, projectDisplay step.disk project path ++ "\n"⟩, step.disk⟩

def runCreate (project : Path) (config : Config) (directory : Path) (template : Option Path)
    (disk : Disk) : Step Answer :=
  let template := template.getD (project.join config.templates.path)
  let created := Step.ofOutcome .file (Files.createStory directory template disk)
  createdAnswer project ⟨created.result.map Created.path, created.disk⟩

def runSaveState (project : Path) (config : Config) (path : Path) (directory : Option Path)
    (stem : String) (disk : Disk) : Step Answer :=
  match readStory "" disk path with
  | .error failure => ⟨.error failure, disk⟩
  | .ok text => match (Story.jsonEngine.loadStory text).value with
    | .error error => ⟨.error (.story path error), disk⟩
    | .ok (story : Story) =>
      let directory := directory.getD (project.join config.state.directory)
      createdAnswer project (.ofOutcome .file (Files.saveState directory stem story.save disk))

def runTask (launch : Launcher) (request : Request) (config : Config) (disk : Disk) :
    Step Answer × String :=
  let project := request.project
  match request.task with
  | .locate root name json => (runLocate project config root name json disk, "")
  | .compile source output => runCompile launch project config source output disk
  | .validate story state => (⟨runValidate story state disk, disk⟩, "")
  | .create directory template => (runCreate project config directory template disk, "")
  | .saveState story directory stem => (runSaveState project config story directory stem disk, "")

def perform (launch : Launcher) (request : Request) (disk : Disk) : Finished :=
  match loadConfig disk request.project with
  | .error failure => ⟨1, "", s!"error: {failure.message}\n", disk⟩
  | .ok config =>
    let (step, said) := runTask launch request config disk
    match step.result with
    | .ok answer => ⟨answer.code, said ++ answer.text, "", step.disk⟩
    | .error failure => ⟨1, said, s!"error: {failure.message}\n", step.disk⟩

def versionText : String := "inkbridge 0.1.0\n"

def usageText : String :=
  "Usage: inkbridge [--project <dir>] [--log-json] <command>\n\n" ++
  "  locate [--root <dir>] [--name <name>] [--json]\n" ++
  "  compile <source> [-o <path>]\n" ++
  "  validate <story> [--state <path>]\n" ++
  "  new [<dir>] [--template <path>]\n" ++
  "  save-state <story> [--dir <dir>] [--name <name>]\n"

def usageCode : Nat := 2

def run (launch : Launcher) (words : List Bytes) (disk : Disk) : Finished :=
  match Line.ofWords? words with
  | none => ⟨usageCode, "", usageText, disk⟩
  | some .help => ⟨0, usageText, "", disk⟩
  | some .version => ⟨0, versionText, "", disk⟩
  | some (.request request) => perform launch request disk

end InkProject.Command
