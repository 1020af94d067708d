import InkProject.FileName
set_option autoImplicit false

namespace InkProject

inductive Platform where
  | windows
  | macOs
  | linux
deriving DecidableEq, Repr

namespace Platform

def ofSystem (name : String) : Platform :=
  if name = "windows" then .windows else if name = "macos" then .macOs else .linux

def executable : Platform → String
  | .windows => "inklecate_win.exe"
  | .macOs => "inklecate_mac"
  | .linux => "inklecate"

end Platform

namespace Compiler

inductive ConfigurationFault where
  | emptyHiddenSuffix
  | emptyPendingSuffix
  | notDirectory (root : Path)
  | badExecutable (name : String)
  | other (detail : String)
deriving DecidableEq, Repr

def ConfigurationFault.message : ConfigurationFault → String
  | .emptyHiddenSuffix => "hidden suffix must not be empty"
  | .emptyPendingSuffix => "pending suffix must not be empty"
  | .notDirectory root => s!"search root {root.display} is not an existing directory"
  | .badExecutable name => s!"'{name}' is not a valid executable file name"
  | .other detail => detail

def defaultHiddenSuffix : String := "~"
def defaultPendingSuffix : String := ".temp"
def defaultCompanion : FileName := ⟨"ink-engine-runtime.dll", by simp [FileName.Valid]⟩

-- A directory whose name has the hidden suffix is left out of the project's assets;
-- the companion library has the pending suffix until it is in place.
structure Settings where
  root : Path
  executable : FileName
  companion : FileName
  hiddenSuffix : String
  pendingSuffix : String
deriving DecidableEq

namespace Settings

def standard (root : Path) (executable : FileName) : Settings :=
  ⟨root, executable, defaultCompanion, defaultHiddenSuffix, defaultPendingSuffix⟩

def forPlatform (root : Path) (platform : Platform) (custom : Option String) :
    Except ConfigurationFault Settings :=
  let name := match custom with
    | some name => if name = "" then platform.executable else name
    | none => platform.executable
  match FileName.ofString? name with
  | some executable => .ok (standard root executable)
  | none => .error (.badExecutable name)

def check (settings : Settings) : Except ConfigurationFault Unit :=
  if settings.hiddenSuffix = "" then .error .emptyHiddenSuffix
  else if settings.pendingSuffix = "" then .error .emptyPendingSuffix
  else .ok ()

def pendingCompanion (settings : Settings) : String :=
  settings.companion.pending settings.pendingSuffix

end Settings

end Compiler

end InkProject
