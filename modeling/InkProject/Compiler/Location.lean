import InkProject.Compiler.Settings
import InkProject.Disk.Operations
import InkProject.Notice
set_option autoImplicit false

namespace InkProject.Compiler

def isHidden (directory : Path) (suffix : String) : Bool :=
  match directory.fileName? with
  | some name => (Utf8.ofString suffix).isSuffixOf name
  | none => false

structure Descriptor where
  name : FileName
  directory : Path
  hidden : Bool
deriving DecidableEq

def Descriptor.inDirectory (name : FileName) (directory : Path) (suffix : String) : Descriptor :=
  ⟨name, directory, isHidden directory suffix⟩

def Descriptor.path (descriptor : Descriptor) : Path := descriptor.directory.child descriptor.name.bytes

inductive CompanionState where
  | installed (name : FileName)
  | absent
deriving DecidableEq

inductive RelocationKind where
  | hideDirectory
  | renameCompanion
  | discardDuplicate
deriving DecidableEq, Repr

def RelocationKind.title : RelocationKind → String
  | .hideDirectory => "HideDirectory"
  | .renameCompanion => "RenameCompanion"
  | .discardDuplicate => "DiscardDuplicateCompanion"

structure Relocation where
  kind : RelocationKind
  source : Path
  target : Path
deriving DecidableEq, Repr

def Relocation.apply (relocation : Relocation) (disk : Disk) : Except IoError Disk :=
  match relocation.kind with
  | .hideDirectory | .renameCompanion => disk.rename relocation.source relocation.target
  | .discardDuplicate => disk.remove relocation.source

def replay (disk : Disk) (relocations : List Relocation) : Except IoError Disk :=
  relocations.foldlM (fun disk relocation => relocation.apply disk) disk

structure Located where
  path : Path
  descriptor : Descriptor
  companion : CompanionState
  relocations : List Relocation
deriving DecidableEq

inductive Refusal where
  | unnamed
  | occupied
  | differentCompanion
  | other (detail : String)
deriving DecidableEq, Repr

def Refusal.message : Refusal → String
  | .unnamed => "directory has no name to mark"
  | .occupied => "destination already exists"
  | .differentCompanion => "a different companion library already exists at the destination"
  | .other detail => detail

inductive LocateError where
  | configuration (fault : ConfigurationFault)
  | notFound (name : String) (root : Path)
  | search (path : Path) (error : IoError)
  | relocation (source target : Path) (reason : Refusal ⊕ IoError)
deriving DecidableEq

namespace LocateError

def message : LocateError → String
  | .configuration fault => s!"Configuration error: {fault.message}"
  | .notFound name root => s!"Executable '{name}' not found under {root.display}"
  | .search path error => s!"Failed to search {path.display}: {error.message}"
  | .relocation source target reason =>
    let why := match reason with
      | .inl refusal => refusal.message
      | .inr error => error.message
    s!"Failed to relocate {source.display} to {target.display}: {why}"

def notice (_ : LocateError) : Notice := .blocking

def cause? : LocateError → Option IoError
  | .search _ error | .relocation _ _ (.inr error) => some error
  | _ => none

end LocateError

end InkProject.Compiler
