import InkProject.Disk.Operations
import InkProject.Script.Pattern
set_option autoImplicit false

namespace InkProject.Script.Glob

def segmentsFrom : Text → Text → List Text
  | read, [] => [read.reverse]
  | read, '\\' :: '/' :: rest => read.reverse :: segmentsFrom [] rest
  | read, '\\' :: char :: rest => segmentsFrom (char :: '\\' :: read) rest
  | read, '/' :: rest => read.reverse :: segmentsFrom [] rest
  | read, char :: rest => segmentsFrom (char :: read) rest

def segments (pattern : Text) : List Text := segmentsFrom [] pattern

def closesSet : Text → Bool
  | '\\' :: _ :: rest => closesSet rest
  | ']' :: _ => true
  | _ :: rest => closesSet rest
  | [] => false

def isOpen : Text → Bool
  | '\\' :: _ :: rest => isOpen rest
  | '*' :: _ | '?' :: _ => true
  | '[' :: rest =>
    let inner := match rest with
      | '!' :: rest => rest
      | _ => rest
    closesSet (inner.drop 1) || isOpen rest
  | _ :: rest => isOpen rest
  | [] => false

def plainText : Text → Text
  | '\\' :: char :: rest => char :: plainText rest
  | char :: rest => char :: plainText rest
  | [] => []

def namesIn (disk : Disk) (directory : Text) : List Text :=
  match disk.list ⟨toBytes (if directory = [] then ['.'] else directory)⟩ with
  | .ok entries => ['.'] :: ['.', '.'] :: entries.names.map ofBytes
  | .error _ => []

def wantsDot : Text → Bool
  | '\\' :: char :: _ => char = '.'
  | char :: _ => char = '.'
  | [] => false

def pathsFrom (disk : Disk) (directory : Text) : List Text → List Text
  | [] => []
  | part :: parts =>
    let onward (name : Text) : List Text :=
      if parts.isEmpty then [directory ++ name]
      else pathsFrom disk (directory ++ name ++ ['/']) parts
    if isOpen part then
      let shape := marks part
      let names := (namesIn disk directory).filter fun name =>
        (wantsDot part || name.head? ≠ some '.') && fits shape name
      names.flatMap onward
    else
      let name := plainText part
      if parts.isEmpty then
        let path := directory ++ name
        if (disk.locate false ⟨toBytes path⟩).isOk then [path] else []
      else onward name

def paths (disk : Disk) (pattern : Text) : List Text :=
  let parts := segments pattern
  if parts.any isOpen then
    (pathsFrom disk [] parts).mergeSort fun a b => decide (toBytes a ≤ toBytes b)
  else []

end InkProject.Script.Glob
