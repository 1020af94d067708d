import InkProject.Path.Basic
import InkProject.Toml.Read
set_option autoImplicit false

namespace InkProject.Project

open Shape

structure CompilerSection where
  searchRoot : Path := Path.ofString "Assets"
  customName : Option String := none
deriving DecidableEq, Repr

structure TemplateSection where
  path : Path := Path.ofString "Assets/Plugins/Ink/Template/template.ink"
deriving DecidableEq, Repr

structure StateSection where
  directory : Path := Path.ofString "Assets/Ink"
deriving DecidableEq, Repr

structure Config where
  compiler : CompilerSection := {}
  templates : TemplateSection := {}
  state : StateSection := {}
deriving DecidableEq, Repr

def readText : Toml → Except Mismatch String
  | .string text => .ok text
  | toml => toml.mismatch "a string"

def readPath : Toml → Except Mismatch Path
  | .string text => .ok (Path.ofString text)
  | toml => toml.mismatch "path string"

structure Setting (σ : Type) where
  name : String
  put : σ → Toml → Except Mismatch σ

def putByName {σ : Type} (settings : List (Setting σ)) (values : σ) :
    List (String × Toml) → Except Mismatch σ
  | [] => .ok values
  | (name, toml) :: rest => match settings.find? (·.name = name) with
    | none => .error (.unknownField name (settings.map Setting.name))
    | some setting => do putByName settings (← setting.put values toml) rest

def putByPlace {σ : Type} (values : σ) : List (Setting σ) → List Toml → Except Mismatch σ
  | setting :: settings, toml :: rest => do putByPlace (← setting.put values toml) settings rest
  | _, _ => .ok values

def momentKey : String := "$__toml_private_datetime"

def readSection {σ : Type} (what : String) (settings : List (Setting σ)) (default : σ) :
    Toml → Except Mismatch σ
  | .table entries => putByName settings default entries
  | .array items => putByPlace default settings items
  | .moment => .error (.unknownField momentKey (settings.map Setting.name))
  | toml => toml.mismatch what

def compilerSettings : List (Setting CompilerSection) := [
  ⟨"search_root", fun values toml => do return { values with searchRoot := ← readPath toml }⟩,
  ⟨"custom_name", fun values toml => do return { values with customName := some (← readText toml) }⟩]

def templateSettings : List (Setting TemplateSection) := [
  ⟨"path", fun values toml => do return { values with path := ← readPath toml }⟩]

def stateSettings : List (Setting StateSection) := [
  ⟨"directory", fun values toml => do return { values with directory := ← readPath toml }⟩]

def sections : List (Setting Config) := [
  ⟨"compiler", fun config toml => do
    return { config with compiler := ← readSection "struct CompilerSection" compilerSettings {} toml }⟩,
  ⟨"templates", fun config toml => do
    return { config with templates := ← readSection "struct TemplateSection" templateSettings {} toml }⟩,
  ⟨"state", fun config toml => do
    return { config with state := ← readSection "struct StateSection" stateSettings {} toml }⟩]

inductive ConfigError where
  | notToml
  | shape (mismatch : Mismatch)
deriving DecidableEq, Repr

def Config.parse (text : String) : Except ConfigError Config :=
  match Toml.parse text with
  | none => .error .notToml
  | some toml => (readSection "struct ProjectConfig" sections {} toml).mapError .shape

end InkProject.Project
