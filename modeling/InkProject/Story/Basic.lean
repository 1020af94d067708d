import InkProject.Story.Globals
import InkProject.Story.State
set_option autoImplicit false

namespace InkProject

structure Story where
  globals : Table Json
  state : Story.State
deriving DecidableEq

namespace Story

open Json

structure Summary where
  inkVersion : Int
  globals : Nat
  lists : Nat
deriving DecidableEq, Repr

def fields : List Field := [
  field "root" (decodeList .ok) true,
  field "listDefs" (decodeOption decodeObject) false]

structure Compiled where
  root : List Json
  lists : Option (Table Json)

def compiledOf (members : Table Json) : Except Shape.Mismatch Compiled := do
  let members ← decodeMembers fields members
  return ⟨← required "root" (decodeList .ok) members,
    ← optional "listDefs" (decodeOption decodeObject) none members⟩

def read (text : String) : Except EngineError (Story × Summary) := do
  let (version, members) ← storyVersions.read text
  let compiled ← storyVersions.shaped (compiledOf members)
  let globals ← declaredGlobals compiled.root
  return (⟨globals, .initial globals⟩, ⟨version, globals.length, (compiled.lists.getD []).length⟩)

def parse (text : String) : Except EngineError Story := (·.1) <$> read text

def undeclared? (story : Story) (state : State) : Option String :=
  state.values.keys.find? fun name => !story.globals.contains name

def load (story : Story) (text : String) : Except EngineError Story := do
  let state ← State.parse text
  match story.undeclared? state with
  | some name => .error (.invariant (.neverDeclared name))
  | none => .ok { story with state := { state with values := story.globals.overlay state.values } }

def save (story : Story) : String := story.state.text

def valueOf? (story : Story) (name : String) : Option Json := story.state.values.find? name

def hasVariables (story : Story) : Bool := !story.globals.isEmpty

end Story

end InkProject
