import InkProject.Story.Basic
set_option autoImplicit false

namespace InkProject.Story

abbrev Session := ExceptT EngineError (StateM Story)

namespace Session

def load (text : String) : Session Unit := do
  let state ← ofExcept (State.parse text)
  let story ← get
  match story.undeclared? state with
  | some name => throw (.invariant (.neverDeclared name))
  | none => set { story with state := { state with values := story.globals.overlay state.values } }

def loadAll : List String → StateM Story (List (Except EngineError Unit))
  | [] => return []
  | text :: texts => return (← (load text).run) :: (← loadAll texts)

end Session

def attempt (story : Story) (text : String) : Except EngineError Unit × Story := ((Session.load text).run.run story).run

def attempts (story : Story) (texts : List String) : List (Except EngineError Unit) × Story :=
  ((Session.loadAll texts).run story).run

end InkProject.Story
