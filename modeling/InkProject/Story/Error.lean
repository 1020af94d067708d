import InkProject.Shape
set_option autoImplicit false

namespace InkProject.Story

inductive Format where
  | story
  | state
deriving DecidableEq, Repr

def Format.name : Format → String
  | .story => "story"
  | .state => "state"

inductive SyntaxFault where
  | notJson (message : String)
  | notObject
  | noVersion (key : String)
  | shape (mismatch : Shape.Mismatch)
  | declarationsNotArray
  | noCallstack
  | flowWithoutCallstack (flow : String)
  | other (detail : String)
deriving DecidableEq, Repr

def SyntaxFault.message : SyntaxFault → String
  | .notJson message => message
  | .notObject => "expected a JSON object"
  | .noVersion key => s!"missing integer '{key}'"
  | .shape mismatch => mismatch.message
  | .declarationsNotArray => "'global decl' must be an array"
  | .noCallstack => "state has neither 'flows' nor 'callstackThreads'"
  | .flowWithoutCallstack flow => s!"flow '{flow}' has no 'callstack' object"
  | .other detail => detail

inductive InvariantFault where
  | declaredTwice (name : String)
  | neverDeclared (name : String)
  | unknownFlow (name : String)
  | other (detail : String)
deriving DecidableEq, Repr

def InvariantFault.message : InvariantFault → String
  | .declaredTwice name => s!"global variable '{name}' is declared twice"
  | .neverDeclared name => s!"state sets variable '{name}' which the story never declares"
  | .unknownFlow name => s!"current flow '{name}' is not among saved flows"
  | .other detail => detail

inductive EngineError where
  | malformed (format : Format) (fault : SyntaxFault)
  | unsupported (format : Format) (found least greatest : Int)
  | invariant (fault : InvariantFault)
  | panicked (message : String)
deriving DecidableEq, Repr

def EngineError.message : EngineError → String
  | .malformed format fault => s!"Malformed {format.name} JSON: {fault.message}"
  | .unsupported format found least greatest =>
    s!"Unsupported {format.name} version {found} (supported {least}..={greatest})"
  | .invariant fault => s!"Invariant violation: {fault.message}"
  | .panicked message => s!"Story engine panicked: {message}"

end InkProject.Story
