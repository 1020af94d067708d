import InkProject.Log
import InkProject.Notice
import InkProject.Story.Basic
/- Checking stories and states with any engine. An engine may answer, fail or panic;
   whatever it does, a check has an answer, and what the engine could not do is noted. -/
set_option autoImplicit false

namespace InkProject.Story

-- A text is dropped quietly; what is armed panics when it is dropped, with what it holds.
inductive Panic where
  | text (message : String)
  | other
  | armed (last : Panic)
deriving DecidableEq, Repr

def Panic.message : Panic → String
  | .text message => message
  | .other | .armed _ => "non-string panic payload"

def Panic.last? : Panic → Option Panic
  | .text _ | .other => none
  | .armed last => some last

inductive Call (α : Type) where
  | returned (value : α)
  | failed (error : EngineError)
  | panicked (payload : Panic)

structure Engine where
  Parsed : Type
  Note : Type
  parse : String → List Note × Call Parsed
  load : Parsed → String → List Note × Call Parsed
  hasVariables : Parsed → Call Bool

inductive CheckEvent (ν : Type) where
  | engine (note : ν)
  | storyRefused (error : EngineError)
  | stateRefused (error : EngineError)
deriving DecidableEq

structure Checked (ν α : Type) where
  value : α
  events : List (CheckEvent ν)

inductive Verdict where
  | valid
  | invalidStory (error : EngineError)
  | invalidState (error : EngineError)
deriving DecidableEq, Repr

namespace Verdict

def isValid (verdict : Verdict) : Bool := verdict = .valid

def cause? : Verdict → Option EngineError
  | .valid => none
  | .invalidStory error | .invalidState error => some error

def notice? : Verdict → Option Notice
  | .valid => none
  | .invalidStory _ | .invalidState _ => some .nonBlocking

def message : Verdict → String
  | .valid => "valid"
  | .invalidStory error => s!"invalid story: {error.message}"
  | .invalidState error => s!"invalid story state: {error.message}"

end Verdict

structure Caller (ν : Type) (m : Type → Type) where
  ask : {α : Type} → List ν × Call α → m (Except EngineError α)
  note : CheckEvent ν → m Unit

namespace Engine

section

variable {m : Type → Type} [Monad m] (engine : Engine) (caller : Caller engine.Note m) (story state : String)

def loadStoryBy : m (Except EngineError engine.Parsed) := do
  match ← caller.ask (engine.parse story) with
  | .ok parsed => return .ok parsed
  | .error error =>
    caller.note (.storyRefused error)
    return .error error

def checkStoryBy : m Verdict := do
  match ← engine.loadStoryBy caller story with
  | .ok _ => return .valid
  | .error error => return .invalidStory error

def checkStateBy : m Verdict := do
  match ← engine.loadStoryBy caller story with
  | .error error => return .invalidStory error
  | .ok parsed =>
    match ← caller.ask (engine.load parsed state) with
    | .ok _ => return .valid
    | .error error =>
      caller.note (.stateRefused error)
      return .invalidState error

def acceptsStateBy : m Bool := do
  match ← engine.checkStateBy caller story state with
  | .invalidState _ => return false
  | _ => return true

def declaresVariablesBy : m Bool := do
  match ← engine.loadStoryBy caller story with
  | .error _ => return false
  | .ok parsed =>
    match ← caller.ask ([], engine.hasVariables parsed) with
    | .ok answer => return answer
    | .error _ => return false

end

end Engine

def Call.contain {α : Type} : Call α → Except EngineError α
  | .returned value => .ok value
  | .failed error => .error error
  | .panicked payload => .error (.panicked payload.message)

instance (ν : Type) : Monad (Checked ν) where
  pure value := ⟨value, []⟩
  bind checked next :=
    let later := next checked.value
    ⟨later.value, checked.events ++ later.events⟩

-- What is asked is answered, whatever it panics with.
def answered {ν : Type} : Caller ν (Checked ν) where
  ask made := ⟨made.2.contain, made.1.map .engine⟩
  note event := ⟨(), [event]⟩

namespace Engine

variable (engine : Engine) (story state : String)

def loadStory : Checked engine.Note (Except EngineError engine.Parsed) := engine.loadStoryBy answered story
def checkStory : Checked engine.Note Verdict := engine.checkStoryBy answered story
def checkState : Checked engine.Note Verdict := engine.checkStateBy answered story state
def acceptsState : Checked engine.Note Bool := engine.acceptsStateBy answered story state
def declaresVariables : Checked engine.Note Bool := engine.declaresVariablesBy answered story

end Engine

def Summary.line (summary : Summary) : Log.Line :=
  ⟨.debug, "Parsed compiled story",
    [("ink_version", .integer summary.inkVersion), ("globals", .integer summary.globals),
      ("lists", .integer summary.lists)]⟩

def CheckEvent.line {ν : Type} (note : ν → Log.Line) : CheckEvent ν → Log.Line
  | .engine own => note own
  | .storyRefused error => ⟨.debug, "Story failed to parse", [("error", .text error.message)]⟩
  | .stateRefused error => ⟨.debug, "Story state failed to load", [("error", .text error.message)]⟩

def callOf {α : Type} : Except EngineError α → Call α
  | .ok value => .returned value
  | .error error => .failed error

def jsonEngine : Engine where
  Parsed := Story
  Note := Summary
  parse text := match Story.read text with
    | .ok (story, summary) => ([summary], .returned story)
    | .error error => ([], .failed error)
  load story text := ([], callOf (story.load text))
  hasVariables story := .returned story.hasVariables

end InkProject.Story
