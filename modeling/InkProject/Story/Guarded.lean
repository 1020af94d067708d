import InkProject.Story.Validation
set_option autoImplicit false

namespace InkProject.Story

def Call.failure? {α : Type} : Call α → Option EngineError
  | .returned _ => none
  | .failed error => some error
  | .panicked payload => some (.panicked payload.message)

-- A run with panics that unwind, what was noted up to its end, and what calls failed with.
structure Guarded (ν α : Type) where
  result : Except Panic α
  events : List (CheckEvent ν)
  failures : List EngineError

namespace Guarded

section

variable {ν α : Type}

instance (ν : Type) : Monad (Guarded ν) where
  pure value := ⟨.ok value, [], []⟩
  bind run next := match run.result with
    | .error payload => ⟨.error payload, run.events, run.failures⟩
    | .ok value =>
      let later := next value
      ⟨later.result, run.events ++ later.events, run.failures ++ later.failures⟩

def note (event : CheckEvent ν) : Guarded ν Unit := ⟨.ok (), [event], []⟩

def call (made : List ν × Call α) : Guarded ν (Except EngineError α) :=
  let result := match made.2 with
    | .returned value => .ok (.ok value)
    | .failed error => .ok (.error error)
    | .panicked payload => .error payload
  ⟨result, made.1.map .engine, made.2.failure?.toList⟩

-- The payload is read and dropped where the guard has ended.
def contain (run : Guarded ν (Except EngineError α)) : Guarded ν (Except EngineError α) :=
  match run.result with
  | .ok _ => run
  | .error payload => match payload.last? with
    | none => { run with result := .ok (.error (.panicked payload.message)) }
    | some last => { run with result := .error last }

end

def guard {ν : Type} : Caller ν (Guarded ν) where
  ask made := contain (call made)
  note := note

variable (engine : Engine) (story state : String)

def loadStory : Guarded engine.Note (Except EngineError engine.Parsed) := engine.loadStoryBy guard story
def checkStory : Guarded engine.Note Verdict := engine.checkStoryBy guard story
def checkState : Guarded engine.Note Verdict := engine.checkStateBy guard story state
def acceptsState : Guarded engine.Note Bool := engine.acceptsStateBy guard story state
def declaresVariables : Guarded engine.Note Bool := engine.declaresVariablesBy guard story

end Guarded

end InkProject.Story
