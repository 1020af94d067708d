import InkProject.Story.Document
/- Saved states. A state has flows, or the call stack of the one flow that older
   versions know. -/
set_option autoImplicit false

namespace InkProject.Story

structure State where
  version : Int
  flows : Option (Table Json)
  currentFlow : Option String
  callstackThreads : Option Json
  values : Table Json
  evalStack : List Json
  visitCounts : Table Json
  turnIndices : Table Json
  turnIndex : Int
  storySeed : Int
  previousRandom : Int
deriving DecidableEq

namespace State

open Json

def defaultFlow : String := "DEFAULT_FLOW"

def freshFlow : Json :=
  .object [("callstack", .object [
      ("threadCounter", .integer 0),
      ("threads", .array [.object [
        ("callstack", .array [.object [("cPath", .string ""), ("exp", .bool false),
          ("idx", .integer 0), ("type", .integer 0)]]),
        ("threadIndex", .integer 0)]])]),
    ("choiceThreads", .object []), ("currentChoices", .array []), ("outputStream", .array [])]

def initial (values : Table Json) : State where
  version := stateVersions.greatest
  flows := some [(defaultFlow, freshFlow)]
  currentFlow := some defaultFlow
  callstackThreads := none
  values := values
  evalStack := []
  visitCounts := []
  turnIndices := []
  turnIndex := -1
  storySeed := 0
  previousRandom := 0

def fields : List Field := [
  field "flows" (decodeOption decodeObject) false,
  field "currentFlowName" (decodeOption decodeString) false,
  field "variablesState" decodeObject true,
  field "evalStack" (decodeList .ok) false,
  field "visitCounts" decodeObject false,
  field "turnIndices" decodeObject false,
  field "turnIdx" decodeSigned false,
  field "storySeed" decodeSigned false,
  field "previousRandom" decodeSigned false]

def ofMembers (version : Int) (members : Table Json) : Except Shape.Mismatch State := do
  let members ← decodeMembers fields members
  return {
    version := version
    flows := ← optional "flows" (decodeOption decodeObject) none members
    currentFlow := ← optional "currentFlowName" (decodeOption decodeString) none members
    callstackThreads := ← optional "callstackThreads" (decodeOption .ok) none members
    values := ← required "variablesState" decodeObject members
    evalStack := ← optional "evalStack" (decodeList .ok) [] members
    visitCounts := ← optional "visitCounts" decodeObject [] members
    turnIndices := ← optional "turnIndices" decodeObject [] members
    turnIndex := ← optional "turnIdx" decodeSigned (-1) members
    storySeed := ← optional "storySeed" decodeSigned 0 members
    previousRandom := ← optional "previousRandom" decodeSigned 0 members }

def checkFlows (state : State) : Except EngineError Unit :=
  match state.flows with
  | none => match state.callstackThreads with
    | none => .error (.malformed .state .noCallstack)
    | some _ => .ok ()
  | some flows =>
    match List.find? (fun (_, flow) => (Json.member? "callstack" flow).isNone) flows with
    | some (name, _) => .error (.malformed .state (.flowWithoutCallstack name))
    | none => match state.currentFlow with
      | none => .ok ()
      | some name =>
        if flows.contains name then .ok () else .error (.invariant (.unknownFlow name))

def parse (text : String) : Except EngineError State := do
  let (version, members) ← stateVersions.read text
  let state ← stateVersions.shaped (ofMembers version members)
  state.checkFlows
  return state

def entries (state : State) : Table Json :=
  [("inkSaveVersion", .integer state.version)] ++
    (state.flows.map fun flows => ("flows", Json.object flows)).toList ++
    (state.currentFlow.map fun name => ("currentFlowName", Json.string name)).toList ++
    (state.callstackThreads.map fun threads => ("callstackThreads", threads)).toList ++
    [("variablesState", .object state.values), ("evalStack", .array state.evalStack),
      ("visitCounts", .object state.visitCounts), ("turnIndices", .object state.turnIndices),
      ("turnIdx", .integer state.turnIndex), ("storySeed", .integer state.storySeed),
      ("previousRandom", .integer state.previousRandom)]

def encode (state : State) : Json := .object state.entries

def text (state : State) : String := state.encode.compact

end State

end InkProject.Story
