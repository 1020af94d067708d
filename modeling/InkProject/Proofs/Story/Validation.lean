import InkProject.Story.Guarded
set_option autoImplicit false

namespace InkProject.Story

-- What is told of a call that failed: its error, or the words of its panic.
inductive Tells {α : Type} : Call α → EngineError → Prop where
  | failed (error : EngineError) : Tells (.failed error) error
  | text (message : String) : Tells (.panicked (.text message)) (.panicked message)
  | other : Tells (.panicked .other) (.panicked "non-string panic payload")

namespace Guarded

section

variable {ν α β : Type} {run : Guarded ν α} {next : α → Guarded ν β} {value : α} {payload : Panic}

theorem bind_ok (done : run.result = .ok value) : run >>= next =
    ⟨(next value).result, run.events ++ (next value).events, run.failures ++ (next value).failures⟩ := by
  obtain ⟨result, events, failures⟩ := run
  obtain rfl : result = .ok value := done
  rfl

theorem bind_error (out : run.result = .error payload) : run >>= next = ⟨.error payload, run.events, run.failures⟩ := by
  obtain ⟨result, events, failures⟩ := run
  obtain rfl : result = .error payload := out
  rfl

theorem bind_result (run : Guarded ν α) (next : α → Guarded ν β) :
    (run >>= next).result = run.result.bind fun value => (next value).result := by
  cases done : run.result with
  | error payload => rw [bind_error done]; rfl
  | ok value => rw [bind_ok done]; rfl

end

section

variable {ν α β : Type} (made : List ν × Call α) {value : α} {error : EngineError} {last : Panic}

theorem ask_eq_ok : (guard.ask made).result = .ok (.ok value) ↔ made.2 = .returned value := by
  obtain ⟨notes, _ | _ | _ | _ | _⟩ := made <;> simp [guard, contain, call, Panic.last?]

theorem ask_eq_error : (guard.ask made).result = .ok (.error error) ↔ Tells made.2 error := by
  obtain ⟨notes, _ | _ | _ | _ | _⟩ := made
  case returned => exact iff_of_false (by simp [guard, contain, call]) nofun
  case failed => exact ⟨fun done => by cases done; exact .failed _, fun tells => by cases tells; rfl⟩
  case panicked.text => exact ⟨fun done => by cases done; exact .text _, fun tells => by cases tells; rfl⟩
  case panicked.other => exact ⟨fun done => by cases done; exact .other, fun tells => by cases tells; rfl⟩
  case panicked.armed => exact iff_of_false (by simp [guard, contain, call, Panic.last?]) nofun

theorem ask_escapes : (guard.ask made).result = .error last ↔ made.2 = .panicked (.armed last) := by
  obtain ⟨notes, _ | _ | _ | _ | _⟩ := made <;> simp [guard, contain, call, Panic.last?]

end

section

variable {ν α β : Type} {loaded : Except Panic (Except EngineError α)} {refused : EngineError → β} {read : α → Except Panic β}
  {value : β} {last : Panic}

def onward (loaded : Except Panic (Except EngineError α)) (refused : EngineError → β) (read : α → Except Panic β) : Except Panic β :=
  loaded.bind fun
    | .ok parsed => read parsed
    | .error error => .ok (refused error)

theorem bind_onward {run : Guarded ν (Except EngineError α)} {next : Except EngineError α → Guarded ν β}
    (taken : ∀ parsed, (next (.ok parsed)).result = read parsed) (stopped : ∀ error, (next (.error error)).result = .ok (refused error)) :
    (run >>= next).result = onward run.result refused read := by
  rw [bind_result]
  rcases run.result with payload | error | parsed
  · rfl
  · exact stopped error
  · exact taken parsed

theorem onward_eq_ok : onward loaded refused read = .ok value ↔
    (∃ parsed, loaded = .ok (.ok parsed) ∧ read parsed = .ok value) ∨ ∃ error, loaded = .ok (.error error) ∧ refused error = value := by
  rcases loaded with _ | _ | _ <;> simp [onward, Except.bind]

theorem onward_eq_error : onward loaded refused read = .error last ↔
    loaded = .error last ∨ ∃ parsed, loaded = .ok (.ok parsed) ∧ read parsed = .error last := by
  rcases loaded with _ | _ | _ <;> simp [onward, Except.bind]

end

section

variable (engine : Engine) (story state : String)

theorem loadStory_result : (loadStory engine story).result = (guard.ask (engine.parse story)).result := by
  rw [loadStory, Engine.loadStoryBy, bind_result]
  rcases (guard.ask (engine.parse story)).result with _ | _ | _ <;> rfl

theorem checkStory_result :
    (checkStory engine story).result = onward (loadStory engine story).result .invalidStory fun _ => .ok .valid :=
  bind_onward (fun _ => rfl) fun _ => rfl

theorem checkState_result : (checkState engine story state).result = onward (loadStory engine story).result .invalidStory
    fun parsed => onward (guard.ask (engine.load parsed state)).result .invalidState fun _ => .ok .valid :=
  bind_onward (fun _ => bind_onward (fun _ => rfl) fun _ => rfl) fun _ => rfl

theorem acceptsState_result : (acceptsState engine story state).result = (checkState engine story state).result.map fun
    | .invalidState _ => false
    | _ => true := by
  rw [acceptsState, Engine.acceptsStateBy, bind_result, checkState]
  rcases (engine.checkStateBy guard story state).result with _ | _ | _ | _ <;> rfl

theorem declaresVariables_result : (declaresVariables engine story).result = onward (loadStory engine story).result (fun _ => false)
    fun parsed => onward (guard.ask (([] : List engine.Note), engine.hasVariables parsed)).result (fun _ => false) .ok :=
  bind_onward (fun _ => bind_onward (fun _ => rfl) fun _ => rfl) fun _ => rfl

end

section

variable {engine : Engine} {story state : String} {error : EngineError} {last : Panic}

theorem loadStory_eq_ok (parsed : engine.Parsed) :
    (loadStory engine story).result = .ok (.ok parsed) ↔ (engine.parse story).2 = .returned parsed := by
  rw [loadStory_result, ask_eq_ok]

theorem loadStory_eq_error : (loadStory engine story).result = .ok (.error error) ↔ Tells (engine.parse story).2 error := by
  rw [loadStory_result, ask_eq_error]

theorem loadStory_escapes : (loadStory engine story).result = .error last ↔ (engine.parse story).2 = .panicked (.armed last) := by
  rw [loadStory_result, ask_escapes]

theorem checkStory_eq_valid :
    (checkStory engine story).result = .ok .valid ↔ ∃ parsed, (loadStory engine story).result = .ok (.ok parsed) := by
  rw [checkStory_result, onward_eq_ok]
  simp

theorem checkStory_eq_invalidStory : (checkStory engine story).result = .ok (.invalidStory error) ↔
    (loadStory engine story).result = .ok (.error error) := by
  rw [checkStory_result, onward_eq_ok]
  simp

theorem checkStory_ne_invalidState : (checkStory engine story).result ≠ .ok (.invalidState error) := by
  rw [Ne, checkStory_result, onward_eq_ok]
  simp

theorem checkStory_escapes : (checkStory engine story).result = .error last ↔ (loadStory engine story).result = .error last := by
  rw [checkStory_result, onward_eq_error]
  simp

theorem checkState_eq_invalidStory : (checkState engine story state).result = .ok (.invalidStory error) ↔
    (loadStory engine story).result = .ok (.error error) := by
  rw [checkState_result, onward_eq_ok]
  simp [onward_eq_ok]

theorem checkState_eq_valid : (checkState engine story state).result = .ok .valid ↔ ∃ parsed after,
    (loadStory engine story).result = .ok (.ok parsed) ∧ (engine.load parsed state).2 = .returned after := by
  rw [checkState_result, onward_eq_ok]
  simp [onward_eq_ok, ask_eq_ok]

theorem checkState_eq_invalidState : (checkState engine story state).result = .ok (.invalidState error) ↔ ∃ parsed,
    (loadStory engine story).result = .ok (.ok parsed) ∧ Tells (engine.load parsed state).2 error := by
  rw [checkState_result, onward_eq_ok]
  simp [onward_eq_ok, ask_eq_error]

theorem checkState_escapes : (checkState engine story state).result = .error last ↔
    (loadStory engine story).result = .error last ∨ ∃ parsed, (loadStory engine story).result = .ok (.ok parsed) ∧
      (engine.load parsed state).2 = .panicked (.armed last) := by
  rw [checkState_result, onward_eq_error]
  simp [onward_eq_error, ask_escapes]

theorem acceptsState_eq_false : (acceptsState engine story state).result = .ok false ↔
    ∃ error, (checkState engine story state).result = .ok (.invalidState error) := by
  rw [acceptsState_result]
  rcases (checkState engine story state).result with _ | _ | _ | _ <;> simp [Except.map]

theorem acceptsState_escapes : (acceptsState engine story state).result = .error last ↔
    (checkState engine story state).result = .error last := by
  rw [acceptsState_result]
  rcases (checkState engine story state).result with _ | _ | _ | _ <;> simp [Except.map]

theorem declaresVariables_eq_true : (declaresVariables engine story).result = .ok true ↔ ∃ parsed,
    (loadStory engine story).result = .ok (.ok parsed) ∧ engine.hasVariables parsed = .returned true := by
  rw [declaresVariables_result, onward_eq_ok]
  simp [onward_eq_ok, ask_eq_ok]

theorem declaresVariables_escapes : (declaresVariables engine story).result = .error last ↔
    (loadStory engine story).result = .error last ∨ ∃ parsed, (loadStory engine story).result = .ok (.ok parsed) ∧
      engine.hasVariables parsed = .panicked (.armed last) := by
  rw [declaresVariables_result, onward_eq_error]
  simp [onward_eq_error, ask_escapes]

end

-- A run that ends ends with what was answered, and with what was noted beside it.
def Follows {ν α : Type} (run : Guarded ν α) (checked : Checked ν α) : Prop :=
  ∀ value, run.result = .ok value → checked.value = value ∧ checked.events = run.events

section

variable {ν α β : Type}

theorem follows_pure (value : α) : Follows (pure value : Guarded ν α) (pure value) := by
  intro answer done
  cases done
  exact ⟨rfl, rfl⟩

theorem follows_note (event : CheckEvent ν) : Follows (guard.note event) (answered.note event) := fun _ _ => ⟨rfl, rfl⟩

theorem follows_ask (made : List ν × Call α) : Follows (guard.ask made) (answered.ask made) := by
  obtain ⟨notes, _ | _ | _ | _ | _⟩ := made <;> intro value done <;> cases done <;> exact ⟨rfl, rfl⟩

theorem follows_bind {run : Guarded ν α} {checked : Checked ν α} {next : α → Guarded ν β} {after : α → Checked ν β}
    (first : Follows run checked) (onward : ∀ value, Follows (next value) (after value)) :
    Follows (run >>= next) (checked >>= after) := by
  intro value done
  cases ended : run.result with
  | error payload =>
    rw [bind_error ended] at done
    cases done
  | ok middle =>
    obtain ⟨rfl, before⟩ := first middle ended
    rw [bind_ok ended] at done ⊢
    obtain ⟨same, later⟩ := onward _ value done
    exact ⟨same, congr (congrArg List.append before) later⟩

end

section

variable (engine : Engine) (story state : String)

theorem loadStory_follows : Follows (loadStory engine story) (engine.loadStory story) := by
  refine follows_bind (follows_ask _) fun loaded => ?_
  cases loaded with
  | ok parsed => exact follows_pure _
  | error error => exact follows_bind (follows_note _) fun _ => follows_pure _

theorem checkStory_follows : Follows (checkStory engine story) (engine.checkStory story) := by
  refine follows_bind (loadStory_follows engine story) fun loaded => ?_
  cases loaded <;> exact follows_pure _

theorem checkState_follows : Follows (checkState engine story state) (engine.checkState story state) := by
  refine follows_bind (loadStory_follows engine story) fun loaded => ?_
  cases loaded with
  | error error => exact follows_pure _
  | ok parsed =>
    refine follows_bind (follows_ask _) fun answer => ?_
    cases answer with
    | ok after => exact follows_pure _
    | error error => exact follows_bind (follows_note _) fun _ => follows_pure _

theorem acceptsState_follows : Follows (acceptsState engine story state) (engine.acceptsState story state) := by
  refine follows_bind (checkState_follows engine story state) fun verdict => ?_
  cases verdict <;> exact follows_pure _

theorem declaresVariables_follows : Follows (declaresVariables engine story) (engine.declaresVariables story) := by
  refine follows_bind (loadStory_follows engine story) fun loaded => ?_
  cases loaded with
  | error error => exact follows_pure _
  | ok parsed =>
    refine follows_bind (follows_ask _) fun answer => ?_
    cases answer <;> exact follows_pure _

end

structure Consistent (engine : Engine) (story : String) : Prop where
  loaded : ∀ parsed, (loadStory engine story).result = .ok (.ok parsed) ↔ (engine.parse story).2 = .returned parsed
  refused : ∀ error, (loadStory engine story).result = .ok (.error error) ↔ Tells (engine.parse story).2 error
  valid : (checkStory engine story).result = .ok .valid ↔ ∃ parsed, (loadStory engine story).result = .ok (.ok parsed)
  invalid : ∀ error, (checkStory engine story).result = .ok (.invalidStory error) ↔
    (loadStory engine story).result = .ok (.error error)
  stateless : ∀ error, (checkStory engine story).result ≠ .ok (.invalidState error)
  storyFirst : ∀ state error, (checkState engine story state).result = .ok (.invalidStory error) ↔
    (checkStory engine story).result = .ok (.invalidStory error)
  stateValid : ∀ state, (checkState engine story state).result = .ok .valid ↔ ∃ parsed after,
    (loadStory engine story).result = .ok (.ok parsed) ∧ (engine.load parsed state).2 = .returned after
  stateInvalid : ∀ state error, (checkState engine story state).result = .ok (.invalidState error) ↔ ∃ parsed,
    (loadStory engine story).result = .ok (.ok parsed) ∧ Tells (engine.load parsed state).2 error
  rejected : ∀ state, (acceptsState engine story state).result = .ok false ↔
    ∃ error, (checkState engine story state).result = .ok (.invalidState error)
  declaring : (declaresVariables engine story).result = .ok true ↔ ∃ parsed,
    (loadStory engine story).result = .ok (.ok parsed) ∧ engine.hasVariables parsed = .returned true

-- A panic that comes out is never one of a call; it is thrown where the payload of a call is dropped.
structure Contained (engine : Engine) (story : String) : Prop where
  loadStory : ∀ last, (loadStory engine story).result = .error last ↔ (engine.parse story).2 = .panicked (.armed last)
  checkStory : ∀ last, (checkStory engine story).result = .error last ↔ (engine.parse story).2 = .panicked (.armed last)
  checkState : ∀ state last, (checkState engine story state).result = .error last ↔
    (engine.parse story).2 = .panicked (.armed last) ∨ ∃ parsed, (engine.parse story).2 = .returned parsed ∧
      (engine.load parsed state).2 = .panicked (.armed last)
  acceptsState : ∀ state last, (acceptsState engine story state).result = .error last ↔
    (engine.parse story).2 = .panicked (.armed last) ∨ ∃ parsed, (engine.parse story).2 = .returned parsed ∧
      (engine.load parsed state).2 = .panicked (.armed last)
  declaresVariables : ∀ last, (declaresVariables engine story).result = .error last ↔
    (engine.parse story).2 = .panicked (.armed last) ∨ ∃ parsed, (engine.parse story).2 = .returned parsed ∧
      engine.hasVariables parsed = .panicked (.armed last)

structure Followed (engine : Engine) (story : String) : Prop where
  loadStory : (loadStory engine story).Follows (engine.loadStory story)
  checkStory : (checkStory engine story).Follows (engine.checkStory story)
  checkState : ∀ state, (checkState engine story state).Follows (engine.checkState story state)
  acceptsState : ∀ state, (acceptsState engine story state).Follows (engine.acceptsState story state)
  declaresVariables : (declaresVariables engine story).Follows (engine.declaresVariables story)

end Guarded

open Guarded in
theorem checks_consistent (engine : Engine) (story : String) :
    Consistent engine story ∧ Contained engine story ∧ Followed engine story := by
  refine ⟨?consistent, ?contained, ?followed⟩
  case consistent =>
    constructor
    case loaded => exact loadStory_eq_ok
    case refused => exact fun error => loadStory_eq_error
    case valid => exact checkStory_eq_valid
    case invalid => exact fun error => checkStory_eq_invalidStory
    case stateless => exact fun error => checkStory_ne_invalidState
    case storyFirst =>
      intro state error
      rw [checkState_eq_invalidStory, checkStory_eq_invalidStory]
    case stateValid => exact fun state => checkState_eq_valid
    case stateInvalid => exact fun state error => checkState_eq_invalidState
    case rejected => exact fun state => acceptsState_eq_false
    case declaring => exact declaresVariables_eq_true
  case contained =>
    constructor
    case loadStory => exact fun last => loadStory_escapes
    case checkStory =>
      intro last
      rw [checkStory_escapes, loadStory_escapes]
    case checkState =>
      intro state last
      simp only [checkState_escapes, loadStory_escapes, loadStory_eq_ok]
    case acceptsState =>
      intro state last
      simp only [acceptsState_escapes, checkState_escapes, loadStory_escapes, loadStory_eq_ok]
    case declaresVariables =>
      intro last
      simp only [declaresVariables_escapes, loadStory_escapes, loadStory_eq_ok]
  case followed =>
    exact ⟨loadStory_follows engine story, checkStory_follows engine story, checkState_follows engine story,
      acceptsState_follows engine story, declaresVariables_follows engine story⟩

def panicking (payload : Panic) : Engine where
  Parsed := Unit
  Note := Empty
  parse _ := ([], .panicked payload)
  load _ _ := ([], .returned ())
  hasVariables _ := .returned true

example : (Guarded.checkStory (panicking (.text "stub exploded")) "story").result =
    .ok (.invalidStory (.panicked "stub exploded")) := rfl

theorem dropped_payload_escapes : let engine := panicking (.armed (.text "dropped"))
    (Guarded.loadStory engine "story").result = .error (.text "dropped") ∧
      (Guarded.checkStory engine "story").result = .error (.text "dropped") ∧
      (Guarded.checkState engine "story" "state").result = .error (.text "dropped") ∧
      (Guarded.acceptsState engine "story" "state").result = .error (.text "dropped") ∧
      (Guarded.declaresVariables engine "story").result = .error (.text "dropped") := ⟨rfl, rfl, rfl, rfl, rfl⟩

end InkProject.Story
