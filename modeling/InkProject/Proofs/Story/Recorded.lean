import InkProject.Proofs.Story.Validation
set_option autoImplicit false

namespace InkProject.Story

def CheckEvent.failure? {ν : Type} : CheckEvent ν → Option EngineError
  | .engine _ => none
  | .storyRefused error | .stateRefused error => some error

def Call.failures {α : Type} (call : Call α) : List EngineError := call.failure?.toList

def Quiet {α : Type} (call : Call α) : Prop := ∀ last, call ≠ .panicked (.armed last)

-- A failure is lost where the payload that tells of it panics when it is dropped.
def Call.lost {α : Type} (call : Call α) : List EngineError :=
  match call with
  | .panicked (.armed _) => call.failures
  | _ => []

def Engine.after {β : Type} (engine : Engine) (story : String) (unread : Call engine.Parsed → β) (read : engine.Parsed → β) : β :=
  match (engine.parse story).2 with
  | .returned parsed => read parsed
  | call => unread call

theorem lost_eq_nil {α : Type} (call : Call α) : call.lost = [] ↔ Quiet call := by
  obtain _ | _ | _ | _ | last := call
  case panicked.armed => exact iff_of_false (List.cons_ne_nil _ _) fun quiet => quiet last rfl
  all_goals exact iff_of_true rfl nofun

theorem failures_eq_nil {α : Type} (call : Call α) : call.failures = [] ↔ ∃ value, call = .returned value := by
  cases call <;> simp [Call.failures, Call.failure?]

theorem Tells.failures {α : Type} {call : Call α} {error : EngineError} (tells : Tells call error) :
    call.failures = [error] ∧ call.lost = [] := by
  cases tells <;> exact ⟨rfl, rfl⟩

namespace Guarded

def noted {ν α : Type} (run : Guarded ν α) : List EngineError := run.events.filterMap CheckEvent.failure?

def Recorded {ν α : Type} (run : Guarded ν α) : Prop := run.noted = run.failures

-- These are the failures of the calls that were made, and all are noted but the missing ones at the end.
structure Accounted {ν α : Type} (run : Guarded ν α) (failures missing : List EngineError) : Prop where
  made : run.failures = failures
  noted : run.noted ++ missing = failures

section

variable {ν α β : Type} {run : Guarded ν α} {next : α → Guarded ν β} {failures missing : List EngineError}

theorem accounted_pure (value : α) : Accounted (pure value : Guarded ν α) [] [] := ⟨rfl, rfl⟩

theorem accounted_ask (made : List ν × Call α) : Accounted (guard.ask made) made.2.failures made.2.failures := by
  have engines : (made.1.map CheckEvent.engine).filterMap CheckEvent.failure? = [] := by
    simp [List.filterMap_map, CheckEvent.failure?, Function.comp_def]
  have quiet : (guard.ask made).events = made.1.map .engine := by
    obtain ⟨notes, _ | _ | _ | _ | _⟩ := made <;> rfl
  refine ⟨?_, ?_⟩
  · obtain ⟨notes, _ | _ | _ | _ | _⟩ := made <;> rfl
  · rw [Guarded.noted, quiet, engines, List.nil_append]

theorem accounted_bind {value : α} (first : Accounted run [] []) (done : run.result = .ok value)
    (later : Accounted (next value) failures missing) : Accounted (run >>= next) failures missing := by
  rw [bind_ok done]
  refine ⟨?_, ?_⟩
  · show run.failures ++ (next value).failures = failures
    rw [first.made, later.made, List.nil_append]
  · have before : run.noted = [] := by simpa using first.noted
    show List.filterMap CheckEvent.failure? (run.events ++ (next value).events) ++ missing = failures
    rw [List.filterMap_append, ← Guarded.noted, ← Guarded.noted, before, List.nil_append, later.noted]

theorem accounted_stop (kept : Accounted run failures missing)
    (stops : ∀ value, run.result = .ok value → ∃ final, next value = pure final) : Accounted (run >>= next) failures missing := by
  cases done : run.result with
  | error payload =>
    rw [bind_error done]
    exact ⟨kept.made, kept.noted⟩
  | ok value =>
    obtain ⟨final, last⟩ := stops value done
    rw [bind_ok done, last]
    refine ⟨(List.append_nil _).trans kept.made, ?_⟩
    show List.filterMap CheckEvent.failure? (run.events ++ []) ++ missing = failures
    rw [List.append_nil]
    exact kept.noted

-- What is refused is noted before the end; what escapes is not.
theorem accounted_reported (made : List ν × Call α) {next : Except EngineError α → Guarded ν β} (event : EngineError → CheckEvent ν)
    (telling : ∀ error, (event error).failure? = some error) (taken : ∀ value, ∃ final, next (.ok value) = pure final)
    (refused : ∀ error, ∃ final, next (.error error) = guard.note (event error) >>= fun _ => pure final) :
    Accounted (guard.ask made >>= next) made.2.failures made.2.lost := by
  have asked := accounted_ask made
  cases answer : (guard.ask made).result with
  | error last =>
    have armed := (ask_escapes made).mp answer
    rw [bind_error answer]
    refine ⟨asked.made, ?_⟩
    rw [armed] at asked ⊢
    exact asked.noted
  | ok result =>
    cases result with
    | ok value =>
      have returned := (ask_eq_ok made).mp answer
      rw [returned] at asked ⊢
      exact accounted_stop asked fun other done => by
        rw [answer] at done
        cases done
        exact taken value
    | error error =>
      obtain ⟨final, reports⟩ := refused error
      have tells := (ask_eq_error made).mp answer
      obtain ⟨failed, kept⟩ := tells.failures
      have quiet : (guard.ask made).noted = [] := by simpa using asked.noted
      rw [bind_ok answer, reports]
      refine ⟨?_, ?_⟩
      · show (guard.ask made).failures ++ [] = made.2.failures
        rw [List.append_nil, asked.made]
      · show List.filterMap CheckEvent.failure? ((guard.ask made).events ++ [event error]) ++ made.2.lost = made.2.failures
        rw [List.filterMap_append, ← Guarded.noted, quiet, failed, kept]
        simp [telling]

theorem recorded_iff (kept : Accounted run failures missing) : Recorded run ↔ missing = [] := by
  rw [Recorded, kept.made, ← kept.noted]
  exact List.self_eq_append_right

end

section

variable (engine : Engine) (story state : String)

theorem loadStory_accounted : Accounted (loadStory engine story) (engine.parse story).2.failures (engine.parse story).2.lost := by
  exact accounted_reported _ .storyRefused (fun _ => rfl) (fun _ => ⟨_, rfl⟩) fun _ => ⟨_, rfl⟩

variable {engine story} in
theorem accounted_onward {α : Type} {next : Except EngineError engine.Parsed → Guarded engine.Note α}
    {failures missing : engine.Parsed → List EngineError} (refused : ∀ error, ∃ final, next (.error error) = pure final)
    (onward : ∀ parsed, Accounted (next (.ok parsed)) (failures parsed) (missing parsed)) :
    Accounted (loadStory engine story >>= next) (engine.after story Call.failures failures) (engine.after story Call.lost missing) := by
  have loaded := loadStory_accounted engine story
  by_cases read : ∃ parsed, (engine.parse story).2 = .returned parsed
  · obtain ⟨parsed, returned⟩ := read
    rw [returned] at loaded
    rw [Engine.after, Engine.after, returned]
    exact accounted_bind loaded ((loadStory_eq_ok parsed).mpr returned) (onward parsed)
  · have unread {β : Type} (first : Call engine.Parsed → β) (later : engine.Parsed → β) :
        engine.after story first later = first (engine.parse story).2 := by
      rw [Engine.after]
      split
      · rename_i parsed returned
        exact absurd ⟨parsed, returned⟩ read
      · rfl
    rw [unread, unread]
    refine accounted_stop loaded fun result done => ?_
    cases result with
    | ok parsed => exact absurd ⟨parsed, (loadStory_eq_ok parsed).mp done⟩ read
    | error error => exact refused error

theorem checkStory_accounted : Accounted (checkStory engine story) (engine.after story Call.failures fun _ => [])
    (engine.after story Call.lost fun _ => []) :=
  accounted_onward (fun _ => ⟨_, rfl⟩) fun _ => accounted_pure _

theorem checkState_accounted : Accounted (checkState engine story state)
    (engine.after story Call.failures fun parsed => (engine.load parsed state).2.failures)
    (engine.after story Call.lost fun parsed => (engine.load parsed state).2.lost) :=
  accounted_onward (fun _ => ⟨_, rfl⟩) fun _ => accounted_reported _ .stateRefused (fun _ => rfl) (fun _ => ⟨_, rfl⟩) fun _ => ⟨_, rfl⟩

theorem acceptsState_accounted : Accounted (acceptsState engine story state)
    (engine.after story Call.failures fun parsed => (engine.load parsed state).2.failures)
    (engine.after story Call.lost fun parsed => (engine.load parsed state).2.lost) :=
  accounted_stop (checkState_accounted engine story state) fun verdict _ => by cases verdict <;> exact ⟨_, rfl⟩

-- Whether a story has variables is the one question of which a failure is never noted.
theorem declaresVariables_accounted : Accounted (declaresVariables engine story)
    (engine.after story Call.failures fun parsed => (engine.hasVariables parsed).failures)
    (engine.after story Call.lost fun parsed => (engine.hasVariables parsed).failures) :=
  accounted_onward (fun _ => ⟨_, rfl⟩) fun parsed =>
    accounted_stop (accounted_ask (([] : List engine.Note), engine.hasVariables parsed)) fun answer _ => by
      cases answer <;> exact ⟨_, rfl⟩

theorem after_eq_nil (later : engine.Parsed → List EngineError) : engine.after story Call.lost later = [] ↔
    Quiet (engine.parse story).2 ∧ ∀ parsed, (engine.parse story).2 = .returned parsed → later parsed = [] := by
  rw [Engine.after]
  cases (engine.parse story).2 with
  | returned parsed => simp [Quiet]
  | failed error => simp [Quiet, Call.lost]
  | panicked payload => simp [lost_eq_nil]

end

theorem failure_line {ν : Type} {event : CheckEvent ν} {error : EngineError} (told : event.failure? = some error)
    (note : ν → Log.Line) : (event.line note).level = .debug ∧ (event.line note).fields = [("error", .text error.message)] := by
  cases event with
  | engine own => cases told
  | storyRefused refused | stateRefused refused =>
    cases told
    exact ⟨rfl, rfl⟩

structure FailuresMade (engine : Engine) (story : String) : Prop where
  loadStory : Accounted (loadStory engine story) (engine.parse story).2.failures (engine.parse story).2.lost
  checkStory : Accounted (checkStory engine story) (engine.after story Call.failures fun _ => [])
    (engine.after story Call.lost fun _ => [])
  checkState : ∀ state, Accounted (checkState engine story state)
    (engine.after story Call.failures fun parsed => (engine.load parsed state).2.failures)
    (engine.after story Call.lost fun parsed => (engine.load parsed state).2.lost)
  acceptsState : ∀ state, Accounted (acceptsState engine story state)
    (engine.after story Call.failures fun parsed => (engine.load parsed state).2.failures)
    (engine.after story Call.lost fun parsed => (engine.load parsed state).2.lost)
  declaresVariables : Accounted (declaresVariables engine story)
    (engine.after story Call.failures fun parsed => (engine.hasVariables parsed).failures)
    (engine.after story Call.lost fun parsed => (engine.hasVariables parsed).failures)

structure FailuresNoted (engine : Engine) (story : String) : Prop where
  loadStory : Recorded (loadStory engine story) ↔ Quiet (engine.parse story).2
  checkStory : Recorded (checkStory engine story) ↔ Quiet (engine.parse story).2
  checkState : ∀ state, Recorded (checkState engine story state) ↔ Quiet (engine.parse story).2 ∧
    ∀ parsed, (engine.parse story).2 = .returned parsed → Quiet (engine.load parsed state).2
  acceptsState : ∀ state, Recorded (acceptsState engine story state) ↔ Quiet (engine.parse story).2 ∧
    ∀ parsed, (engine.parse story).2 = .returned parsed → Quiet (engine.load parsed state).2
  declaresVariables : Recorded (declaresVariables engine story) ↔ Quiet (engine.parse story).2 ∧
    ∀ parsed, (engine.parse story).2 = .returned parsed → ∃ answer, engine.hasVariables parsed = .returned answer
  told : ∀ (event : CheckEvent engine.Note) error note, event.failure? = some error →
    (event.line note).level = .debug ∧ (event.line note).fields = [("error", .text error.message)]

end Guarded

open Guarded in
theorem failures_noted (engine : Engine) (story : String) : FailuresMade engine story ∧ FailuresNoted engine story := by
  have made : FailuresMade engine story := ⟨loadStory_accounted engine story, checkStory_accounted engine story,
    checkState_accounted engine story, acceptsState_accounted engine story, declaresVariables_accounted engine story⟩
  refine ⟨made, ?_⟩
  constructor
  case loadStory => rw [recorded_iff made.loadStory, lost_eq_nil]
  case checkStory =>
    rw [recorded_iff made.checkStory, after_eq_nil]
    simp
  case checkState =>
    intro state
    rw [recorded_iff (made.checkState state), after_eq_nil]
    simp only [lost_eq_nil]
  case acceptsState =>
    intro state
    rw [recorded_iff (made.acceptsState state), after_eq_nil]
    simp only [lost_eq_nil]
  case declaresVariables =>
    rw [recorded_iff made.declaresVariables, after_eq_nil]
    simp only [failures_eq_nil]
  case told => exact fun event error note told => failure_line told note

def muteEngine : Engine where
  Parsed := Unit
  Note := Empty
  parse _ := ([], .returned ())
  load _ _ := ([], .returned ())
  hasVariables _ := .panicked (.text "stub exploded")

theorem variables_panic_unrecorded :
    Guarded.declaresVariables muteEngine "story" = ⟨.ok false, [], [.panicked "stub exploded"]⟩ ∧
      ¬ Guarded.Recorded (Guarded.declaresVariables muteEngine "story") := ⟨rfl, nofun⟩

end InkProject.Story
