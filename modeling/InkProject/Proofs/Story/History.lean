import InkProject.Proofs.Story.Saving
import InkProject.Story.Session
import Mathlib.Data.List.Induction
/- A story does not remember what it was given: what comes of a text is told by the story as
   it was parsed, and what comes of many texts by the last one that was taken. -/
set_option autoImplicit false

namespace InkProject.Story

section

variable {story loaded : Story} {text : String}

theorem Session.run_ofExcept {α : Type} (result : Except EngineError α) (next : α → Session Unit) (story : Story) :
    ((ofExcept result >>= next).run.run story).run = match result with
      | .ok a => ((next a).run.run story).run
      | .error error => (.error error, story) := by
  cases result <;> rfl

theorem Session.run_get (next : Story → Session Unit) (story : Story) :
    ((get >>= next).run.run story).run = ((next story).run.run story).run := rfl

-- Nothing is put into the story before the last thing that can fail.
theorem attempt_eq (story : Story) (text : String) : story.attempt text = match story.load text with
    | .ok loaded => (.ok (), loaded)
    | .error error => (.error error, story) := by
  rw [attempt, Session.load, load, Session.run_ofExcept]
  cases State.parse text with
  | error error => rfl
  | ok state =>
    rw [ok_bind]
    dsimp only
    rw [Session.run_get]
    cases story.undeclared? state <;> rfl

theorem attempt_taken (done : story.load text = .ok loaded) : story.attempt text = (.ok (), loaded) := by
  rw [attempt_eq, done]

theorem attempt_failed {error : EngineError} (failed : story.load text = .error error) :
    story.attempt text = (.error error, story) := by
  rw [attempt_eq, failed]

theorem attempt_refused {error : EngineError} (refused : (story.attempt text).1 = .error error) :
    (story.attempt text).2 = story := by
  cases done : story.load text with
  | ok loaded =>
    rw [attempt_taken done] at refused
    cases refused
  | error other => rw [attempt_failed done]

theorem attempt_reload (story : Story) (text : String) : (story.attempt text).2 = story.reload text := by
  rw [attempt_eq, reload]
  cases story.load text <;> rfl

theorem attempts_after (story : Story) (texts : List String) : (story.attempts texts).2 = story.after texts := by
  induction texts generalizing story with
  | nil => rfl
  | cons text texts ih =>
    have first : (story.attempts (text :: texts)).2 = ((story.attempt text).2.attempts texts).2 := rfl
    rw [first, ih, attempt_reload]
    rfl

theorem load_globals {a b : Story} (same : a.globals = b.globals) (text : String) : a.load text = b.load text := by
  obtain ⟨globals, _⟩ := a
  obtain ⟨_, _⟩ := b
  cases same
  rfl

theorem load_after (story : Story) (texts : List String) (text : String) :
    (story.after texts).load text = story.load text :=
  load_globals (after_globals story texts) text

theorem attempt_after (story : Story) (texts : List String) (text : String) :
    ((story.after texts).attempt text).1 = (story.attempt text).1 := by
  rw [attempt_eq, attempt_eq, load_after]
  cases story.load text <;> rfl

theorem attempts_verdicts (story : Story) (texts : List String) :
    (story.attempts texts).1 = texts.map fun text => (story.attempt text).1 := by
  induction texts generalizing story with
  | nil => rfl
  | cons text texts ih =>
    have first : (story.attempts (text :: texts)).1 =
        (story.attempt text).1 :: ((story.attempt text).2.attempts texts).1 := rfl
    have others : ((story.attempt text).2.attempts texts).1 = texts.map fun other => (story.attempt other).1 := by
      rw [ih, attempt_reload]
      exact List.map_congr_left fun other _ => attempt_after story [text] other
    rw [first, others, List.map_cons]

def takes (story : Story) (text : String) : Bool := (story.attempt text).1.isOk

def lastTaken? (story : Story) (texts : List String) : Option String := texts.reverse.find? story.takes

theorem after_concat (story : Story) (texts : List String) (text : String) :
    story.after (texts ++ [text]) = (story.after texts).reload text := by
  rw [after, List.foldl_append]
  rfl

theorem lastTaken?_taken (texts : List String) (done : story.load text = .ok loaded) :
    story.lastTaken? (texts ++ [text]) = some text := by
  have taken : story.takes text = true := by
    rw [takes, attempt_taken done]
    rfl
  rw [lastTaken?, List.reverse_append, List.reverse_singleton, List.singleton_append, List.find?_cons_of_pos taken]

theorem lastTaken?_failed (texts : List String) {error : EngineError} (failed : story.load text = .error error) :
    story.lastTaken? (texts ++ [text]) = story.lastTaken? texts := by
  have refused : ¬ story.takes text = true := by
    rw [takes, attempt_failed failed]
    exact Bool.false_ne_true
  rw [lastTaken?, List.reverse_append, List.reverse_singleton, List.singleton_append, List.find?_cons_of_neg refused]
  rfl

-- By induction from the last text to the first: one that is taken leaves nothing of those before.
theorem after_lastTaken (story : Story) (texts : List String) :
    story.after texts = match story.lastTaken? texts with
      | some text => (story.attempt text).2
      | none => story := by
  induction texts using List.reverseRecOn with
  | nil => rfl
  | append_singleton texts text ih =>
    rw [after_concat, reload, load_after]
    cases done : story.load text with
    | ok loaded =>
      rw [lastTaken?_taken texts done]
      dsimp only
      rw [attempt_taken done]
    | error error =>
      rw [lastTaken?_failed texts done]
      exact ih

theorem lastTaken?_load {texts : List String} (last : story.lastTaken? texts = some text) :
    story.load text = .ok (story.after texts) := by
  have taken := List.find?_some last
  rw [after_lastTaken, last]
  dsimp only
  cases done : story.load text with
  | ok loaded => rw [attempt_taken done]
  | error error =>
    rw [takes, attempt_failed done] at taken
    cases taken

theorem parse_values (done : Story.parse text = .ok story) (name : String) :
    story.state.values.contains name = story.globals.contains name := by
  obtain ⟨_, _, _, _, _, start⟩ := parse_declared done
  rw [start]
  rfl

theorem reload_declared (declared : ∀ name, story.state.values.contains name = story.globals.contains name)
    (name : String) : (story.reload text).state.values.contains name = (story.reload text).globals.contains name := by
  rw [reload]
  split
  · exact load_declared ‹_› name
  · exact declared name

theorem after_declared (declared : ∀ name, story.state.values.contains name = story.globals.contains name)
    (texts : List String) (name : String) :
    (story.after texts).state.values.contains name = (story.after texts).globals.contains name := by
  induction texts generalizing story with
  | nil => exact declared name
  | cons text texts ih => exact ih (reload_declared declared)

theorem load_missing {state : State} {name : String} (done : story.load text = .ok loaded)
    (parsed : State.parse text = .ok state) (missing : state.values.contains name = false) :
    loaded.valueOf? name = story.globals.find? name := by
  obtain ⟨other, also, _, rfl⟩ := load_eq_ok.mp done
  rw [parsed, Except.ok.injEq] at also
  subst also
  exact Table.find?_overlay_missing _ missing

end

structure Memoryless (first : Story) (texts : List String) (held : Story) : Prop where
  verdict : ∀ text, (held.attempt text).1 = (first.attempt text).1
  refused : ∀ text error, (held.attempt text).1 = .error error → (held.attempt text).2 = held
  last : held = match first.lastTaken? texts with
    | some text => (first.attempt text).2
    | none => first
  missing : ∀ text state name, first.lastTaken? texts = some text → State.parse text = .ok state →
    state.values.contains name = false → held.valueOf? name = first.globals.find? name
  declared : ∀ name, (held.valueOf? name).isSome = first.globals.contains name
  hasVariables : held.hasVariables = first.hasVariables

theorem attempts_memoryless {source : String} {first : Story} (parsed : Story.parse source = .ok first)
    (texts : List String) : Memoryless first texts (first.attempts texts).2 ∧
      (first.attempts texts).1 = texts.map fun text => (first.attempt text).1 := by
  refine ⟨?_, attempts_verdicts first texts⟩
  rw [attempts_after]
  constructor
  case verdict => exact attempt_after first texts
  case refused => exact fun text error => attempt_refused
  case last => exact after_lastTaken first texts
  case missing => exact fun text state name last => load_missing (lastTaken?_load last)
  case declared =>
    intro name
    rw [← after_globals first texts]
    exact after_declared (parse_values parsed) texts name
  case hasVariables => rw [hasVariables, hasVariables, after_globals]

def namedState (values : String) : String :=
  "\x7b\"inkSaveVersion\":8,\"callstackThreads\":\x7b\x7d,\"variablesState\":\x7b" ++ values ++ "\x7d\x7d"

theorem earlier_value_forgotten : ∃ first, Story.parse namedText = .ok first ∧
    let texts := [namedState "\"name\":7", "[]", oldState, namedState "\"gold\":1"]
    (first.attempts texts).1.map Except.isOk = [true, false, true, false] ∧
      (first.attempts texts).2.valueOf? "health" = some (.integer 3) ∧
      (first.attempts texts).2.valueOf? "name" = some (.integer 1) := by
  have parsed : Story.parse namedText = .ok (⟨[("health", .integer 5), ("name", .integer 1)],
      .initial [("health", .integer 5), ("name", .integer 1)]⟩ : Story) := by
    decide +kernel
  have read : State.parse oldState = .ok (⟨8, none, none, some (.object []), [("health", .integer 3)], [], [], [], -1, 0, 0⟩ :
      State) := by
    decide +kernel
  refine ⟨_, parsed, by decide +kernel, by decide +kernel, ?_⟩
  obtain ⟨memoryless, _⟩ := attempts_memoryless parsed [namedState "\"name\":7", "[]", oldState, namedState "\"gold\":1"]
  exact memoryless.missing oldState _ "name" (by decide +kernel) read rfl

end InkProject.Story
