import InkProject.Proofs.Story.History
set_option autoImplicit false

namespace InkProject.Story

open Json

structure Newest (members : Table Json) : Prop where
  version : members.find? stateVersions.key = some (.integer stateVersions.greatest)
  flows : ∃ flows, members.find? "flows" = some (.object flows)

def State.Current (state : State) : Prop := state.version = stateVersions.greatest ∧ ∃ flows, state.flows = some flows

namespace State

variable {state : State} {text : String} {members : Table Json}

theorem entries_version (state : State) : state.entries.find? stateVersions.key = some (.integer state.version) := rfl

theorem entries_values (state : State) : state.entries.find? "variablesState" = some (.object state.values) :=
  entries_found (by simp [entries])

theorem newest_entries_iff (state : State) : Newest state.entries ↔ state.Current := by
  obtain ⟨shown, _, _⟩ := entries_shown state
  constructor
  · intro newest
    obtain ⟨flows, found⟩ := newest.flows
    rw [shown, Option.map_eq_some_iff] at found
    obtain ⟨own, present, _⟩ := found
    exact ⟨Json.integer.inj (Option.some.inj newest.version), own, present⟩
  · intro current
    obtain ⟨version, flows, present⟩ := current
    constructor
    case version => rw [entries_version, version]
    case flows => exact ⟨flows, by rw [shown, present, Option.map_some]⟩

theorem newest_parsed_iff (done : State.parse text = .ok state) :
    (∃ given, Json.parse text = .ok (.object given) ∧ Newest given) ↔ state.Current := by
  obtain ⟨version, members, read, made, _⟩ := (parse_eq_ok _ _).mp done
  obtain ⟨parsed, number, _⟩ := (stateVersions.read_eq_ok _ _ _).mp read
  obtain ⟨same, reads⟩ := ofMembers_reads made
  obtain ⟨json, found, signed⟩ := Option.bind_eq_some_iff.mp number
  have number : members.find? stateVersions.key = some (.integer state.version) := by
    rw [found, ((signed?_eq_some _ _).mp signed).1, same]
  constructor
  · intro given
    obtain ⟨given, also, newest⟩ := given
    rw [parsed, Except.ok.injEq, Json.object.injEq] at also
    subst also
    obtain ⟨flows, found⟩ := newest.flows
    have version := newest.version
    rw [number, Option.some.injEq, Json.integer.injEq] at version
    exact ⟨version, flows, (reads.flows_iff flows).mpr found⟩
  · intro current
    obtain ⟨version, flows, present⟩ := current
    refine ⟨members, parsed, ?_, flows, (reads.flows_iff flows).mp present⟩
    rw [number, version]

theorem text_reads (fits : ∀ entry ∈ state.entries, Fits inside entry.2) :
    ∃ again : Table Json, Json.parse state.text = .ok (.object again) ∧ ∀ key, again.find? key = state.entries.find? key := by
  refine ⟨Table.overlay [] state.entries, ?_, ?_⟩
  · rw [text, encode]
    exact parse_object fits
  · intro key
    rw [Table.find?_overlay _ (entries_distinct state), Table.find?, Option.or_none]

end State

section

variable {story loaded : Story} {text : String}

theorem load_ordered (ordered : story.globals.Ordered) (done : story.load text = .ok loaded) :
    loaded.state.values.Ordered := by
  obtain ⟨state, _, _, rfl⟩ := load_eq_ok.mp done
  exact Table.overlay_ordered ordered _

theorem load_current_iff (done : story.load text = .ok loaded) :
    loaded.state.Current ↔ ∃ given, Json.parse text = .ok (.object given) ∧ Newest given := by
  obtain ⟨state, parsed, _, rfl⟩ := load_eq_ok.mp done
  exact (State.newest_parsed_iff parsed).symm

theorem parse_ordered_values (done : Story.parse text = .ok story) : story.state.values.Ordered := by
  obtain ⟨_, _, _, _, _, start⟩ := parse_declared done
  rw [start]
  exact parse_ordered done

theorem parse_current (done : Story.parse text = .ok story) : story.state.Current := by
  obtain ⟨_, _, _, _, _, start⟩ := parse_declared done
  rw [start]
  exact ⟨rfl, _, rfl⟩

theorem after_untaken {texts : List String} (untaken : story.lastTaken? texts = none) : story.after texts = story := by
  rw [after_lastTaken, untaken]

theorem after_ordered (parsed : Story.parse text = .ok story) (texts : List String) :
    (story.after texts).state.values.Ordered := by
  cases last : story.lastTaken? texts with
  | none =>
    rw [after_untaken last]
    exact parse_ordered_values parsed
  | some taken => exact load_ordered (parse_ordered parsed) (lastTaken?_load last)

theorem after_current_iff (parsed : Story.parse text = .ok story) (texts : List String) :
    (story.after texts).state.Current ↔ ∀ taken, story.lastTaken? texts = some taken →
      ∃ given, Json.parse taken = .ok (.object given) ∧ Newest given := by
  cases last : story.lastTaken? texts with
  | none =>
    rw [after_untaken last]
    refine iff_of_true (parse_current parsed) ?_
    rintro taken ⟨⟩
  | some taken =>
    rw [load_current_iff (lastTaken?_load last)]
    constructor
    · rintro given _ ⟨⟩
      exact given
    · intro all
      exact all taken rfl

end

-- A story, parsed from a source, into which texts were loaded, and the members that it saves.
structure Saves (source : String) (first : Story) (texts : List String) (held : Story) (members : Table Json) : Prop where
  text : held.save = (Json.object members).compact
  distinct : members.keys.Nodup
  readBack : State.DoubleFree source → (∀ text ∈ texts, State.DoubleFree text) →
    ∃ again : Table Json, Json.parse held.save = .ok (.object again) ∧ ∀ key, again.find? key = members.find? key
  values : ∃ values : Table Json, members.find? "variablesState" = some (.object values) ∧ values.keys.Nodup ∧
    ∀ name, values.find? name = held.valueOf? name ∧ values.contains name = first.globals.contains name
  newest : Newest members ↔ ∀ text, first.lastTaken? texts = some text →
    ∃ given, Json.parse text = .ok (.object given) ∧ Newest given

theorem saved_newest_iff {source : String} {first : Story} (parsed : Story.parse source = .ok first)
    (texts : List String) : ∃ members, Saves source first texts (first.attempts texts).2 members := by
  rw [attempts_after]
  refine ⟨(first.after texts).state.entries, ?_⟩
  constructor
  case text => rfl
  case distinct => exact State.entries_distinct _
  case readBack =>
    intro freeSource free
    have kept : (first.after texts).Kept := after_kept (parse_kept freeSource parsed) free
    exact State.text_reads kept.sound.fits
  case values =>
    refine ⟨(first.after texts).state.values, State.entries_values _, (after_ordered parsed texts).distinct, ?_⟩
    intro name
    refine ⟨rfl, ?_⟩
    rw [after_declared (parse_values parsed), after_globals]
  case newest => rw [State.newest_entries_iff, after_current_iff parsed]

def flowsState (version : String) : String :=
  "\x7b\"inkSaveVersion\":" ++ version ++ ",\"flows\":\x7b\"DEFAULT_FLOW\":\x7b\"callstack\":\x7b\x7d\x7d\x7d,\"variablesState\":\x7b\x7d\x7d"

theorem version_nine_kept : ∃ first members, Story.parse healthText = .ok first ∧
    (first.attempts [flowsState "9"]).1.map Except.isOk = [true] ∧
    Json.parse (first.attempts [flowsState "9"]).2.save = .ok (.object members) ∧
    Table.find? stateVersions.key members = some (.integer 9) ∧ ¬ Newest members := by
  have parsed : Story.parse healthText = .ok (⟨[("health", .integer 5)], .initial [("health", .integer 5)]⟩ : Story) := by
    decide +kernel
  have freeSource : State.DoubleFree healthText := by decide +kernel
  have free : ∀ text ∈ [flowsState "9"], State.DoubleFree text := by decide +kernel
  have nine : ((⟨[("health", .integer 5)], .initial [("health", .integer 5)]⟩ : Story).after
      [flowsState "9"]).state.version = 9 := by
    decide +kernel
  have kept := after_kept (parse_kept freeSource parsed) free
  obtain ⟨members, saved, same⟩ := State.text_reads kept.sound.fits
  have version : members.find? stateVersions.key = some (.integer 9) := by
    rw [same, State.entries_version, nine]
  refine ⟨_, members, parsed, by decide +kernel, by rw [attempts_after]; exact saved, version, ?_⟩
  intro newest
  have greatest := newest.version
  rw [version] at greatest
  exact absurd greatest (by decide)

theorem newer_state_saved : ∃ first members, Story.parse healthText = .ok first ∧
    Saves healthText first [oldState, flowsState "10", "[]"] (first.attempts [oldState, flowsState "10", "[]"]).2 members ∧
    Newest members := by
  have parsed : Story.parse healthText = .ok (⟨[("health", .integer 5)], .initial [("health", .integer 5)]⟩ : Story) := by
    decide +kernel
  obtain ⟨members, saves⟩ := saved_newest_iff parsed [oldState, flowsState "10", "[]"]
  refine ⟨_, members, parsed, saves, saves.newest.mpr ?_⟩
  intro text last
  have taken : (⟨[("health", .integer 5)], .initial [("health", .integer 5)]⟩ : Story).lastTaken?
      [oldState, flowsState "10", "[]"] = some (flowsState "10") := by
    decide +kernel
  rw [taken, Option.some.injEq] at last
  subst last
  refine ⟨[("flows", .object [("DEFAULT_FLOW", .object [("callstack", .object [])])]), ("inkSaveVersion", .integer 10),
    ("variablesState", .object [])], by decide +kernel, rfl, _, rfl⟩

end InkProject.Story
