import InkProject.Proofs.Story.Globals
import InkProject.Proofs.Story.State
import InkProject.Story.Basic
set_option autoImplicit false

namespace InkProject.Story

open Json

theorem compiledOf_root {members : Table Json} {shown : Compiled} (made : compiledOf members = .ok shown) :
    members.find? "root" = some (.array shown.root) ∧
      optional "listDefs" (decodeOption decodeObject) none members = .ok shown.lists := by
  rw [compiledOf] at made
  obtain ⟨again, same, reading⟩ := (bind_eq_ok _ _ _).mp made
  rw [decodeMembers_same same] at reading
  obtain ⟨root, found, listing⟩ := (bind_eq_ok _ _ _).mp reading
  obtain ⟨lists, read, same⟩ := (bind_eq_ok _ _ _).mp listing
  cases same
  obtain ⟨json, there, decoded⟩ := required_eq_ok.mp found
  exact ⟨by rw [there, (decodeList_eq_ok _ _).mp decoded], read⟩

theorem parse_declared {text : String} {story : Story} (done : Story.parse text = .ok story) :
    ∃ members root, Json.parse text = .ok (.object members) ∧ Table.find? "root" members = some (.array root) ∧
      declaredGlobals root = .ok story.globals ∧ story.state = .initial story.globals := by
  rw [Story.parse] at done
  cases whole : Story.read text with
  | error error =>
    rw [whole] at done
    cases done
  | ok result =>
    rw [whole] at done
    cases done
    rw [Story.read] at whole
    obtain ⟨⟨version, members⟩, read, shaping⟩ := (bind_eq_ok _ _ _).mp whole
    obtain ⟨compiled, shaped, declaring⟩ := (bind_eq_ok _ _ _).mp shaping
    obtain ⟨globals, declared, same⟩ := (bind_eq_ok _ _ _).mp declaring
    cases same
    have rooted := (compiledOf_root (mapError_eq_ok shaped)).1
    exact ⟨members, compiled.root, ((storyVersions.read_eq_ok _ _ _).mp read).1, rooted, declared, rfl⟩

theorem parse_ordered {text : String} {story : Story} (done : Story.parse text = .ok story) : story.globals.Ordered := by
  obtain ⟨members, root, _, _, declared, _⟩ := parse_declared done
  exact declaredGlobals_ordered declared

theorem freshFlow_fits : Fits 126 State.freshFlow := by
  have zero : ∀ {depth}, Fits depth (.integer 0) := .integer (by decide) (by decide)
  simp only [State.freshFlow, Fits.object_iff, Fits.array_iff, List.forall_mem_cons, Fits.bool, Fits.string, zero,
    List.not_mem_nil, false_imp_iff, implies_true, and_true, true_and]
  decide

theorem initial_sound {globals : Table Json} (fits : Fits State.inside (.object globals)) :
    (State.initial globals).Sound where
  version := State.greatest_supported
  flows := by
    intro flows same
    cases same
    exact .object (List.pairwise_singleton _ _) (by simpa using freshFlow_fits)
  threads := by
    intro threads same
    cases same
  values := fits
  evalStack := .array (by simp [State.initial])
  visitCounts := State.empty_fits
  turnIndices := State.empty_fits
  turnIndex := State.signed_start
  storySeed := State.signed_zero
  previousRandom := State.signed_zero
  checked := rfl

structure Kept (story : Story) : Prop where
  globals : Fits State.inside (.object story.globals)
  sound : story.state.Sound
  declared : ∀ name, story.state.values.contains name = story.globals.contains name

def reload (story : Story) (text : String) : Story :=
  match story.load text with
  | .ok loaded => loaded
  | .error _ => story

def after (story : Story) (texts : List String) : Story := texts.foldl reload story

section

variable {story loaded : Story} {text : String} {state : State}

theorem parse_kept (free : State.DoubleFree text) (done : Story.parse text = .ok story) : story.Kept := by
  obtain ⟨members, root, parsed, found, declared, start⟩ := parse_declared done
  obtain ⟨_, fit⟩ := Fits.object_iff.mp (parse_fits parsed (free _ parsed))
  have items := Fits.array_iff.mp (fit _ (Table.mem_of_find? found))
  have globals := declaredGlobals_fits items declared
  have whole : Fits State.inside (.object story.globals) :=
    .object (declaredGlobals_ordered declared) fun entry member => (globals entry member).deeper.deeper
  refine ⟨whole, ?_, ?_⟩
  · rw [start]
    exact initial_sound whole
  · rw [start]
    intro name
    rfl

theorem undeclared?_eq_none (story : Story) (state : State) : story.undeclared? state = none ↔
    ∀ name, state.values.contains name = true → story.globals.contains name = true := by
  rw [undeclared?, List.find?_eq_none]
  constructor
  · intro all name present
    simpa using all name ((Table.contains_iff _ _).mp present)
  · intro all name member
    simpa using all name ((Table.contains_iff _ _).mpr member)

theorem load_eq_ok : story.load text = .ok loaded ↔ ∃ state, State.parse text = .ok state ∧
    (∀ name, state.values.contains name = true → story.globals.contains name = true) ∧
    loaded = { story with state := { state with values := story.globals.overlay state.values } } := by
  rw [load, bind_eq_ok]
  constructor
  · intro holds
    obtain ⟨state, parsed, done⟩ := holds
    cases absent : story.undeclared? state with
    | some name =>
      rw [absent] at done
      cases done
    | none =>
      rw [absent] at done
      cases done
      exact ⟨state, parsed, (undeclared?_eq_none _ _).mp absent, rfl⟩
  · intro holds
    obtain ⟨state, parsed, all, rfl⟩ := holds
    refine ⟨state, parsed, ?_⟩
    rw [(undeclared?_eq_none _ _).mpr all]

theorem overlay_fits {a b : Table Json} (fitsA : Fits State.inside (.object a)) (fitsB : Fits State.inside (.object b)) :
    Fits State.inside (.object (a.overlay b)) := by
  obtain ⟨ordered, insideA⟩ := Fits.object_iff.mp fitsA
  obtain ⟨_, insideB⟩ := Fits.object_iff.mp fitsB
  refine .object (Table.overlay_ordered ordered b) fun entry member => ?_
  rcases Table.mem_overlay member with first | second
  · exact insideA entry first
  · exact insideB entry second

theorem load_declared (done : story.load text = .ok loaded) (name : String) :
    loaded.state.values.contains name = loaded.globals.contains name := by
  obtain ⟨state, _, all, rfl⟩ := load_eq_ok.mp done
  dsimp only
  rw [Table.contains_overlay]
  cases present : state.values.contains name with
  | false => rfl
  | true => rw [all name present, Bool.true_or]

theorem load_kept (kept : story.Kept) (free : State.DoubleFree text) (done : story.load text = .ok loaded) :
    loaded.Kept := by
  have declared := load_declared done
  obtain ⟨state, parsed, all, rfl⟩ := load_eq_ok.mp done
  have sound := State.parse_sound free parsed
  refine ⟨kept.globals, ?_, declared⟩
  exact ⟨sound.version, sound.flows, sound.threads, overlay_fits kept.globals sound.values, sound.evalStack,
    sound.visitCounts, sound.turnIndices, sound.turnIndex, sound.storySeed, sound.previousRandom, sound.checked⟩

theorem reload_kept (kept : story.Kept) (free : State.DoubleFree text) : (story.reload text).Kept := by
  rw [reload]
  split
  · exact load_kept kept free ‹_›
  · exact kept

theorem after_kept (kept : story.Kept) {texts : List String} (free : ∀ text ∈ texts, State.DoubleFree text) :
    (story.after texts).Kept := by
  induction texts generalizing story with
  | nil => exact kept
  | cons text texts ih =>
    exact ih (reload_kept kept (free text List.mem_cons_self)) fun other inside =>
      free other (List.mem_cons_of_mem _ inside)

theorem reload_globals (story : Story) (text : String) : (story.reload text).globals = story.globals := by
  rw [reload]
  split
  · rename_i done
    obtain ⟨state, _, _, rfl⟩ := load_eq_ok.mp done
    rfl
  · rfl

theorem after_globals (story : Story) (texts : List String) : (story.after texts).globals = story.globals := by
  induction texts generalizing story with
  | nil => rfl
  | cons text texts ih => exact (ih (story.reload text)).trans (reload_globals story text)

-- What a saved state becomes in the story it is loaded into.
def receive (story saved : Story) : Story :=
  { story with state := { saved.state with values := story.globals.overlay saved.state.values } }

theorem load_save_eq_ok {saved : Story} (kept : saved.Kept) : story.load saved.save = .ok loaded ↔
    (∀ name, saved.globals.contains name = true → story.globals.contains name = true) ∧
      loaded = story.receive saved := by
  have parsed : State.parse saved.save = .ok saved.state := State.parse_text kept.sound
  rw [load_eq_ok]
  constructor
  · intro holds
    obtain ⟨state, read, all, same⟩ := holds
    rw [parsed, Except.ok.injEq] at read
    subst read
    simp only [kept.declared] at all
    exact ⟨all, same⟩
  · intro holds
    obtain ⟨all, same⟩ := holds
    refine ⟨saved.state, parsed, ?_, same⟩
    simpa only [kept.declared] using all

theorem Kept.distinct (kept : story.Kept) : story.state.values.keys.Nodup :=
  (Fits.object_iff.mp kept.sound.values).1.distinct

theorem Kept.valueOf?_isSome (kept : story.Kept) (name : String) :
    (story.valueOf? name).isSome = story.globals.contains name :=
  kept.declared name

theorem receive_valueOf? (story : Story) {saved : Story} (kept : saved.Kept) (name : String) :
    (story.receive saved).valueOf? name =
      if saved.globals.contains name then saved.valueOf? name else story.globals.find? name := by
  rw [← kept.declared name, Table.contains, valueOf?, receive]
  dsimp only
  rw [Table.find?_overlay _ kept.distinct]
  cases found : Table.find? name saved.state.values with
  | none => simp
  | some value => simp [valueOf?, found]

theorem receive_state (story : Story) {saved : Story} (kept : saved.Kept) (ordered : story.globals.Ordered)
    (same : ∀ name, saved.globals.contains name = story.globals.contains name) :
    (story.receive saved).state = saved.state := by
  have values : story.globals.overlay saved.state.values = saved.state.values := by
    apply Table.ordered_ext (Table.overlay_ordered ordered _) (Fits.object_iff.mp kept.sound.values).1
    intro name
    rw [Table.find?_overlay _ kept.distinct]
    cases found : Table.find? name saved.state.values with
    | some value => rfl
    | none =>
      have absent : story.globals.contains name = false := by
        rw [← same, ← kept.declared, Table.contains, found]
        rfl
      rw [Table.contains, Option.isSome_eq_false_iff, Option.isNone_iff_eq_none] at absent
      rw [Option.none_or, absent]
  rw [receive, values]

theorem receive_own (story : Story) {saved : Story} (kept : saved.Kept) (ordered : story.globals.Ordered)
    (own : story.globals = saved.globals) : story.receive saved = saved := by
  have state := receive_state story kept ordered fun name => by rw [own]
  have whole : story.receive saved = ⟨story.globals, (story.receive saved).state⟩ := rfl
  rw [whole, state, own]

end

-- What comes of loading a saved state of one story into another; what they were parsed to
-- are their starts.
structure Carried (first second saved target : Story) : Prop where
  accepted : (∃ loaded, target.load saved.save = .ok loaded) ↔
    ∀ name, first.globals.contains name = true → second.globals.contains name = true
  declared : ∀ name, first.globals.contains name = (saved.valueOf? name).isSome
  values : ∀ loaded, target.load saved.save = .ok loaded → ∀ name, loaded.valueOf? name =
    if first.globals.contains name then saved.valueOf? name else second.globals.find? name
  others : ∀ loaded, target.load saved.save = .ok loaded → loaded.globals = second.globals ∧
    loaded.state = { saved.state with values := loaded.state.values }
  text : ∀ loaded, target.load saved.save = .ok loaded →
    (∀ name, first.globals.contains name = second.globals.contains name) → loaded.save = saved.save
  restored : ∀ texts, (first.after texts).load saved.save = .ok saved

theorem saved_carried {textA textB : String} {first second : Story} (loadsA loadsB : List String)
    (parsedA : Story.parse textA = .ok first) (parsedB : Story.parse textB = .ok second)
    (freeA : State.DoubleFree textA) (free : ∀ text ∈ loadsA, State.DoubleFree text) :
    Carried first second (first.after loadsA) (second.after loadsB) := by
  have kept : (first.after loadsA).Kept := after_kept (parse_kept freeA parsedA) free
  have globalsA := after_globals first loadsA
  have globalsB := after_globals second loadsB
  have loads {story loaded : Story} : story.load (first.after loadsA).save = .ok loaded ↔
      (∀ name, first.globals.contains name = true → story.globals.contains name = true) ∧
        loaded = story.receive (first.after loadsA) := by
    rw [load_save_eq_ok kept, globalsA]
  constructor
  case accepted =>
    rw [← globalsB]
    constructor
    · intro accepted
      obtain ⟨loaded, done⟩ := accepted
      exact (loads.mp done).1
    · intro all
      exact ⟨_, loads.mpr ⟨all, rfl⟩⟩
  case declared =>
    intro name
    rw [kept.valueOf?_isSome, globalsA]
  case values =>
    intro loaded done name
    obtain ⟨_, rfl⟩ := loads.mp done
    rw [receive_valueOf? _ kept, globalsA, globalsB]
  case others =>
    intro loaded done
    obtain ⟨_, rfl⟩ := loads.mp done
    exact ⟨globalsB, rfl⟩
  case text =>
    intro loaded done same
    obtain ⟨_, rfl⟩ := loads.mp done
    have ordered : (second.after loadsB).globals.Ordered := globalsB ▸ parse_ordered parsedB
    have state := receive_state _ kept ordered (by rw [globalsA, globalsB]; exact same)
    rw [save, save, state]
  case restored =>
    intro texts
    have globals := after_globals first texts
    have ordered : (first.after texts).globals.Ordered := globals ▸ parse_ordered parsedA
    have own := receive_own (first.after texts) kept ordered (globals.trans globalsA.symm)
    refine loads.mpr ⟨?_, own.symm⟩
    intro name present
    rwa [globals]

def healthText : String :=
  "\x7b\"inkVersion\":21,\"root\":[\x7b\"global decl\":[\"ev\",5,\x7b\"VAR=\":\"health\"\x7d]\x7d]\x7d"

def oldState : String :=
  "\x7b\"inkSaveVersion\":8,\"callstackThreads\":\x7b\x7d,\"variablesState\":\x7b\"health\":3\x7d\x7d"

def namedText : String :=
  "\x7b\"inkVersion\":21,\"root\":[\x7b\"global decl\":[\"ev\",5,\x7b\"VAR=\":\"health\"\x7d,1,\x7b\"VAR=\":\"name\"\x7d]\x7d]\x7d"

theorem old_state_carried : ∃ first second, Story.parse healthText = .ok first ∧ Story.parse namedText = .ok second ∧
    (first.after [oldState]).valueOf? "health" = some (.integer 3) ∧
    Carried first second (first.after [oldState]) (second.after []) := by
  have parsedA : Story.parse healthText = .ok (⟨[("health", .integer 5)], .initial [("health", .integer 5)]⟩ : Story) := by
    decide +kernel
  have parsedB : Story.parse namedText = .ok (⟨[("health", .integer 5), ("name", .integer 1)],
      .initial [("health", .integer 5), ("name", .integer 1)]⟩ : Story) := by
    decide +kernel
  have freeA : State.DoubleFree healthText := by decide +kernel
  have free : ∀ text ∈ [oldState], State.DoubleFree text := by decide +kernel
  refine ⟨_, _, parsedA, parsedB, by decide +kernel, ?_⟩
  exact saved_carried [oldState] [] parsedA parsedB freeA free

end InkProject.Story
