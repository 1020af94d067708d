import InkProject.Proofs.Json.Decode
import InkProject.Proofs.Json.Reading
import InkProject.Story.State
set_option autoImplicit false

namespace InkProject.Story

open Json

theorem Versions.read_eq_ok (versions : Versions) (text : String) (version : Int) (members : Table Json) :
    versions.read text = .ok (version, members) ↔ Json.parse text = .ok (.object members) ∧
      (Table.find? versions.key members).bind Json.signed? = some version ∧
      versions.least ≤ version ∧ version ≤ versions.greatest := by
  rw [Versions.read]
  cases parsed : Json.parse text with
  | error message => simp [Versions.malformed]
  | ok json =>
    cases json with
    | object table =>
      dsimp only
      cases number : (Table.find? versions.key table).bind Json.signed? with
      | none =>
        constructor
        · intro failed
          cases failed
        · intro holds
          obtain ⟨same, found, _⟩ := holds
          cases same
          rw [number] at found
          cases found
      | some other =>
        dsimp only
        by_cases supported : versions.least ≤ other ∧ other ≤ versions.greatest
        · rw [if_pos supported]
          constructor
          · intro same
            cases same
            exact ⟨rfl, number, supported⟩
          · intro holds
            obtain ⟨same, found, _⟩ := holds
            cases same
            rw [number] at found
            cases found
            rfl
        · rw [if_neg supported]
          constructor
          · intro failed
            cases failed
          · intro holds
            obtain ⟨same, found, inside⟩ := holds
            cases same
            rw [number] at found
            cases found
            exact absurd inside supported
    | _ => simp [Versions.malformed]

namespace State

structure Reads (members : Table Json) (state : State) : Prop where
  flows : optional "flows" (decodeOption decodeObject) none members = .ok state.flows
  currentFlow : optional "currentFlowName" (decodeOption decodeString) none members = .ok state.currentFlow
  callstackThreads : optional "callstackThreads" (decodeOption .ok) none members = .ok state.callstackThreads
  values : required "variablesState" decodeObject members = .ok state.values
  evalStack : optional "evalStack" (decodeList .ok) [] members = .ok state.evalStack
  visitCounts : optional "visitCounts" decodeObject [] members = .ok state.visitCounts
  turnIndices : optional "turnIndices" decodeObject [] members = .ok state.turnIndices
  turnIndex : optional "turnIdx" decodeSigned (-1) members = .ok state.turnIndex
  storySeed : optional "storySeed" decodeSigned 0 members = .ok state.storySeed
  previousRandom : optional "previousRandom" decodeSigned 0 members = .ok state.previousRandom

theorem ofMembers_reads {version : Int} {members : Table Json} {state : State}
    (done : ofMembers version members = .ok state) : state.version = version ∧ Reads members state := by
  rw [ofMembers] at done
  obtain ⟨again, same, done⟩ := (bind_eq_ok _ _ _).mp done
  rw [decodeMembers_same same] at done
  obtain ⟨flows, readFlows, done⟩ := (bind_eq_ok _ _ _).mp done
  obtain ⟨current, readCurrent, done⟩ := (bind_eq_ok _ _ _).mp done
  obtain ⟨threads, readThreads, done⟩ := (bind_eq_ok _ _ _).mp done
  obtain ⟨values, readValues, done⟩ := (bind_eq_ok _ _ _).mp done
  obtain ⟨stack, readStack, done⟩ := (bind_eq_ok _ _ _).mp done
  obtain ⟨visits, readVisits, done⟩ := (bind_eq_ok _ _ _).mp done
  obtain ⟨turns, readTurns, done⟩ := (bind_eq_ok _ _ _).mp done
  obtain ⟨turn, readTurn, done⟩ := (bind_eq_ok _ _ _).mp done
  obtain ⟨seed, readSeed, done⟩ := (bind_eq_ok _ _ _).mp done
  obtain ⟨random, readRandom, done⟩ := (bind_eq_ok _ _ _).mp done
  cases done
  exact ⟨rfl, readFlows, readCurrent, readThreads, readValues, readStack, readVisits, readTurns, readTurn, readSeed,
    readRandom⟩

section

variable {members : Table Json} {state : State}

theorem Reads.flows_iff (reads : Reads members state) (flows : Table Json) :
    state.flows = some flows ↔ members.find? "flows" = some (.object flows) := by
  rw [optional_some_iff reads.flows]
  simp [decodeObject_eq_ok]

theorem Reads.currentFlow_iff (reads : Reads members state) (name : String) :
    state.currentFlow = some name ↔ members.find? "currentFlowName" = some (.string name) := by
  rw [optional_some_iff reads.currentFlow]
  simp [decodeString_eq_ok]

theorem Reads.threads_iff (reads : Reads members state) (threads : Json) :
    state.callstackThreads = some threads ↔ members.find? "callstackThreads" = some threads ∧ threads ≠ .null := by
  rw [optional_some_iff reads.callstackThreads]
  simp

theorem Reads.values_iff (reads : Reads members state) (values : Table Json) :
    state.values = values ↔ members.find? "variablesState" = some (.object values) := by
  obtain ⟨json, found, decoded⟩ := required_eq_ok.mp reads.values
  rw [found, (decodeObject_eq_ok _ _).mp decoded]
  simp

end

theorem Reads.passed {members : Table Json} {state : State} (reads : Reads members state) :
    ∀ field ∈ fields, field.Passed members := by
  simp only [fields, List.forall_mem_cons, List.not_mem_nil, false_imp_iff, implies_true, and_true]
  exact ⟨optional_passed reads.flows _, optional_passed reads.currentFlow _, required_passed reads.values _,
    optional_passed reads.evalStack _, optional_passed reads.visitCounts _, optional_passed reads.turnIndices _,
    optional_passed reads.turnIndex _, optional_passed reads.storySeed _, optional_passed reads.previousRandom _⟩

theorem Reads.there {members : Table Json} {state : State} (reads : Reads members state) :
    ∀ field ∈ fields, field.required = true → members.contains field.name = true := by
  obtain ⟨json, found, _⟩ := required_eq_ok.mp reads.values
  have present : members.contains "variablesState" = true := by
    rw [Table.contains, found]
    rfl
  simp [fields, field, present]

theorem Reads.ofMembers {members : Table Json} {state : State} (distinct : members.keys.Nodup)
    (reads : Reads members state) : ofMembers state.version members = .ok state := by
  rw [State.ofMembers, decodeMembers_passed distinct reads.passed reads.there, ok_bind, reads.flows, ok_bind,
    reads.currentFlow, ok_bind, reads.callstackThreads, ok_bind, reads.values, ok_bind, reads.evalStack, ok_bind,
    reads.visitCounts, ok_bind, reads.turnIndices, ok_bind, reads.turnIndex, ok_bind, reads.storySeed, ok_bind,
    reads.previousRandom, ok_bind]
  rfl

def inside : Nat := depthLimit - 1

-- A state that can be saved: its parts fit where they are written, and it would not be refused.
structure Sound (state : State) : Prop where
  version : stateVersions.least ≤ state.version ∧ state.version ≤ stateVersions.greatest
  flows : ∀ flows, state.flows = some flows → Fits inside (.object flows)
  threads : ∀ threads, state.callstackThreads = some threads → threads ≠ .null ∧ Fits inside threads
  values : Fits inside (.object state.values)
  evalStack : Fits inside (.array state.evalStack)
  visitCounts : Fits inside (.object state.visitCounts)
  turnIndices : Fits inside (.object state.turnIndices)
  turnIndex : Signed state.turnIndex
  storySeed : Signed state.storySeed
  previousRandom : Signed state.previousRandom
  checked : state.checkFlows = .ok ()

theorem signed_zero : Signed 0 := ⟨by decide, by decide⟩

theorem signed_start : Signed (-1) := ⟨by decide, by decide⟩

theorem greatest_supported :
    stateVersions.least ≤ stateVersions.greatest ∧ stateVersions.greatest ≤ stateVersions.greatest := by
  decide

theorem empty_fits : Fits inside (.object []) := .object Table.ordered_nil fun _ member => nomatch member

theorem optionalTable_fits {members table : Table Json} {name : String} (fit : ∀ entry ∈ members, Fits inside entry.2)
    (read : optional name decodeObject [] members = .ok table) : Fits inside (.object table) := by
  rcases optional_eq_ok.mp read with ⟨_, rfl⟩ | ⟨json, found, decoded⟩
  · exact empty_fits
  · obtain rfl := (decodeObject_eq_ok _ _).mp decoded
    exact fit _ (Table.mem_of_find? found)

theorem optionalNumber_signed {members : Table Json} {name : String} {default value : Int} (usual : Signed default)
    (read : optional name decodeSigned default members = .ok value) : Signed value := by
  rcases optional_eq_ok.mp read with ⟨_, rfl⟩ | ⟨json, found, decoded⟩
  · exact usual
  · exact ((decodeSigned_eq_ok _ _).mp decoded).2

theorem Reads.sound {members : Table Json} {state : State} (reads : Reads members state)
    (fit : ∀ entry ∈ members, Fits inside entry.2)
    (version : stateVersions.least ≤ state.version ∧ state.version ≤ stateVersions.greatest)
    (checked : state.checkFlows = .ok ()) : state.Sound where
  version := version
  flows := by
    intro flows present
    rcases optional_eq_ok.mp reads.flows with ⟨_, absent⟩ | ⟨json, found, decoded⟩
    · rw [present] at absent
      cases absent
    · rw [present] at decoded
      rcases (decodeOption_eq_ok _ _ _).mp decoded with ⟨_, absent⟩ | ⟨_, table, object, same⟩
      · cases absent
      · cases same
        rw [← (decodeObject_eq_ok _ _).mp object]
        exact fit _ (Table.mem_of_find? found)
  threads := by
    intro threads present
    rcases optional_eq_ok.mp reads.callstackThreads with ⟨_, absent⟩ | ⟨json, found, decoded⟩
    · rw [present] at absent
      cases absent
    · rw [present] at decoded
      rcases (decodeOption_eq_ok _ _ _).mp decoded with ⟨_, absent⟩ | ⟨filled, other, itself, same⟩
      · cases absent
      · cases same
        cases itself
        exact ⟨filled, fit _ (Table.mem_of_find? found)⟩
  values := by
    obtain ⟨json, found, decoded⟩ := required_eq_ok.mp reads.values
    rw [← (decodeObject_eq_ok _ _).mp decoded]
    exact fit _ (Table.mem_of_find? found)
  evalStack := by
    rcases optional_eq_ok.mp reads.evalStack with ⟨_, empty⟩ | ⟨json, found, decoded⟩
    · rw [empty]
      exact .array fun _ member => nomatch member
    · rw [← (decodeList_eq_ok _ _).mp decoded]
      exact fit _ (Table.mem_of_find? found)
  visitCounts := optionalTable_fits fit reads.visitCounts
  turnIndices := optionalTable_fits fit reads.turnIndices
  turnIndex := optionalNumber_signed signed_start reads.turnIndex
  storySeed := optionalNumber_signed signed_zero reads.storySeed
  previousRandom := optionalNumber_signed signed_zero reads.previousRandom
  checked := checked

theorem parse_eq_ok (text : String) (state : State) : parse text = .ok state ↔ ∃ version members,
    stateVersions.read text = .ok (version, members) ∧ ofMembers version members = .ok state ∧
      state.checkFlows = .ok () := by
  rw [parse, bind_eq_ok]
  constructor
  · intro holds
    obtain ⟨⟨version, members⟩, read, done⟩ := holds
    obtain ⟨shaped, decoded, done⟩ := (bind_eq_ok _ _ _).mp done
    obtain ⟨⟨⟩, checked, same⟩ := (bind_eq_ok _ _ _).mp done
    cases same
    refine ⟨version, members, read, ?_, checked⟩
    rw [Versions.shaped] at decoded
    cases made : ofMembers version members with
    | error mismatch =>
      rw [made] at decoded
      cases decoded
    | ok other =>
      rw [made] at decoded
      cases decoded
      rfl
  · intro holds
    obtain ⟨version, members, read, made, checked⟩ := holds
    refine ⟨(version, members), read, ?_⟩
    dsimp only
    rw [made]
    show (do state.checkFlows; return state) = Except.ok state
    rw [checked]
    rfl

def DoubleFree (text : String) : Prop := ∀ json, Json.parse text = .ok json → doubleFree json = true

instance (text : String) : Decidable (DoubleFree text) :=
  match parsed : Json.parse text with
  | .ok json =>
    if free : doubleFree json = true then
      isTrue fun other same => by
        rw [parsed, Except.ok.injEq] at same
        exact same ▸ free
    else isFalse fun all => free (all json parsed)
  | .error _ => isTrue fun other same => by
      rw [parsed] at same
      cases same

theorem parse_sound {text : String} {state : State} (free : DoubleFree text) (done : parse text = .ok state) :
    state.Sound := by
  obtain ⟨version, members, read, made, checked⟩ := (parse_eq_ok _ _).mp done
  obtain ⟨parsed, number, supported⟩ := (stateVersions.read_eq_ok _ _ _).mp read
  obtain ⟨same, reads⟩ := ofMembers_reads made
  obtain ⟨_, fit⟩ := Fits.object_iff.mp (parse_fits parsed (free _ parsed))
  exact reads.sound fit (same ▸ supported) checked

theorem entries_distinct (state : State) : state.entries.keys.Nodup := by
  have all : ["inkSaveVersion", "flows", "currentFlowName", "callstackThreads", "variablesState", "evalStack",
      "visitCounts", "turnIndices", "turnIdx", "storySeed", "previousRandom"].Nodup := by decide
  refine all.sublist ?_
  rcases state with ⟨_, _ | _, _ | _, _ | _, _, _, _, _, _, _, _⟩ <;> exact List.isSublist_iff_sublist.mp rfl

theorem entries_shown (state : State) : state.entries.find? "flows" = state.flows.map Json.object ∧
    state.entries.find? "currentFlowName" = state.currentFlow.map Json.string ∧
    state.entries.find? "callstackThreads" = state.callstackThreads.map id := by
  rcases state with ⟨_, _ | _, _ | _, _ | _, _, _, _, _, _, _, _⟩ <;> exact ⟨rfl, rfl, rfl⟩

theorem entries_found {state : State} {name : String} {json : Json} (member : (name, json) ∈ state.entries) :
    state.entries.find? name = some json :=
  Table.find?_of_mem (entries_distinct state) member

theorem optional_shown {α : Type} {members : Table Json} {name : String} {shown : Option α} {write : α → Json}
    {decoder : Decoder α} (found : members.find? name = shown.map write)
    (back : ∀ value, shown = some value → write value ≠ .null ∧ decoder (write value) = .ok value) :
    optional name (decodeOption decoder) none members = .ok shown := by
  rw [optional_eq_ok]
  cases shown with
  | none => exact .inl ⟨found, rfl⟩
  | some value =>
    obtain ⟨filled, decoded⟩ := back value rfl
    exact .inr ⟨write value, found, (decodeOption_eq_ok _ _ _).mpr (.inr ⟨filled, value, decoded, rfl⟩)⟩

theorem Sound.reads {state : State} (sound : state.Sound) {members : Table Json}
    (same : ∀ key, members.find? key = state.entries.find? key) : Reads members state := by
  obtain ⟨flows, currentFlow, threads⟩ := entries_shown state
  have found {name : String} {json : Json} (member : (name, json) ∈ state.entries) : members.find? name = some json :=
    (same name).trans (entries_found member)
  constructor
  · apply optional_shown ((same _).trans flows)
    intro flows _
    exact ⟨Json.noConfusion, rfl⟩
  · apply optional_shown ((same _).trans currentFlow)
    intro name _
    exact ⟨Json.noConfusion, rfl⟩
  · apply optional_shown ((same _).trans threads)
    intro threads present
    exact ⟨(sound.threads threads present).1, rfl⟩
  · exact required_eq_ok.mpr ⟨_, found (by simp [entries]), (decodeObject_eq_ok _ _).mpr rfl⟩
  · exact optional_eq_ok.mpr (.inr ⟨_, found (by simp [entries]), (decodeList_eq_ok _ _).mpr rfl⟩)
  · exact optional_eq_ok.mpr (.inr ⟨_, found (by simp [entries]), (decodeObject_eq_ok _ _).mpr rfl⟩)
  · exact optional_eq_ok.mpr (.inr ⟨_, found (by simp [entries]), (decodeObject_eq_ok _ _).mpr rfl⟩)
  · exact optional_eq_ok.mpr (.inr ⟨_, found (by simp [entries]), (decodeSigned_eq_ok _ _).mpr ⟨rfl, sound.turnIndex⟩⟩)
  · exact optional_eq_ok.mpr (.inr ⟨_, found (by simp [entries]), (decodeSigned_eq_ok _ _).mpr ⟨rfl, sound.storySeed⟩⟩)
  · exact optional_eq_ok.mpr
      (.inr ⟨_, found (by simp [entries]), (decodeSigned_eq_ok _ _).mpr ⟨rfl, sound.previousRandom⟩⟩)

theorem Signed.fits {value : Int} (signed : Signed value) (depth : Nat) : Fits depth (.integer value) := by
  obtain ⟨low, high⟩ := signed
  refine .integer low ?_
  rw [greatestSigned] at high
  rw [greatest]
  omega

theorem Sound.signed {state : State} (sound : state.Sound) : Signed state.version := by
  obtain ⟨low, high⟩ := sound.version
  constructor
  · exact Int.le_trans (by decide) low
  · exact Int.le_trans high (by decide)

theorem Sound.fits {state : State} (sound : state.Sound) : ∀ entry ∈ state.entries, Fits inside entry.2 := by
  intro entry member
  simp only [entries, List.mem_append, List.mem_cons, List.not_mem_nil, or_false, Option.mem_toList, Option.map_eq_some_iff,
    or_assoc] at member
  rcases member with rfl | ⟨flows, present, rfl⟩ | ⟨name, _, rfl⟩ | ⟨threads, present, rfl⟩ | rfl | rfl | rfl | rfl | rfl |
    rfl | rfl
  · exact Signed.fits sound.signed _
  · exact sound.flows flows present
  · exact .string name
  · exact (sound.threads threads present).2
  · exact sound.values
  · exact sound.evalStack
  · exact sound.visitCounts
  · exact sound.turnIndices
  · exact Signed.fits sound.turnIndex _
  · exact Signed.fits sound.storySeed _
  · exact Signed.fits sound.previousRandom _

theorem parse_text {state : State} (sound : state.Sound) : parse state.text = .ok state := by
  have ordered : (Table.overlay [] state.entries).Ordered := Table.overlay_ordered Table.ordered_nil _
  have same (key : String) : (Table.overlay [] state.entries).find? key = state.entries.find? key := by
    rw [Table.find?_overlay _ (entries_distinct state), Table.find?, Option.or_none]
  have version : state.entries.find? stateVersions.key = some (.integer state.version) :=
    entries_found (by simp [entries, stateVersions])
  refine (parse_eq_ok _ _).mpr ⟨state.version, Table.overlay [] state.entries, ?_, ?_, sound.checked⟩
  · have members := parse_object sound.fits
    refine (stateVersions.read_eq_ok _ _ _).mpr ⟨members, ?_, sound.version⟩
    rw [same, version, Option.bind_some, signed?]
    exact if_pos sound.signed
  · exact (sound.reads same).ofMembers ordered.distinct

end State

end InkProject.Story
