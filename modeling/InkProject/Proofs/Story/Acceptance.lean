import InkProject.Proofs.Story.Saving
/- Which texts a story takes as its state, and with which kind of error it refuses the others. -/
set_option autoImplicit false

namespace InkProject.Story

open Json

namespace State

def IfThere (members : Table Json) (name : String) (form : Json → Prop) : Prop :=
  ∀ json, members.find? name = some json → form json

def IsNumber (json : Json) : Prop := ∃ value, json = .integer value ∧ Signed value

def IsList (json : Json) : Prop := ∃ items, json = .array items

def IsTable (json : Json) : Prop := ∃ table, json = .object table

def IsName (json : Json) : Prop := ∃ name, json = .string name

def IsFlow (json : Json) : Prop := ∃ parts : Table Json, json = .object parts ∧ parts.contains "callstack" = true

def IsFlows (json : Json) : Prop := ∃ flows : Table Json, json = .object flows ∧ ∀ entry ∈ flows, IsFlow entry.2

-- What is asked of every member for itself, and the call stack that one of two members has to give.
structure Shaped (members : Table Json) : Prop where
  values : ∃ values, members.find? "variablesState" = some (.object values)
  flows : IfThere members "flows" fun json => json = .null ∨ IsFlows json
  stack : ∃ json, json ≠ .null ∧ (members.find? "flows" = some json ∨ members.find? "callstackThreads" = some json)
  currentFlow : IfThere members "currentFlowName" fun json => json = .null ∨ IsName json
  evalStack : IfThere members "evalStack" IsList
  visitCounts : IfThere members "visitCounts" IsTable
  turnIndices : IfThere members "turnIndices" IsTable
  turnIndex : IfThere members "turnIdx" IsNumber
  storySeed : IfThere members "storySeed" IsNumber
  previousRandom : IfThere members "previousRandom" IsNumber

def KnownFlow (members : Table Json) : Prop := ∀ name (flows : Table Json),
  members.find? "currentFlowName" = some (.string name) → members.find? "flows" = some (.object flows) →
    flows.contains name = true

end State

def Declares (story : Story) (members : Table Json) : Prop := ∀ (values : Table Json) name,
  members.find? "variablesState" = some (.object values) → values.contains name = true → story.globals.contains name = true

namespace State

section

variable {α : Type} {name : String} {decoder : Decoder α} {members : Table Json}

theorem optional_taken (default : α) (taken : IfThere members name fun json => ∃ value, decoder json = .ok value) :
    ∃ value, optional name decoder default members = .ok value := by
  cases found : members.find? name with
  | none => exact ⟨default, optional_eq_ok.mpr (.inl ⟨found, rfl⟩)⟩
  | some json =>
    obtain ⟨value, decoded⟩ := taken json found
    exact ⟨value, optional_eq_ok.mpr (.inr ⟨json, found, decoded⟩)⟩

theorem optional_null_taken (taken : IfThere members name fun json => json = .null ∨ ∃ value, decoder json = .ok value) :
    ∃ shown, optional name (decodeOption decoder) none members = .ok shown := by
  refine optional_taken _ fun json found => ?_
  by_cases null : json = .null
  · exact ⟨none, (decodeOption_eq_ok _ _ _).mpr (.inl ⟨null, rfl⟩)⟩
  · obtain ⟨value, decoded⟩ := (taken json found).resolve_left null
    exact ⟨some value, (decodeOption_eq_ok _ _ _).mpr (.inr ⟨null, value, decoded, rfl⟩)⟩

theorem optional_form {form : Json → Prop} {default value : α} (read : optional name decoder default members = .ok value)
    (formed : ∀ json value, decoder json = .ok value → form json) : IfThere members name form := by
  intro json found
  rcases optional_eq_ok.mp read with ⟨absent, _⟩ | ⟨other, present, decoded⟩
  · rw [found] at absent
    cases absent
  · rw [found, Option.some.injEq] at present
    exact formed json value (present ▸ decoded)

theorem decodeOption_form {json : Json} {shown : Option α} (decoded : decodeOption decoder json = .ok shown) :
    json = .null ∨ ∃ value, decoder json = .ok value := by
  rcases (decodeOption_eq_ok _ _ _).mp decoded with ⟨null, _⟩ | ⟨_, value, inner, _⟩
  · exact .inl null
  · exact .inr ⟨value, inner⟩

end

theorem isFlow_iff (json : Json) : IsFlow json ↔ (Json.member? "callstack" json).isSome = true := by
  cases json <;> simp [IsFlow, member?, Table.contains]

section

variable {members : Table Json} {state : State}

structure Running (state : State) : Prop where
  flows : ∀ flows, state.flows = some flows → ∀ entry ∈ flows, IsFlow entry.2
  stack : state.flows = none → state.callstackThreads ≠ none

theorem Shaped.reads (shaped : Shaped members) (version : Int) : ∃ state, state.version = version ∧ Reads members state := by
  have numbers {name : String} (default : Int) (form : IfThere members name IsNumber) :
      ∃ value, optional name decodeSigned default members = .ok value := by
    refine optional_taken _ fun json found => ?_
    obtain ⟨value, same, signed⟩ := form json found
    exact ⟨value, (decodeSigned_eq_ok _ _).mpr ⟨same, signed⟩⟩
  have tables {name : String} (form : IfThere members name IsTable) :
      ∃ table, optional name decodeObject [] members = .ok table := by
    refine optional_taken _ fun json found => ?_
    obtain ⟨table, same⟩ := form json found
    exact ⟨table, (decodeObject_eq_ok _ _).mpr same⟩
  have lists : ∃ items, optional "evalStack" (decodeList .ok) [] members = .ok items := by
    refine optional_taken _ fun json found => ?_
    obtain ⟨items, same⟩ := shaped.evalStack json found
    exact ⟨items, (decodeList_eq_ok _ _).mpr same⟩
  obtain ⟨values, found⟩ := shaped.values
  obtain ⟨flows, readFlows⟩ := optional_null_taken fun json found =>
    (shaped.flows json found).imp_right fun ⟨flows, same, _⟩ => ⟨flows, (decodeObject_eq_ok _ _).mpr same⟩
  obtain ⟨current, readCurrent⟩ := optional_null_taken fun json found =>
    (shaped.currentFlow json found).imp_right fun ⟨name, same⟩ => ⟨name, (decodeString_eq_ok _ _).mpr same⟩
  obtain ⟨threads, readThreads⟩ : ∃ threads, optional "callstackThreads" (decodeOption .ok) none members = .ok threads :=
    optional_null_taken fun json _ => .inr ⟨json, rfl⟩
  obtain ⟨stack, readStack⟩ := lists
  obtain ⟨visits, readVisits⟩ := tables shaped.visitCounts
  obtain ⟨turns, readTurns⟩ := tables shaped.turnIndices
  obtain ⟨turn, readTurn⟩ := numbers (-1) shaped.turnIndex
  obtain ⟨seed, readSeed⟩ := numbers 0 shaped.storySeed
  obtain ⟨random, readRandom⟩ := numbers 0 shaped.previousRandom
  have readValues : required "variablesState" decodeObject members = .ok values :=
    required_eq_ok.mpr ⟨_, found, rfl⟩
  exact ⟨⟨version, flows, current, threads, values, stack, visits, turns, turn, seed, random⟩, rfl, readFlows, readCurrent,
    readThreads, readValues, readStack, readVisits, readTurns, readTurn, readSeed, readRandom⟩

theorem Reads.shaped_iff (reads : Reads members state) : Shaped members ↔ state.Running := by
  constructor
  · intro shaped
    constructor
    · intro flows present
      have found := (reads.flows_iff flows).mp present
      obtain absurd | ⟨again, same, each⟩ := shaped.flows _ found
      · cases absurd
      · cases same
        exact each
    · intro missing absent
      obtain ⟨json, filled, found | found⟩ := shaped.stack
      · obtain null | ⟨flows, rfl, _⟩ := shaped.flows _ found
        · exact filled null
        · rw [(reads.flows_iff flows).mpr found] at missing
          cases missing
      · rw [(reads.threads_iff json).mpr ⟨found, filled⟩] at absent
        cases absent
  · intro running
    have numbers {json : Json} {value : Int} (decoded : decodeSigned json = .ok value) : IsNumber json :=
      ⟨value, (decodeSigned_eq_ok _ _).mp decoded⟩
    have tables {json : Json} {table : Table Json} (decoded : decodeObject json = .ok table) : IsTable json :=
      ⟨table, (decodeObject_eq_ok _ _).mp decoded⟩
    constructor
    case values => exact ⟨_, (reads.values_iff _).mp rfl⟩
    case flows =>
      intro json found
      refine (optional_form reads.flows (fun _ _ => decodeOption_form) json found).imp_right fun ⟨flows, decoded⟩ => ?_
      have object := (decodeObject_eq_ok _ _).mp decoded
      exact ⟨flows, object, running.flows flows ((reads.flows_iff flows).mpr (object ▸ found))⟩
    case stack =>
      cases present : state.flows with
      | some flows => exact ⟨_, Json.noConfusion, .inl ((reads.flows_iff flows).mp present)⟩
      | none =>
        obtain ⟨threads, given⟩ := Option.ne_none_iff_exists'.mp (running.stack present)
        obtain ⟨found, filled⟩ := (reads.threads_iff threads).mp given
        exact ⟨threads, filled, .inr found⟩
    case currentFlow =>
      intro json found
      exact (optional_form reads.currentFlow (fun _ _ => decodeOption_form) json found).imp_right
        fun ⟨name, decoded⟩ => ⟨name, (decodeString_eq_ok _ _).mp decoded⟩
    case evalStack => exact optional_form reads.evalStack fun _ items decoded => ⟨items, (decodeList_eq_ok _ _).mp decoded⟩
    case visitCounts => exact optional_form reads.visitCounts fun _ _ => tables
    case turnIndices => exact optional_form reads.turnIndices fun _ _ => tables
    case turnIndex => exact optional_form reads.turnIndex fun _ _ => numbers
    case storySeed => exact optional_form reads.storySeed fun _ _ => numbers
    case previousRandom => exact optional_form reads.previousRandom fun _ _ => numbers

theorem Reads.knownFlow_iff (reads : Reads members state) : KnownFlow members ↔
    ∀ name flows, state.currentFlow = some name → state.flows = some flows → Table.contains flows name = true := by
  simp only [KnownFlow, reads.currentFlow_iff, reads.flows_iff]

theorem checkFlows_unsound (unsound : ¬ state.Running) : ∃ fault, state.checkFlows = .error (.malformed .state fault) := by
  rw [checkFlows]
  cases present : state.flows with
  | none =>
    cases given : state.callstackThreads with
    | none => exact ⟨_, rfl⟩
    | some threads =>
      refine absurd ⟨fun flows same => ?_, fun _ absent => ?_⟩ unsound
      · rw [present] at same
        cases same
      · rw [given] at absent
        cases absent
  | some flows =>
    dsimp only
    split
    · exact ⟨_, rfl⟩
    · rename_i each
      refine absurd ⟨fun other same entry member => ?_, fun missing => ?_⟩ unsound
      · obtain rfl := Option.some.inj (present.symm.trans same)
        rw [isFlow_iff, Option.isSome_iff_ne_none]
        simpa using List.find?_eq_none.mp each entry member
      · rw [present] at missing
        cases missing

theorem checkFlows_sound (running : state.Running) :
    (∃ name flows, state.currentFlow = some name ∧ state.flows = some flows ∧ flows.contains name = false ∧
      state.checkFlows = .error (.invariant (.unknownFlow name))) ∨
    (∀ name flows, state.currentFlow = some name → state.flows = some flows → Table.contains flows name = true) ∧
      state.checkFlows = .ok () := by
  rw [checkFlows]
  cases present : state.flows with
  | none =>
    obtain ⟨threads, given⟩ := Option.ne_none_iff_exists'.mp (running.stack present)
    rw [given]
    exact .inr ⟨fun _ _ _ same => (nomatch same), rfl⟩
  | some flows =>
    dsimp only
    split
    · rename_i unfit
      have stacked := (isFlow_iff _).mp (running.flows flows present _ (List.mem_of_find?_eq_some unfit))
      have bare := List.find?_some unfit
      rw [Option.isSome_iff_ne_none] at stacked
      exact absurd (Option.isNone_iff_eq_none.mp bare) stacked
    · cases chosen : state.currentFlow with
      | none => exact .inr ⟨fun _ _ same => (nomatch same), rfl⟩
      | some name =>
        dsimp only
        by_cases known : flows.contains name = true
        · rw [if_pos known]
          refine .inr ⟨fun other table same there => ?_, rfl⟩
          cases same
          cases there
          exact known
        · rw [if_neg known]
          exact .inl ⟨name, flows, rfl, rfl, Bool.eq_false_iff.mpr known, rfl⟩

end

end State

section

variable {text : String} {version : Int} {members : Table Json} {versions : Versions} {story : Story} {error : EngineError}

def Versions.Numbered (versions : Versions) (text : String) (members : Table Json) (version : Int) : Prop :=
  Json.parse text = .ok (.object members) ∧ members.find? versions.key = some (.integer version) ∧ Signed version

theorem number_iff : (Table.find? versions.key members).bind signed? = some version ↔
    members.find? versions.key = some (.integer version) ∧ Signed version := by
  rw [Option.bind_eq_some_iff]
  simp only [signed?_eq_some]
  exact ⟨fun ⟨_, found, same, signed⟩ => ⟨same ▸ found, signed⟩, fun both => ⟨_, both.1, rfl, both.2⟩⟩

theorem Versions.Numbered.same {other : Table Json} {number : Int} (numbered : versions.Numbered text members version)
    (again : versions.Numbered text other number) : other = members ∧ number = version := by
  obtain ⟨parsed, found, _⟩ := numbered
  obtain ⟨same, there, _⟩ := again
  rw [parsed, Except.ok.injEq, Json.object.injEq] at same
  subst same
  rw [found, Option.some.injEq, Json.integer.injEq] at there
  exact ⟨rfl, there.symm⟩

theorem Versions.Numbered.read (numbered : versions.Numbered text members version)
    (inside : versions.least ≤ version ∧ version ≤ versions.greatest) : versions.read text = .ok (version, members) :=
  (versions.read_eq_ok _ _ _).mpr ⟨numbered.1, number_iff.mpr numbered.2, inside⟩

theorem Versions.Numbered.read_unsupported (numbered : versions.Numbered text members version)
    (outside : ¬ (versions.least ≤ version ∧ version ≤ versions.greatest)) :
    versions.read text = .error (.unsupported versions.format version versions.least versions.greatest) := by
  rw [Versions.read, numbered.1]
  dsimp only
  rw [number_iff.mpr numbered.2]
  exact if_neg outside

theorem Versions.read_unnumbered (unnumbered : ∀ members version, ¬ versions.Numbered text members version) :
    ∃ fault, versions.read text = .error (.malformed versions.format fault) := by
  rw [Versions.read]
  cases parsed : Json.parse text with
  | error message => exact ⟨_, rfl⟩
  | ok json =>
    cases json with
    | object members =>
      dsimp only
      cases number : (Table.find? versions.key members).bind signed? with
      | none => exact ⟨_, rfl⟩
      | some version => exact absurd ⟨parsed, number_iff.mp number⟩ (unnumbered members version)
    | _ => exact ⟨_, rfl⟩

theorem Versions.read_cases (versions : Versions) (text : String) :
    (∃ fault, versions.read text = .error (.malformed versions.format fault)) ∨
    (∃ members version, versions.Numbered text members version ∧ ¬ (versions.least ≤ version ∧ version ≤ versions.greatest) ∧
      versions.read text = .error (.unsupported versions.format version versions.least versions.greatest)) ∨
    ∃ members version, versions.Numbered text members version ∧ versions.least ≤ version ∧ version ≤ versions.greatest := by
  by_cases numbered : ∃ members version, versions.Numbered text members version
  case neg => exact .inl (Versions.read_unnumbered fun members version found => numbered ⟨members, version, found⟩)
  obtain ⟨members, version, numbered⟩ := numbered
  by_cases inside : versions.least ≤ version ∧ version ≤ versions.greatest
  · exact .inr (.inr ⟨members, version, numbered, inside⟩)
  · exact .inr (.inl ⟨members, version, numbered, inside, numbered.read_unsupported inside⟩)

theorem State.parse_unread (failed : stateVersions.read text = .error error) : State.parse text = .error error := by
  rw [State.parse, failed]
  rfl

theorem State.parse_members (read : stateVersions.read text = .ok (version, members)) : State.parse text =
    (do let state ← stateVersions.shaped (ofMembers version members); state.checkFlows; return state) := by
  rw [State.parse, read]
  rfl

theorem State.parse_unshaped (read : stateVersions.read text = .ok (version, members)) (unshaped : ¬ Shaped members) :
    ∃ fault, State.parse text = .error (.malformed .state fault) := by
  rw [parse_members read]
  cases made : ofMembers version members with
  | error mismatch => exact ⟨_, rfl⟩
  | ok state =>
    obtain ⟨_, reads⟩ := ofMembers_reads made
    obtain ⟨fault, failed⟩ := checkFlows_unsound (mt reads.shaped_iff.mpr unshaped)
    refine ⟨fault, ?_⟩
    show (do state.checkFlows; return state) = _
    rw [failed]
    rfl

theorem State.parse_shaped (read : stateVersions.read text = .ok (version, members)) (shaped : Shaped members) :
    (∃ name flows, members.find? "currentFlowName" = some (.string name) ∧ members.find? "flows" = some (.object flows) ∧
      Table.contains flows name = false ∧ State.parse text = .error (.invariant (.unknownFlow name))) ∨
    KnownFlow members ∧ ∃ state, Reads members state ∧ State.parse text = .ok state := by
  obtain ⟨parsed, _⟩ := (stateVersions.read_eq_ok _ _ _).mp read
  obtain ⟨state, rfl, reads⟩ := shaped.reads version
  have run : State.parse text = (do state.checkFlows; return state) := by
    rw [parse_members read, reads.ofMembers (parse_object_ordered parsed).distinct]
    rfl
  rcases checkFlows_sound (reads.shaped_iff.mp shaped) with ⟨name, flows, chosen, there, unknown, failed⟩ | ⟨known, checked⟩
  · refine .inl ⟨name, flows, (reads.currentFlow_iff _).mp chosen, (reads.flows_iff _).mp there, unknown, ?_⟩
    rw [run, failed]
    rfl
  · refine .inr ⟨reads.knownFlow_iff.mpr known, state, reads, ?_⟩
    rw [run, checked]
    rfl

theorem load_refused (failed : State.parse text = .error error) : story.load text = .error error := by
  rw [load, failed]
  rfl

theorem declares_iff_reads {state : State} (reads : State.Reads members state) : story.Declares members ↔
    ∀ name, state.values.contains name = true → story.globals.contains name = true := by
  have found := (reads.values_iff _).mp rfl
  constructor
  · intro declares name
    exact declares _ name found
  · intro declares values name same
    rw [found, Option.some.injEq, Json.object.injEq] at same
    exact same ▸ declares name

theorem load_undeclared {state : State} (parsed : State.parse text = .ok state) (reads : State.Reads members state)
    (undeclared : ¬ story.Declares members) : ∃ name values, members.find? "variablesState" = some (.object values) ∧
      Table.contains values name = true ∧ story.globals.contains name = false ∧
      story.load text = .error (.invariant (.neverDeclared name)) := by
  rw [declares_iff_reads reads, ← undeclared?_eq_none] at undeclared
  obtain ⟨name, first⟩ := Option.ne_none_iff_exists'.mp undeclared
  rw [load, parsed, ok_bind, first]
  rw [undeclared?] at first
  refine ⟨name, _, (reads.values_iff _).mp rfl, (Table.contains_iff _ _).mpr (List.mem_of_find?_eq_some first), ?_, rfl⟩
  simpa using List.find?_some first

end

-- The answer to members of a supported version: their conditions are looked at in turn, each only where those before
-- it hold.
inductive Answered (story : Story) (members : Table Json) : Except EngineError Story → Prop where
  | unshaped {fault : SyntaxFault} (unshaped : ¬ State.Shaped members) :
    Answered story members (.error (.malformed .state fault))
  | unknownFlow {flows : Table Json} {name : String} (shaped : State.Shaped members)
    (chosen : members.find? "currentFlowName" = some (.string name)) (among : members.find? "flows" = some (.object flows))
    (unknown : flows.contains name = false) : Answered story members (.error (.invariant (.unknownFlow name)))
  | undeclared {values : Table Json} {name : String} (shaped : State.Shaped members) (known : State.KnownFlow members)
    (given : members.find? "variablesState" = some (.object values)) (set : values.contains name = true)
    (undeclared : story.globals.contains name = false) :
    Answered story members (.error (.invariant (.neverDeclared name)))
  | taken {loaded : Story} (shaped : State.Shaped members) (known : State.KnownFlow members)
    (declares : story.Declares members) : Answered story members (.ok loaded)

section

variable {story : Story} {text : String} {members : Table Json} {version : Int} {answer : Except EngineError Story}

theorem load_answered (story : Story) (numbered : stateVersions.Numbered text members version)
    (inside : 8 ≤ version ∧ version ≤ 10) : Answered story members (story.load text) := by
  have read := numbered.read inside
  by_cases shaped : State.Shaped members
  case neg =>
    obtain ⟨fault, failed⟩ := State.parse_unshaped read shaped
    rw [load_refused failed]
    exact .unshaped shaped
  rcases State.parse_shaped read shaped with ⟨name, flows, chosen, among, unknown, failed⟩ | ⟨known, state, reads, parsed⟩
  · rw [load_refused failed]
    exact .unknownFlow shaped chosen among unknown
  by_cases declares : story.Declares members
  · rw [load_eq_ok.mpr ⟨state, parsed, (declares_iff_reads reads).mp declares, rfl⟩]
    exact .taken shaped known declares
  · obtain ⟨name, values, given, set, undeclared, failed⟩ := load_undeclared parsed reads declares
    rw [failed]
    exact .undeclared shaped known given set undeclared

theorem load_cases (story : Story) (text : String) :
    (∃ fault, story.load text = .error (.malformed .state fault)) ∨
    (∃ members version, stateVersions.Numbered text members version ∧ ¬ (8 ≤ version ∧ version ≤ 10) ∧
      story.load text = .error (.unsupported .state version 8 10)) ∨
    ∃ members version, stateVersions.Numbered text members version ∧ (8 ≤ version ∧ version ≤ 10) ∧
      Answered story members (story.load text) := by
  rcases stateVersions.read_cases text with ⟨fault, failed⟩ | ⟨members, version, numbered, outside, failed⟩ |
    ⟨members, version, numbered, inside⟩
  · exact .inl ⟨fault, load_refused (State.parse_unread failed)⟩
  · exact .inr (.inl ⟨members, version, numbered, outside, load_refused (State.parse_unread failed)⟩)
  · exact .inr (.inr ⟨members, version, numbered, inside, load_answered story numbered inside⟩)

theorem answered_of_load (done : story.load text = answer) (formed : ∀ fault, answer ≠ .error (.malformed .state fault))
    (supported : ∀ version, answer ≠ .error (.unsupported .state version 8 10)) : ∃ members version,
    stateVersions.Numbered text members version ∧ (8 ≤ version ∧ version ≤ 10) ∧ Answered story members answer := by
  rcases load_cases story text with ⟨fault, failed⟩ | ⟨_, version, _, _, failed⟩ | found
  · exact absurd (done.symm.trans failed) (formed fault)
  · exact absurd (done.symm.trans failed) (supported version)
  · exact done ▸ found

theorem Answered.taken_iff (answered : Answered story members answer) : (∃ loaded, answer = .ok loaded) ↔
    State.Shaped members ∧ State.KnownFlow members ∧ story.Declares members := by
  cases answered with
  | unshaped unshaped => simp [unshaped]
  | unknownFlow shaped chosen among unknown =>
    have unknown : ¬ State.KnownFlow members := fun known => by simp [known _ _ chosen among] at unknown
    simp [unknown]
  | undeclared shaped known given set undeclared =>
    have undeclared : ¬ story.Declares members := fun declares => by simp [declares _ _ given set] at undeclared
    simp [undeclared]
  | taken shaped known declares => simp [shaped, known, declares]

theorem Answered.invariant_iff (answered : Answered story members answer) : (∃ fault, answer = .error (.invariant fault)) ↔
    State.Shaped members ∧ ¬ (State.KnownFlow members ∧ story.Declares members) := by
  cases answered with
  | unshaped unshaped => simp [unshaped]
  | unknownFlow shaped chosen among unknown =>
    have unknown : ¬ State.KnownFlow members := fun known => by simp [known _ _ chosen among] at unknown
    simp [shaped, unknown]
  | undeclared shaped known given set undeclared =>
    have undeclared : ¬ story.Declares members := fun declares => by simp [declares _ _ given set] at undeclared
    simp [shaped, undeclared]
  | taken shaped known declares => simp [known, declares]

end

structure Acceptance (story : Story) (text : String) : Prop where
  taken : (∃ loaded, story.load text = .ok loaded) ↔ ∃ members version, stateVersions.Numbered text members version ∧
    (8 ≤ version ∧ version ≤ 10) ∧ State.Shaped members ∧ State.KnownFlow members ∧ story.Declares members
  unsupported : ∀ version, story.load text = .error (.unsupported .state version 8 10) ↔
    ∃ members, stateVersions.Numbered text members version ∧ ¬ (8 ≤ version ∧ version ≤ 10)
  invariant : (∃ fault, story.load text = .error (.invariant fault)) ↔ ∃ members version,
    stateVersions.Numbered text members version ∧ (8 ≤ version ∧ version ≤ 10) ∧ State.Shaped members ∧
      ¬ (State.KnownFlow members ∧ story.Declares members)
  unknownFlow : ∀ name, story.load text = .error (.invariant (.unknownFlow name)) → ∃ members version flows,
    stateVersions.Numbered text members version ∧ members.find? "currentFlowName" = some (.string name) ∧
      members.find? "flows" = some (.object flows) ∧ Table.contains flows name = false
  undeclared : ∀ name, story.load text = .error (.invariant (.neverDeclared name)) → ∃ members version values,
    stateVersions.Numbered text members version ∧ State.KnownFlow members ∧
      members.find? "variablesState" = some (.object values) ∧ Table.contains values name = true ∧
      story.globals.contains name = false
  others : ∀ error, story.load text = .error error → (∃ version, error = .unsupported .state version 8 10) ∨
    (∃ fault, error = .invariant fault) ∨ ∃ fault, error = .malformed .state fault

theorem load_acceptance (story : Story) (text : String) : Acceptance story text := by
  constructor
  case taken =>
    constructor
    · intro done
      obtain ⟨loaded, done⟩ := done
      obtain ⟨members, version, numbered, inside, answered⟩ := answered_of_load done nofun nofun
      exact ⟨members, version, numbered, inside, answered.taken_iff.mp ⟨loaded, rfl⟩⟩
    · intro holds
      obtain ⟨members, version, numbered, inside, agrees⟩ := holds
      exact (load_answered story numbered inside).taken_iff.mpr agrees
  case unsupported =>
    intro version
    constructor
    · intro failed
      rcases load_cases story text with ⟨_, other⟩ | ⟨members, number, numbered, outside, other⟩ | ⟨_, _, _, _, answered⟩
      · cases failed.symm.trans other
      · cases failed.symm.trans other
        exact ⟨members, numbered, outside⟩
      · rw [failed] at answered
        cases answered
    · intro holds
      obtain ⟨members, numbered, outside⟩ := holds
      exact load_refused (State.parse_unread (numbered.read_unsupported outside))
  case invariant =>
    constructor
    · intro failed
      obtain ⟨fault, failed⟩ := failed
      obtain ⟨members, version, numbered, inside, answered⟩ := answered_of_load failed nofun nofun
      exact ⟨members, version, numbered, inside, answered.invariant_iff.mp ⟨fault, rfl⟩⟩
    · intro holds
      obtain ⟨members, version, numbered, inside, disagrees⟩ := holds
      exact (load_answered story numbered inside).invariant_iff.mpr disagrees
  case unknownFlow =>
    intro name failed
    obtain ⟨members, version, numbered, inside, answered⟩ := answered_of_load failed nofun nofun
    cases answered with
    | unknownFlow shaped chosen among unknown => exact ⟨members, version, _, numbered, chosen, among, unknown⟩
  case undeclared =>
    intro name failed
    obtain ⟨members, version, numbered, inside, answered⟩ := answered_of_load failed nofun nofun
    cases answered with
    | undeclared shaped known given set undeclared =>
      exact ⟨members, version, _, numbered, known, given, set, undeclared⟩
  case others =>
    intro error failed
    rcases load_cases story text with ⟨fault, other⟩ | ⟨_, version, _, _, other⟩ | ⟨_, _, _, _, answered⟩
    · cases failed.symm.trans other
      exact .inr (.inr ⟨fault, rfl⟩)
    · cases failed.symm.trans other
      exact .inl ⟨version, rfl⟩
    · rw [failed] at answered
      cases answered with
      | unshaped _ => exact .inr (.inr ⟨_, rfl⟩)
      | unknownFlow _ _ _ _ => exact .inr (.inl ⟨_, rfl⟩)
      | undeclared _ _ _ _ _ => exact .inr (.inl ⟨_, rfl⟩)

-- A state of the oldest version, one of the newest, and one whose current flow is none of its flows.
example : ["\x7b\"inkSaveVersion\":8,\"callstackThreads\":\x7b\x7d,\"variablesState\":\x7b\"health\":3\x7d\x7d",
      "\x7b\"inkSaveVersion\":10,\"flows\":\x7b\"A\":\x7b\"callstack\":\x7b\x7d\x7d\x7d,\"currentFlowName\":\"A\",\"variablesState\":\x7b\x7d\x7d",
      "\x7b\"inkSaveVersion\":9,\"flows\":\x7b\x7d,\"currentFlowName\":\"B\",\"variablesState\":\x7b\x7d\x7d"].map
      (fun text => ((Story.mk [("health", .integer 5)] (.initial [("health", .integer 5)])).load text).map fun story => story.state.version) =
    [.ok 8, .ok 10, .error (.invariant (.unknownFlow "B"))] := by decide +kernel

end InkProject.Story
