import InkProject.Proofs.Story.Acceptance
import InkProject.Proofs.Story.Declarations
set_option autoImplicit false

namespace InkProject.Story

open Json State

def Declaration (item : Json) (name : String) : Prop :=
  ∃ members : Table Json, item = .object members ∧ members.find? "VAR=" = some (.string name) ∧ members.find? "re" = none

def DeclaredIn (items : List Json) (name : String) : Prop := ∃ item ∈ items, Declaration item name

def DeclaredOnce (items : List Json) : Prop :=
  items.Pairwise fun first second => ∀ name, Declaration first name → ¬ Declaration second name

def Repeats (items : List Json) (name : String) : Prop :=
  ∃ earlier item later, items = earlier ++ item :: later ∧ DeclaredIn earlier name ∧ Declaration item name

section

variable {item : Json} {items before rest : List Json} {globals declared : Table Json} {name : String}
  {error : EngineError}

theorem declaredName?_eq_some : declaredName? item = some name ↔ Declaration item name := by
  have named (json : Json) : json.string? = some name ↔ json = .string name := by cases json <;> simp [string?]
  cases item with
  | object members =>
    cases mark : Table.find? "re" members with
    | some json => simp [declaredName?, Declaration, member?, mark]
    | none => simp [declaredName?, Declaration, member?, mark, Option.bind_eq_some_iff, named]
  | _ => simp [declaredName?, Declaration, member?]

theorem declaredIn_cons : DeclaredIn (item :: items) name ↔ Declaration item name ∨ DeclaredIn items name :=
  List.exists_mem_cons_iff _ _ _

theorem declaredOnce_cons : DeclaredOnce (item :: items) ↔
    (∀ name, Declaration item name → ¬ DeclaredIn items name) ∧ DeclaredOnce items := by
  rw [DeclaredOnce, List.pairwise_cons]
  refine and_congr_left fun _ => ⟨fun apart name mine among => ?_, fun apart other member name mine again => ?_⟩
  · obtain ⟨other, member, again⟩ := among
    exact apart other member name mine again
  · exact apart name mine ⟨other, member, again⟩

theorem Repeats.not_once (repeats : Repeats items name) : ¬ DeclaredOnce items := by
  obtain ⟨earlier, item, later, rfl, ⟨other, member, first⟩, second⟩ := repeats
  intro once
  exact (List.pairwise_append.mp once).2.2 other member item List.mem_cons_self name first second

theorem declareFrom_named (named : declaredName? item = some name) : declareFrom before globals (item :: rest) =
    if globals.contains name then .error (.invariant (.declaredTwice name))
    else declareFrom (item :: before) (globals.insert name (literal before)) rest := by
  rw [declareFrom, named]

structure Taken (globals : Table Json) (items : List Json) (declared : Table Json) : Prop where
  once : DeclaredOnce items
  fresh : ∀ name, DeclaredIn items name → globals.contains name = false
  names : ∀ name, declared.contains name = true ↔ globals.contains name = true ∨ DeclaredIn items name

theorem Taken.skip (nameless : declaredName? item = none) (taken : Taken globals items declared) :
    Taken globals (item :: items) declared := by
  have silent (name : String) : ¬ Declaration item name := by
    rw [← declaredName?_eq_some, nameless]
    exact nofun
  have same (name : String) : DeclaredIn (item :: items) name ↔ DeclaredIn items name :=
    declaredIn_cons.trans (or_iff_right (silent name))
  constructor
  case once => exact declaredOnce_cons.mpr ⟨fun name mine => absurd mine (silent name), taken.once⟩
  case fresh => exact fun name among => taken.fresh name ((same name).mp among)
  case names => exact fun name => (taken.names name).trans (or_congr_right (same name).symm)

theorem Taken.declare {value : Json} (named : declaredName? item = some name) (free : globals.contains name = false)
    (taken : Taken (globals.insert name value) items declared) : Taken globals (item :: items) declared := by
  have mine (other : String) : Declaration item other ↔ other = name := by
    rw [← declaredName?_eq_some, named, Option.some.injEq, eq_comm]
  have inserted := Table.contains_insert name value globals
  constructor
  case once =>
    refine declaredOnce_cons.mpr ⟨fun other declares among => ?_, taken.once⟩
    have fresh := taken.fresh other among
    rw [(inserted other).mpr (.inl ((mine other).mp declares))] at fresh
    cases fresh
  case fresh =>
    intro other among
    rcases declaredIn_cons.mp among with declares | later
    · rwa [(mine other).mp declares]
    · have fresh := taken.fresh other later
      rw [← Bool.not_eq_true, inserted, not_or] at fresh
      exact Bool.eq_false_iff.mpr fresh.2
  case names =>
    intro other
    rw [taken.names, inserted, declaredIn_cons, mine]
    tauto

theorem declareFrom_taken (done : declareFrom before globals items = .ok declared) : Taken globals items declared := by
  induction items generalizing before globals with
  | nil =>
    cases done
    exact ⟨.nil, fun name among => by simp [DeclaredIn] at among, fun name => by simp [DeclaredIn]⟩
  | cons item items ih =>
    cases named : declaredName? item with
    | none =>
      rw [declareFrom_skip named] at done
      exact (ih done).skip named
    | some name =>
      rw [declareFrom_named named] at done
      split at done
      · cases done
      · rename_i free
        exact (ih done).declare named (Bool.eq_false_iff.mpr free)

theorem declareFrom_failed (failed : declareFrom before globals items = .error error) : ∃ earlier item later name,
    items = earlier ++ item :: later ∧ (globals.contains name = true ∨ DeclaredIn earlier name) ∧ Declaration item name ∧
      error = .invariant (.declaredTwice name) := by
  induction items generalizing before globals with
  | nil => cases failed
  | cons first items ih =>
    cases named : declaredName? first with
    | none =>
      rw [declareFrom_skip named] at failed
      obtain ⟨earlier, item, later, name, rfl, known, declares, same⟩ := ih failed
      exact ⟨first :: earlier, item, later, name, rfl, known.imp_right fun among => declaredIn_cons.mpr (.inr among),
        declares, same⟩
    | some other =>
      rw [declareFrom_named named] at failed
      split at failed
      · rename_i known
        cases failed
        exact ⟨[], first, items, other, rfl, .inl known, declaredName?_eq_some.mp named, rfl⟩
      · obtain ⟨earlier, item, later, name, rfl, known, declares, same⟩ := ih failed
        refine ⟨first :: earlier, item, later, name, rfl, ?_, declares, same⟩
        rw [Table.contains_insert] at known
        rcases known with (rfl | before) | among
        · exact .inr (declaredIn_cons.mpr (.inl (declaredName?_eq_some.mp named)))
        · exact .inl before
        · exact .inr (declaredIn_cons.mpr (.inr among))

theorem declareFrom_repeats (failed : declareFrom [] [] items = .error error) :
    ∃ name, Repeats items name ∧ error = .invariant (.declaredTwice name) := by
  obtain ⟨earlier, item, later, name, split, known, declares, same⟩ := declareFrom_failed failed
  have among : DeclaredIn earlier name := known.resolve_left (by simp [Table.contains, Table.find?])
  exact ⟨name, ⟨earlier, item, later, split, among, declares⟩, same⟩

end

structure Formed (members : Table Json) : Prop where
  root : ∃ items, members.find? "root" = some (.array items)
  lists : IfThere members "listDefs" fun json => json = .null ∨ IsTable json
  declarations : ∀ root (last : Table Json), members.find? "root" = some (.array root) →
    root.getLast? = some (.object last) → IfThere last declarationsKey IsList

def Listed (members : Table Json) (items : List Json) : Prop := ∃ root, ∃ last : Table Json,
  members.find? "root" = some (.array root) ∧ root.getLast? = some (.object last) ∧
    last.find? declarationsKey = some (.array items)

section

variable {members : Table Json} {root items : List Json} {shown : Compiled} {text : String} {version : Int}
  {story : Story} {answer : Except EngineError Story} {error : EngineError}

theorem declarations?_eq_some {json : Json} : declarations? root = some json ↔
    ∃ last : Table Json, root.getLast? = some (.object last) ∧ last.find? declarationsKey = some json := by
  have member (last : Json) : member? declarationsKey last = some json ↔
      ∃ table : Table Json, last = .object table ∧ table.find? declarationsKey = some json := by
    cases last <;> simp [member?]
  rw [declarations?, Option.bind_eq_some_iff]
  simp only [member]
  constructor
  · intro found
    obtain ⟨_, last, table, rfl, held⟩ := found
    exact ⟨table, last, held⟩
  · intro found
    obtain ⟨table, last, held⟩ := found
    exact ⟨_, last, table, rfl, held⟩

theorem listed_iff (found : members.find? "root" = some (.array root)) :
    Listed members items ↔ declarations? root = some (.array items) := by
  rw [declarations?_eq_some]
  constructor
  · intro listed
    obtain ⟨other, last, there, ends, held⟩ := listed
    rw [found, Option.some.injEq, Json.array.injEq] at there
    exact ⟨last, there ▸ ends, held⟩
  · intro placed
    obtain ⟨last, ends, held⟩ := placed
    exact ⟨root, last, found, ends, held⟩

theorem Formed.compiled (formed : Formed members) (distinct : members.keys.Nodup) :
    ∃ compiled, compiledOf members = .ok compiled := by
  obtain ⟨root, found⟩ := formed.root
  have rooted : required "root" (decodeList .ok) members = .ok root :=
    required_eq_ok.mpr ⟨_, found, (decodeList_eq_ok _ _).mpr rfl⟩
  obtain ⟨lists, listed⟩ : ∃ lists, optional "listDefs" (decodeOption decodeObject) none members = .ok lists :=
    optional_null_taken fun json there =>
      (formed.lists json there).imp_right fun ⟨table, same⟩ => ⟨table, (decodeObject_eq_ok _ _).mpr same⟩
  have passed : ∀ field ∈ fields, field.Passed members := by
    simp only [fields, List.forall_mem_cons, List.not_mem_nil, false_imp_iff, implies_true, and_true]
    exact ⟨required_passed rooted _, optional_passed listed _⟩
  have there : ∀ field ∈ fields, field.required = true → members.contains field.name = true := by
    simp [fields, field, Table.contains, found]
  refine ⟨⟨root, lists⟩, ?_⟩
  rw [compiledOf, decodeMembers_passed distinct passed there, ok_bind, rooted, ok_bind, listed]
  rfl

theorem formed_iff (made : compiledOf members = .ok shown) :
    Formed members ↔ ∀ json, declarations? shown.root = some json → IsList json := by
  obtain ⟨found, lists⟩ := compiledOf_root made
  constructor
  · intro formed json placed
    obtain ⟨last, ends, held⟩ := declarations?_eq_some.mp placed
    exact formed.declarations shown.root last found ends json held
  · intro listed
    constructor
    case root => exact ⟨shown.root, found⟩
    case lists =>
      intro json there
      exact (optional_form lists (fun _ _ => decodeOption_form) json there).imp_right
        fun ⟨table, decoded⟩ => ⟨table, (decodeObject_eq_ok _ _).mp decoded⟩
    case declarations =>
      intro root last there ends json held
      rw [found, Option.some.injEq, Json.array.injEq] at there
      exact listed json (declarations?_eq_some.mpr ⟨last, there ▸ ends, held⟩)

theorem declaredGlobals_unlisted (unlisted : ∀ items, declarations? root ≠ some (.array items)) :
    declarations? root = none ∧ declaredGlobals root = .ok [] ∨ (∃ json, declarations? root = some json ∧ ¬ IsList json) ∧
      declaredGlobals root = .error (.malformed .story .declarationsNotArray) := by
  rw [declaredGlobals]
  cases placed : declarations? root with
  | none => exact .inl ⟨rfl, rfl⟩
  | some json =>
    have other : ¬ IsList json := by
      rintro ⟨items, rfl⟩
      exact unlisted items placed
    refine .inr ⟨⟨json, rfl, other⟩, ?_⟩
    cases json with
    | array items => exact absurd ⟨items, rfl⟩ other
    | _ => rfl

theorem parse_unread (failed : storyVersions.read text = .error error) : Story.parse text = .error error := by
  rw [Story.parse, Story.read, failed]
  rfl

theorem parse_unshaped {mismatch : Shape.Mismatch} (read : storyVersions.read text = .ok (version, members))
    (made : compiledOf members = .error mismatch) : Story.parse text = .error (.malformed .story (.shape mismatch)) := by
  rw [Story.parse, Story.read, read, ok_bind]
  dsimp only
  rw [made]
  rfl

theorem parse_taken {globals : Table Json} (read : storyVersions.read text = .ok (version, members))
    (made : compiledOf members = .ok shown) (done : declaredGlobals shown.root = .ok globals) :
    Story.parse text = .ok ⟨globals, .initial globals⟩ := by
  rw [Story.parse, Story.read, read, ok_bind]
  dsimp only
  rw [made]
  show Prod.fst <$> (declaredGlobals shown.root >>= _) = _
  rw [done]
  rfl

end

-- The answer to members of a supported version: first the form of the members, then the names that are declared.
inductive Parsed (members : Table Json) : Except EngineError Story → Prop where
  | unformed {fault : SyntaxFault} (unformed : ¬ Formed members) : Parsed members (.error (.malformed .story fault))
  | repeated {items : List Json} {name : String} (formed : Formed members) (listed : Listed members items)
    (repeats : Repeats items name) : Parsed members (.error (.invariant (.declaredTwice name)))
  | taken {story : Story} (formed : Formed members) (once : ∀ items, Listed members items → DeclaredOnce items)
    (names : ∀ name, story.globals.contains name = true ↔ ∃ items, Listed members items ∧ DeclaredIn items name) :
    Parsed members (.ok story)

section

variable {members : Table Json} {text : String} {version : Int} {answer : Except EngineError Story}

theorem parse_parsed (numbered : storyVersions.Numbered text members version) (inside : 18 ≤ version ∧ version ≤ 21) :
    Parsed members (Story.parse text) := by
  have read := numbered.read inside
  cases made : compiledOf members with
  | error mismatch =>
    rw [parse_unshaped read made]
    refine .unformed fun formed => ?_
    obtain ⟨shown, done⟩ := formed.compiled (parse_object_ordered numbered.1).distinct
    rw [made] at done
    cases done
  | ok shown =>
    have listed {items : List Json} := @listed_iff members shown.root items (compiledOf_root made).1
    by_cases placed : ∃ items, declarations? shown.root = some (.array items)
    · obtain ⟨items, placed⟩ := placed
      have formed : Formed members := (formed_iff made).mpr fun json there =>
        ⟨items, Option.some.inj (there.symm.trans placed)⟩
      have only {other : List Json} : Listed members other ↔ other = items := by
        rw [listed, placed, Option.some.injEq, Json.array.injEq, eq_comm]
      have globals : declaredGlobals shown.root = declareFrom [] [] items := by rw [declaredGlobals, placed]
      cases run : declareFrom [] [] items with
      | error error =>
        obtain ⟨name, repeats, rfl⟩ := declareFrom_repeats run
        rw [parse_refused read made (globals.trans run)]
        exact .repeated formed (only.mpr rfl) repeats
      | ok declared =>
        have taken := declareFrom_taken run
        rw [parse_taken read made (globals.trans run)]
        refine .taken formed (fun other there => only.mp there ▸ taken.once) fun name => ?_
        show declared.contains name = true ↔ _
        rw [taken.names]
        simp [only, Table.contains, Table.find?]
    · have placed := not_exists.mp placed
      have unlisted (items : List Json) : ¬ Listed members items := fun there => placed items (listed.mp there)
      rcases declaredGlobals_unlisted placed with ⟨bare, done⟩ | ⟨⟨json, there, other⟩, failed⟩
      · rw [parse_taken read made done]
        have formed : Formed members := (formed_iff made).mpr fun json there => by simp [bare] at there
        exact .taken formed (fun items there => absurd there (unlisted items)) fun name => by
          simp [unlisted, Table.contains, Table.find?]
      · rw [parse_refused read made failed]
        exact .unformed fun formed => other ((formed_iff made).mp formed json there)

theorem parse_cases (text : String) :
    (∃ fault, Story.parse text = .error (.malformed .story fault)) ∨
    (∃ members version, storyVersions.Numbered text members version ∧ ¬ (18 ≤ version ∧ version ≤ 21) ∧
      Story.parse text = .error (.unsupported .story version 18 21)) ∨
    ∃ members version, storyVersions.Numbered text members version ∧ (18 ≤ version ∧ version ≤ 21) ∧
      Parsed members (Story.parse text) := by
  rcases storyVersions.read_cases text with ⟨fault, failed⟩ | ⟨members, version, numbered, outside, failed⟩ |
    ⟨members, version, numbered, inside⟩
  · exact .inl ⟨fault, parse_unread failed⟩
  · exact .inr (.inl ⟨members, version, numbered, outside, parse_unread failed⟩)
  · exact .inr (.inr ⟨members, version, numbered, inside, parse_parsed numbered inside⟩)

theorem parsed_of_parse (done : Story.parse text = answer) (formed : ∀ fault, answer ≠ .error (.malformed .story fault))
    (supported : ∀ version, answer ≠ .error (.unsupported .story version 18 21)) : ∃ members version,
    storyVersions.Numbered text members version ∧ (18 ≤ version ∧ version ≤ 21) ∧ Parsed members answer := by
  rcases parse_cases text with ⟨fault, failed⟩ | ⟨_, version, _, _, failed⟩ | found
  · exact absurd (done.symm.trans failed) (formed fault)
  · exact absurd (done.symm.trans failed) (supported version)
  · exact done ▸ found

theorem Parsed.taken_iff (parsed : Parsed members answer) : (∃ story, answer = .ok story) ↔
    Formed members ∧ ∀ items, Listed members items → DeclaredOnce items := by
  cases parsed with
  | unformed unformed => simp [unformed]
  | repeated formed listed repeats =>
    refine ⟨nofun, fun both => ?_⟩
    exact absurd (both.2 _ listed) repeats.not_once
  | taken formed once names => exact ⟨fun _ => ⟨formed, once⟩, fun _ => ⟨_, rfl⟩⟩

theorem Parsed.invariant_iff (parsed : Parsed members answer) : (∃ fault, answer = .error (.invariant fault)) ↔
    Formed members ∧ ∃ items, Listed members items ∧ ¬ DeclaredOnce items := by
  cases parsed with
  | unformed unformed => simp [unformed]
  | repeated formed listed repeats => exact ⟨fun _ => ⟨formed, _, listed, repeats.not_once⟩, fun _ => ⟨_, rfl⟩⟩
  | taken formed once names =>
    refine ⟨nofun, fun both => ?_⟩
    obtain ⟨_, items, listed, repeated⟩ := both
    exact absurd (once items listed) repeated

end

structure Recognition (text : String) : Prop where
  taken : (∃ story, Story.parse text = .ok story) ↔ ∃ members version, storyVersions.Numbered text members version ∧
    (18 ≤ version ∧ version ≤ 21) ∧ Formed members ∧ ∀ items, Listed members items → DeclaredOnce items
  unsupported : ∀ version, Story.parse text = .error (.unsupported .story version 18 21) ↔
    ∃ members, storyVersions.Numbered text members version ∧ ¬ (18 ≤ version ∧ version ≤ 21)
  invariant : (∃ fault, Story.parse text = .error (.invariant fault)) ↔ ∃ members version,
    storyVersions.Numbered text members version ∧ (18 ≤ version ∧ version ≤ 21) ∧ Formed members ∧
      ∃ items, Listed members items ∧ ¬ DeclaredOnce items
  repeated : ∀ fault, Story.parse text = .error (.invariant fault) → ∃ members version items name,
    storyVersions.Numbered text members version ∧ Listed members items ∧ Repeats items name ∧ fault = .declaredTwice name
  others : ∀ error, Story.parse text = .error error → (∃ version, error = .unsupported .story version 18 21) ∨
    (∃ fault, error = .invariant fault) ∨ ∃ fault, error = .malformed .story fault
  globals : ∀ story, Story.parse text = .ok story → ∃ members version, storyVersions.Numbered text members version ∧
    ∀ name, story.globals.contains name = true ↔ ∃ items, Listed members items ∧ DeclaredIn items name

theorem parse_acceptance (text : String) : Recognition text := by
  constructor
  case taken =>
    constructor
    · intro done
      obtain ⟨story, done⟩ := done
      obtain ⟨members, version, numbered, inside, parsed⟩ := parsed_of_parse done nofun nofun
      exact ⟨members, version, numbered, inside, parsed.taken_iff.mp ⟨story, rfl⟩⟩
    · intro holds
      obtain ⟨members, version, numbered, inside, agrees⟩ := holds
      exact (parse_parsed numbered inside).taken_iff.mpr agrees
  case unsupported =>
    intro version
    constructor
    · intro failed
      rcases parse_cases text with ⟨_, other⟩ | ⟨members, number, numbered, outside, other⟩ | ⟨_, _, _, _, parsed⟩
      · cases failed.symm.trans other
      · cases failed.symm.trans other
        exact ⟨members, numbered, outside⟩
      · rw [failed] at parsed
        cases parsed
    · intro holds
      obtain ⟨members, numbered, outside⟩ := holds
      exact parse_unread (numbered.read_unsupported outside)
  case invariant =>
    constructor
    · intro failed
      obtain ⟨fault, failed⟩ := failed
      obtain ⟨members, version, numbered, inside, parsed⟩ := parsed_of_parse failed nofun nofun
      exact ⟨members, version, numbered, inside, parsed.invariant_iff.mp ⟨fault, rfl⟩⟩
    · intro holds
      obtain ⟨members, version, numbered, inside, repeated⟩ := holds
      exact (parse_parsed numbered inside).invariant_iff.mpr repeated
  case repeated =>
    intro fault failed
    obtain ⟨members, version, numbered, inside, parsed⟩ := parsed_of_parse failed nofun nofun
    cases parsed with
    | repeated formed listed repeats => exact ⟨members, version, _, _, numbered, listed, repeats, rfl⟩
  case others =>
    intro error failed
    rcases parse_cases text with ⟨fault, other⟩ | ⟨_, version, _, _, other⟩ | ⟨_, _, _, _, parsed⟩
    · cases failed.symm.trans other
      exact .inr (.inr ⟨fault, rfl⟩)
    · cases failed.symm.trans other
      exact .inl ⟨version, rfl⟩
    · rw [failed] at parsed
      cases parsed with
      | unformed _ => exact .inr (.inr ⟨_, rfl⟩)
      | repeated _ _ _ => exact .inr (.inl ⟨_, rfl⟩)
  case globals =>
    intro story done
    obtain ⟨members, version, numbered, inside, parsed⟩ := parsed_of_parse done nofun nofun
    cases parsed with
    | taken formed once names => exact ⟨members, version, numbered, names⟩

-- What is assigned again is not declared, and what is declared twice is refused.
example : ["\x7b\"inkVersion\":21,\"root\":[[\"^Hi\"],\x7b\"global decl\":[\"ev\",5,\x7b\"VAR=\":\"a\"\x7d,6,\x7b\"VAR=\":\"b\",\"re\":true\x7d]\x7d]\x7d",
      "\x7b\"inkVersion\":18,\"root\":[\x7b\"global decl\":[5,\x7b\"VAR=\":\"a\"\x7d,6,\x7b\"VAR=\":\"a\"\x7d]\x7d]\x7d"].map
      (fun text => (Story.parse text).map fun story => story.globals) =
    [.ok [("a", .integer 5)], .error (.invariant (.declaredTwice "a"))] := by decide +kernel

end InkProject.Story
