import InkProject.Proofs.Json.Decode
import Mathlib.Data.List.Forall2
/- Data that is written as JSON and read back. What is written is read back with the members of its objects in any
   order and with others beside them; what was read can be written. -/
set_option autoImplicit false

namespace InkProject.Json

inductive Covers : Json → Json → Prop where
  | null : Covers .null .null
  | bool (value : Bool) : Covers (.bool value) (.bool value)
  | integer (value : Int) : Covers (.integer value) (.integer value)
  | string (text : String) : Covers (.string text) (.string text)
  | array {items others : List Json} (each : List.Forall₂ Covers items others) : Covers (.array items) (.array others)
  | object {members others : List (String × Json)} (distinct : (Table.keys others).Nodup)
    (there : ∀ name, Table.contains members name = true → Table.contains others name = true)
    (each : ∀ name json other, Table.find? name members = some json → Table.find? name others = some other →
      Covers json other) : Covers (.object members) (.object others)

def Among (entries members : Table Json) : Prop :=
  ∀ name json, entries.find? name = some json → ∃ shown, members.find? name = some shown ∧ Covers json shown

theorem Covers.members {entries : Table Json} {other : Json} (covers : Covers (.object entries) other) :
    ∃ members : Table Json, other = .object members ∧ members.keys.Nodup ∧ Among entries members := by
  cases covers with
  | object distinct there each =>
    refine ⟨_, rfl, distinct, fun name json found => ?_⟩
    have present := there name (by rw [Table.contains, found]; rfl)
    obtain ⟨shown, same⟩ := Option.isSome_iff_exists.mp present
    exact ⟨shown, same, each name json shown found same⟩

theorem Covers.self {entries : Table Json} (distinct : entries.keys.Nodup)
    (each : ∀ entry ∈ entries, Covers entry.2 entry.2) : Covers (.object entries) (.object entries) := by
  refine .object distinct (fun _ there => there) fun name json other found same => ?_
  rw [found, Option.some.injEq] at same
  exact same ▸ each _ (Table.mem_of_find? found)

structure Lawful {α : Type} (encode? : α → Option Json) (decode : Decoder α) (Writable : α → Prop) : Prop where
  back : ∀ value, Writable value → ∃ json, encode? value = some json ∧ Covers json json ∧
    ∀ other, Covers json other → decode other = .ok value
  read : ∀ json value, decode json = .ok value → Writable value

-- What is written is read back, also where its members stand in another order or among others, and what was read is
-- read the same once it is written.
structure RoundTrips {α : Type} (encode? : α → Option Json) (decode : Decoder α) (Writable : α → Prop) : Prop where
  kept : ∀ value, Writable value → ∃ json, encode? value = some json ∧ decode json = .ok value ∧
    ∀ other, Covers json other → decode other = .ok value
  again : ∀ json value, decode json = .ok value → ∃ written, encode? value = some written ∧ decode written = .ok value

section

variable {α : Type} {encode? : α → Option Json} {decode : Decoder α} {Writable : α → Prop} {members : Table Json}
  {name : String} {value : α} {json : Json}

theorem Lawful.roundTrips (law : Lawful encode? decode Writable) : RoundTrips encode? decode Writable where
  kept := by
    intro value writable
    obtain ⟨json, encoded, itself, back⟩ := law.back value writable
    exact ⟨json, encoded, back json itself, back⟩
  again := by
    intro json value done
    obtain ⟨written, encoded, itself, back⟩ := law.back value (law.read json value done)
    exact ⟨written, encoded, back written itself⟩

theorem Lawful.required (law : Lawful encode? decode Writable) (done : Json.required name decode members = .ok value) :
    Writable value := by
  obtain ⟨json, _, decoded⟩ := required_eq_ok.mp done
  exact law.read json value decoded

theorem required_back {entries : Table Json} (among : Among entries members) (name : String)
    (found : entries.find? name = some json) (back : ∀ other, Covers json other → decode other = .ok value) :
    Json.required name decode members = .ok value := by
  obtain ⟨shown, present, covers⟩ := among name json found
  exact required_eq_ok.mpr ⟨shown, present, back shown covers⟩

theorem optional_back {entries : Table Json} {default : α} (among : Among entries members) (name : String)
    (found : entries.find? name = some json) (back : ∀ other, Covers json other → decode other = .ok value) :
    Json.optional name decode default members = .ok value := by
  obtain ⟨shown, present, covers⟩ := among name json found
  exact optional_eq_ok.mpr (.inr ⟨shown, present, back shown covers⟩)

structure Field.Read (members : Table Json) (field : Field) : Prop where
  passed : field.Passed members
  there : field.required = true → members.contains field.name = true

theorem required_read (done : Json.required name decode members = .ok value) : (field name decode true).Read members := by
  refine ⟨required_passed done true, fun _ => ?_⟩
  obtain ⟨json, found, _⟩ := required_eq_ok.mp done
  rw [field, Table.contains, found]
  rfl

theorem optional_read {default : α} (done : Json.optional name decode default members = .ok value) :
    (field name decode false).Read members :=
  ⟨optional_passed done false, fun needed => nomatch needed⟩

theorem record_lawful {what : String} {fields : List Field} {build : Table Json → Except Shape.Mismatch α}
    (back : ∀ value, Writable value → ∃ entries : Table Json, encode? value = some (.object entries) ∧
      entries.keys.Nodup ∧ (∀ entry ∈ entries, Covers entry.2 entry.2) ∧
      ∀ members, Among entries members → (∀ field ∈ fields, field.Read members) ∧ build members = .ok value)
    (read : ∀ members value, build members = .ok value → Writable value) :
    Lawful encode? (fun json => decodeRecord what fields json >>= build) Writable where
  back := by
    intro value writable
    obtain ⟨entries, encoded, distinct, themselves, back⟩ := back value writable
    refine ⟨_, encoded, .self distinct themselves, fun other covers => ?_⟩
    obtain ⟨members, rfl, distinct, among⟩ := covers.members
    obtain ⟨each, built⟩ := back members among
    have decoded : decodeRecord what fields (.object members) = .ok members :=
      decodeMembers_passed distinct (fun field member => (each field member).passed) fun field member =>
        (each field member).there
    rw [decoded, ok_bind, built]
  read := by
    intro json value done
    obtain ⟨members, _, built⟩ := (bind_eq_ok _ _ _).mp done
    exact read members value built

theorem string_lawful : Lawful (fun text => some (.string text)) decodeString fun _ => True where
  back := by
    intro text _
    refine ⟨_, rfl, .string text, fun other covers => ?_⟩
    cases covers
    rfl
  read _ _ _ := trivial

theorem bool_lawful : Lawful (fun value => some (.bool value)) decodeBool fun _ => True where
  back := by
    intro value _
    refine ⟨_, rfl, .bool value, fun other covers => ?_⟩
    cases covers
    rfl
  read _ _ _ := trivial

theorem variant_lawful {variants : List (String × α)} {name : α → String}
    (known : ∀ value, variants.lookup (name value) = some value) :
    Lawful (fun value => some (.string (name value))) (decodeVariant variants) fun _ => True where
  back := by
    intro value _
    refine ⟨_, rfl, .string _, fun other covers => ?_⟩
    cases covers
    rw [decodeVariant]
    simp only [known]
  read _ _ _ := trivial

theorem mapM_ok_iff {items : List Json} {values : List α} : items.mapM decode = .ok values ↔
    List.Forall₂ (fun item value => decode item = .ok value) items values := by
  induction items generalizing values with
  | nil => cases values <;> simp [pure, Except.pure]
  | cons item items ih =>
    rw [List.mapM_cons, bind_eq_ok]
    simp only [bind_eq_ok, ih]
    cases values with
    | nil => simp [pure, Except.pure]
    | cons value values => simp [pure, Except.pure, List.forall₂_cons]

theorem mapM_some_iff {values : List α} {items : List Json} : values.mapM encode? = some items ↔
    List.Forall₂ (fun value item => encode? value = some item) values items := by
  induction values generalizing items with
  | nil => cases items <;> simp
  | cons value values ih =>
    rw [List.mapM_cons, Option.bind_eq_bind, Option.bind_eq_some_iff]
    simp only [Option.bind_eq_bind, Option.bind_eq_some_iff, ih]
    cases items with
    | nil => simp
    | cons item items => simp [List.forall₂_cons]

theorem mapM_total (encode : α → Json) (values : List α) :
    values.mapM (fun value => some (encode value)) = some (values.map encode) := by
  induction values with
  | nil => rfl
  | cons value values ih =>
    rw [List.mapM_cons, ih]
    rfl

theorem decodeList_iff {values : List α} : decodeList decode json = .ok values ↔
    ∃ items, json = .array items ∧ List.Forall₂ (fun item value => decode item = .ok value) items values := by
  cases json <;> simp [decodeList, mismatch, mapM_ok_iff]

-- By induction on the values: each of them is written and covered for itself.
theorem Lawful.items (law : Lawful encode? decode Writable) (values : List α)
    (writable : ∀ value ∈ values, Writable value) : ∃ items,
      List.Forall₂ (fun value item => encode? value = some item) values items ∧ List.Forall₂ Covers items items ∧
      ∀ others, List.Forall₂ Covers items others →
        List.Forall₂ (fun item value => decode item = .ok value) others values := by
  induction values with
  | nil =>
    refine ⟨[], .nil, .nil, fun others covers => ?_⟩
    cases covers
    exact .nil
  | cons value values ih =>
    obtain ⟨item, encoded, itself, back⟩ := law.back value (writable value List.mem_cons_self)
    obtain ⟨items, each, themselves, others⟩ := ih fun other member => writable other (List.mem_cons_of_mem _ member)
    refine ⟨item :: items, .cons encoded each, .cons itself themselves, fun shown covers => ?_⟩
    cases covers with
    | cons first rest => exact .cons (back _ first) (others _ rest)

theorem Lawful.list (law : Lawful encode? decode Writable) : Lawful (fun values => (values.mapM encode?).map .array)
    (decodeList decode) fun values => ∀ value ∈ values, Writable value where
  back := by
    intro values writable
    obtain ⟨items, encoded, themselves, back⟩ := law.items values writable
    refine ⟨.array items, by rw [mapM_some_iff.mpr encoded]; rfl, .array themselves, fun other covers => ?_⟩
    cases covers with
    | array each => exact decodeList_iff.mpr ⟨_, rfl, back _ each⟩
  read := by
    intro json values done
    obtain ⟨items, same, each⟩ := decodeList_iff.mp done
    clear done same
    induction each with
    | nil => exact List.forall_mem_nil _
    | cons decoded _ ih => exact List.forall_mem_cons.mpr ⟨law.read _ _ decoded, ih⟩

end

end InkProject.Json
