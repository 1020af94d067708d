import InkProject.Compiler.Codec
import InkProject.Proofs.Json.Codec
import InkProject.Proofs.Text.Decoding
set_option autoImplicit false

namespace InkProject

open Json

def Path.Textual (path : Path) : Prop := ∃ text, path.text? = some text

theorem path_lawful : Lawful Path.encode? Path.decode Path.Textual where
  back := by
    intro path textual
    obtain ⟨text, shown⟩ := textual
    refine ⟨.string text, by rw [Path.encode?, shown]; rfl, .string text, fun other covers => ?_⟩
    cases covers
    have bytes : Utf8.ofString text = path.bytes := (Utf8.text?_eq_some _ _).mp shown
    rw [Path.decode, Path.ofString, bytes]
  read := by
    intro json path done
    cases json with
    | string text =>
      cases done
      exact ⟨text, (Utf8.text?_eq_some _ _).mpr rfl⟩
    | _ => cases done

theorem decode_name_iff (json : Json) (name : FileName) : FileName.decode json = .ok name ↔ json = .string name.text := by
  constructor
  · intro done
    obtain ⟨text, shown, done⟩ := (bind_eq_ok _ _ _).mp done
    cases given : FileName.ofString? text with
    | none =>
      rw [given] at done
      cases done
    | some other =>
      rw [given] at done
      cases done
      rw [(FileName.ofString?_eq_some_iff _ _).mp given]
      exact (decodeString_eq_ok _ _).mp shown
  · intro same
    rw [same, FileName.decode, decodeString, ok_bind, FileName.ofString?_text]

theorem name_lawful : Lawful (fun name => some (FileName.encode name)) FileName.decode fun _ => True where
  back := by
    intro name _
    refine ⟨_, rfl, .string name.text, fun other covers => ?_⟩
    cases covers
    exact (decode_name_iff _ _).mpr rfl
  read _ _ _ := trivial

namespace Compiler

theorem relocationKind_lawful : Lawful (fun kind => some (RelocationKind.encode kind)) RelocationKind.decode fun _ => True :=
  variant_lawful fun kind => by cases kind <;> rfl

theorem messageKind_lawful : Lawful (fun kind => some (MessageKind.encode kind)) MessageKind.decode fun _ => True :=
  variant_lawful fun kind => by cases kind <;> rfl

structure Relocation.Textual (relocation : Relocation) : Prop where
  source : relocation.source.Textual
  target : relocation.target.Textual

theorem relocation_lawful : Lawful Relocation.encode? Relocation.decode Relocation.Textual := by
  refine record_lawful (fun relocation textual => ?_) fun members relocation done => ?_
  · obtain ⟨kind, encodedKind, selfKind, backKind⟩ := relocationKind_lawful.back relocation.kind trivial
    obtain ⟨source, encodedSource, selfSource, backSource⟩ := path_lawful.back relocation.source textual.source
    obtain ⟨target, encodedTarget, selfTarget, backTarget⟩ := path_lawful.back relocation.target textual.target
    refine ⟨[("kind", kind), ("from", source), ("to", target)], ?_, ?_, ?_, fun members among => ?_⟩
    · cases encodedKind
      rw [Relocation.encode?, encodedSource, encodedTarget]
      rfl
    · exact show ["kind", "from", "to"].Nodup by decide
    · simp [selfKind, selfSource, selfTarget]
    · have readKind := required_back among "kind" rfl backKind
      have readSource := required_back among "from" rfl backSource
      have readTarget := required_back among "to" rfl backTarget
      refine ⟨?_, ?_⟩
      · simp [required_read readKind, required_read readSource, required_read readTarget]
      · rw [readKind, ok_bind, readSource, ok_bind, readTarget]
        rfl
  · obtain ⟨kind, _, done⟩ := (bind_eq_ok _ _ _).mp done
    obtain ⟨source, readSource, done⟩ := (bind_eq_ok _ _ _).mp done
    obtain ⟨target, readTarget, done⟩ := (bind_eq_ok _ _ _).mp done
    cases done
    exact ⟨path_lawful.required readSource, path_lawful.required readTarget⟩

def Descriptor.Textual (descriptor : Descriptor) : Prop := descriptor.directory.Textual

theorem descriptor_lawful : Lawful Descriptor.encode? Descriptor.decode Descriptor.Textual := by
  refine record_lawful (fun descriptor textual => ?_) fun members descriptor done => ?_
  · obtain ⟨name, encodedName, selfName, backName⟩ := name_lawful.back descriptor.name trivial
    obtain ⟨directory, encodedDirectory, selfDirectory, backDirectory⟩ := path_lawful.back descriptor.directory textual
    obtain ⟨hidden, encodedHidden, selfHidden, backHidden⟩ := bool_lawful.back descriptor.hidden trivial
    refine ⟨[("name", name), ("containing_directory", directory), ("is_hidden", hidden)], ?_, ?_, ?_,
      fun members among => ?_⟩
    · cases encodedName
      cases encodedHidden
      rw [Descriptor.encode?, encodedDirectory]
      rfl
    · exact show ["name", "containing_directory", "is_hidden"].Nodup by decide
    · simp [selfName, selfDirectory, selfHidden]
    · have readName := required_back among "name" rfl backName
      have readDirectory := required_back among "containing_directory" rfl backDirectory
      have readHidden := required_back among "is_hidden" rfl backHidden
      refine ⟨?_, ?_⟩
      · simp [required_read readName, required_read readDirectory, required_read readHidden]
      · rw [readName, ok_bind, readDirectory, ok_bind, readHidden]
        rfl
  · obtain ⟨name, _, done⟩ := (bind_eq_ok _ _ _).mp done
    obtain ⟨directory, readDirectory, done⟩ := (bind_eq_ok _ _ _).mp done
    obtain ⟨hidden, _, done⟩ := (bind_eq_ok _ _ _).mp done
    cases done
    exact path_lawful.required readDirectory

theorem companionState_lawful :
    Lawful (fun state => some (CompanionState.encode state)) CompanionState.decode fun _ => True where
  back := by
    intro state _
    have tagged {entries members : Table Json} {tag : String} (among : Among entries members)
        (found : entries.find? "state" = some (.string tag)) : members.lookup "state" = some (.string tag) := by
      obtain ⟨shown, present, covers⟩ := among "state" _ found
      cases covers
      rw [Table.lookup_eq_find?, present]
    cases state with
    | installed name =>
      obtain ⟨given, encoded, itself, back⟩ := name_lawful.back name trivial
      cases encoded
      refine ⟨_, rfl, .self (show ["state", "name"].Nodup by decide) (by simp [itself, Covers.string]), ?_⟩
      intro other covers
      obtain ⟨members, rfl, _, among⟩ := covers.members
      have read := required_back among "name" rfl back
      rw [CompanionState.decode, tagged among rfl]
      show CompanionState.installed <$> required "name" FileName.decode members = .ok (.installed name)
      rw [read]
      rfl
    | absent =>
      refine ⟨_, rfl, .self (show ["state"].Nodup by decide) (by simp [Covers.string]), fun other covers => ?_⟩
      obtain ⟨members, rfl, _, among⟩ := covers.members
      rw [CompanionState.decode, tagged among rfl]
      rfl
  read _ _ _ := trivial

structure Located.Textual (located : Located) : Prop where
  path : located.path.Textual
  descriptor : located.descriptor.Textual
  relocations : ∀ relocation ∈ located.relocations, relocation.Textual

theorem located_lawful : Lawful Located.encode? Located.decode Located.Textual := by
  refine record_lawful (fun located textual => ?_) fun members located done => ?_
  · obtain ⟨path, encodedPath, selfPath, backPath⟩ := path_lawful.back located.path textual.path
    obtain ⟨descriptor, encodedDescriptor, selfDescriptor, backDescriptor⟩ :=
      descriptor_lawful.back located.descriptor textual.descriptor
    obtain ⟨companion, encodedCompanion, selfCompanion, backCompanion⟩ :=
      companionState_lawful.back located.companion trivial
    obtain ⟨relocations, encodedRelocations, selfRelocations, backRelocations⟩ :=
      relocation_lawful.list.back located.relocations textual.relocations
    refine ⟨[("path", path), ("descriptor", descriptor), ("companion", companion), ("relocations", relocations)], ?_, ?_,
      ?_, fun members among => ?_⟩
    · cases encodedCompanion
      obtain ⟨items, encodedItems, rfl⟩ := Option.map_eq_some_iff.mp encodedRelocations
      rw [Located.encode?, encodedPath, encodedDescriptor, encodedItems]
      rfl
    · exact show ["path", "descriptor", "companion", "relocations"].Nodup by decide
    · simp [selfPath, selfDescriptor, selfCompanion, selfRelocations]
    · have readPath := required_back among "path" rfl backPath
      have readDescriptor := required_back among "descriptor" rfl backDescriptor
      have readCompanion := required_back among "companion" rfl backCompanion
      have readRelocations := required_back among "relocations" rfl backRelocations
      refine ⟨?_, ?_⟩
      · simp [required_read readPath, required_read readDescriptor, required_read readCompanion,
          required_read readRelocations]
      · rw [readPath, ok_bind, readDescriptor, ok_bind, readCompanion, ok_bind, readRelocations]
        rfl
  · obtain ⟨path, readPath, done⟩ := (bind_eq_ok _ _ _).mp done
    obtain ⟨descriptor, readDescriptor, done⟩ := (bind_eq_ok _ _ _).mp done
    obtain ⟨companion, _, done⟩ := (bind_eq_ok _ _ _).mp done
    obtain ⟨relocations, readRelocations, done⟩ := (bind_eq_ok _ _ _).mp done
    cases done
    exact ⟨path_lawful.required readPath, descriptor_lawful.required readDescriptor,
      relocation_lawful.list.required readRelocations⟩

def Settings.Textual (settings : Settings) : Prop := settings.root.Textual

theorem settings_lawful : Lawful Settings.encode? Settings.decode Settings.Textual := by
  refine record_lawful (fun settings textual => ?_) fun members settings done => ?_
  · obtain ⟨root, encodedRoot, selfRoot, backRoot⟩ := path_lawful.back settings.root textual
    obtain ⟨executable, encodedExecutable, selfExecutable, backExecutable⟩ := name_lawful.back settings.executable trivial
    obtain ⟨companion, encodedCompanion, selfCompanion, backCompanion⟩ := name_lawful.back settings.companion trivial
    obtain ⟨hidden, encodedHidden, selfHidden, backHidden⟩ := string_lawful.back settings.hiddenSuffix trivial
    obtain ⟨pending, encodedPending, selfPending, backPending⟩ := string_lawful.back settings.pendingSuffix trivial
    refine ⟨[("root_directory", root), ("executable_name", executable), ("companion_name", companion),
      ("hidden_suffix", hidden), ("pending_suffix", pending)], ?_, ?_, ?_, fun members among => ?_⟩
    · cases encodedExecutable
      cases encodedCompanion
      cases encodedHidden
      cases encodedPending
      rw [Settings.encode?, encodedRoot]
      rfl
    · exact show ["root_directory", "executable_name", "companion_name", "hidden_suffix", "pending_suffix"].Nodup by decide
    · simp [selfRoot, selfExecutable, selfCompanion, selfHidden, selfPending]
    · have readRoot := required_back among "root_directory" rfl backRoot
      have readExecutable := required_back among "executable_name" rfl backExecutable
      have readCompanion := required_back among "companion_name" rfl backCompanion
      have readHidden := required_back among "hidden_suffix" rfl backHidden
      have readPending := required_back among "pending_suffix" rfl backPending
      refine ⟨?_, ?_⟩
      · simp [required_read readRoot, required_read readExecutable, required_read readCompanion, required_read readHidden,
          required_read readPending]
      · rw [readRoot, ok_bind, readExecutable, ok_bind, readCompanion, ok_bind, readHidden, ok_bind, readPending]
        rfl
  · obtain ⟨root, readRoot, done⟩ := (bind_eq_ok _ _ _).mp done
    obtain ⟨executable, _, done⟩ := (bind_eq_ok _ _ _).mp done
    obtain ⟨companion, _, done⟩ := (bind_eq_ok _ _ _).mp done
    obtain ⟨hidden, _, done⟩ := (bind_eq_ok _ _ _).mp done
    obtain ⟨pending, _, done⟩ := (bind_eq_ok _ _ _).mp done
    cases done
    exact path_lawful.required readRoot

theorem message_lawful : Lawful (fun message => some (Message.encode message)) Message.decode fun _ => True := by
  refine record_lawful (fun message _ => ?_) fun _ _ _ => trivial
  obtain ⟨kind, encodedKind, selfKind, backKind⟩ := messageKind_lawful.back message.kind trivial
  obtain ⟨text, encodedText, selfText, backText⟩ := string_lawful.back message.text trivial
  refine ⟨[("kind", kind), ("text", text)], ?_, ?_, ?_, fun members among => ?_⟩
  · cases encodedKind
    cases encodedText
    rfl
  · exact show ["kind", "text"].Nodup by decide
  · simp [selfKind, selfText]
  · have readKind := required_back among "kind" rfl backKind
    have readText := required_back among "text" rfl backText
    refine ⟨?_, ?_⟩
    · simp [required_read readKind, required_read readText]
    · rw [readKind, ok_bind, readText]
      rfl

def ExitCode (code : Option Int) : Prop := ∀ value, code = some value → -2147483648 ≤ value ∧ value ≤ 2147483647

theorem exitCode_lawful : Lawful (fun code => some (encodeExitCode code)) decodeExitCode ExitCode where
  back := by
    intro code bounded
    cases code with
    | none =>
      refine ⟨_, rfl, .null, fun other covers => ?_⟩
      cases covers
      rfl
    | some value =>
      refine ⟨_, rfl, .integer value, fun other covers => ?_⟩
      cases covers
      exact (decodeOption_eq_ok _ _ _).mpr
        (.inr ⟨Json.noConfusion, value, (decodeInteger_eq_ok _ _ _ _ _).mpr ⟨rfl, bounded value rfl⟩, rfl⟩)
  read := by
    intro json code done value same
    rcases (decodeOption_eq_ok _ _ _).mp done with ⟨_, absent⟩ | ⟨_, other, decoded, present⟩
    · rw [same] at absent
      cases absent
    · rw [same] at present
      cases present
      exact ((decodeInteger_eq_ok _ _ _ _ _).mp decoded).2

structure Report.Textual (report : Report) : Prop where
  outputPath : report.outputPath.Textual
  exitCode : ExitCode report.exitCode

theorem report_lawful : Lawful Report.encode? Report.decode Report.Textual := by
  refine record_lawful (fun report textual => ?_) fun members report done => ?_
  · obtain ⟨path, encodedPath, selfPath, backPath⟩ := path_lawful.back report.outputPath textual.outputPath
    obtain ⟨code, encodedCode, selfCode, backCode⟩ := exitCode_lawful.back report.exitCode textual.exitCode
    obtain ⟨messages, encodedMessages, selfMessages, backMessages⟩ :=
      message_lawful.list.back report.messages fun _ _ => trivial
    obtain ⟨other, encodedOther, selfOther, backOther⟩ := string_lawful.list.back report.otherOutput fun _ _ => trivial
    refine ⟨[("output_path", path), ("exit_code", code), ("messages", messages), ("other_output", other)], ?_, ?_, ?_,
      fun members among => ?_⟩
    · cases encodedCode
      rw [mapM_total] at encodedMessages encodedOther
      cases encodedMessages
      cases encodedOther
      rw [Report.encode?, encodedPath]
      rfl
    · exact show ["output_path", "exit_code", "messages", "other_output"].Nodup by decide
    · simp [selfPath, selfCode, selfMessages, selfOther]
    · have readPath := required_back among "output_path" rfl backPath
      have readCode : optional "exit_code" decodeExitCode none members = _ := optional_back among "exit_code" rfl backCode
      have readMessages := required_back among "messages" rfl backMessages
      have readOther := required_back among "other_output" rfl backOther
      refine ⟨?_, ?_⟩
      · simp [required_read readPath, optional_read readCode, required_read readMessages, required_read readOther]
      · rw [readPath, ok_bind, readCode, ok_bind, readMessages, ok_bind, readOther]
        rfl
  · obtain ⟨path, readPath, done⟩ := (bind_eq_ok _ _ _).mp done
    obtain ⟨code, readCode, done⟩ := (bind_eq_ok _ _ _).mp done
    obtain ⟨messages, _, done⟩ := (bind_eq_ok _ _ _).mp done
    obtain ⟨other, _, done⟩ := (bind_eq_ok _ _ _).mp done
    cases done
    refine ⟨path_lawful.required readPath, ?_⟩
    rcases optional_eq_ok.mp readCode with ⟨_, absent⟩ | ⟨json, _, decoded⟩
    · rw [absent]
      exact fun _ present => nomatch present
    · exact exitCode_lawful.read json code decoded

def SingleName (text : String) : Prop := text ≠ "" ∧ '/' ∉ text.toList ∧ '\\' ∉ text.toList

theorem singleName_iff (text : String) : SingleName text ↔ FileName.Valid text := by
  rw [SingleName, FileName.Valid]
  refine and_congr_right fun _ => ?_
  constructor
  · intro absent char member
    exact ⟨fun same => absent.1 (same ▸ member), fun same => absent.2 (same ▸ member)⟩
  · intro each
    exact ⟨fun member => (each _ member).1 rfl, fun member => (each _ member).2 rfl⟩

theorem name_single (name : FileName) : SingleName name.text := (singleName_iff _).mpr name.valid

theorem name_admitted_iff (text : String) : (∃ name, FileName.decode (.string text) = .ok name) ↔ SingleName text := by
  constructor
  · intro admitted
    obtain ⟨name, decoded⟩ := admitted
    rw [Json.string.inj ((decode_name_iff _ _).mp decoded)]
    exact name_single name
  · intro single
    exact ⟨⟨text, (singleName_iff text).mp single⟩, (decode_name_iff _ _).mpr rfl⟩

-- The forms of all the data, and the names that come with them.
structure Serialised : Prop where
  names : RoundTrips (fun name => some (FileName.encode name)) FileName.decode fun _ => True
  relocationKinds : RoundTrips (fun kind => some (RelocationKind.encode kind)) RelocationKind.decode fun _ => True
  relocations : RoundTrips Relocation.encode? Relocation.decode Relocation.Textual
  companionStates : RoundTrips (fun state => some (CompanionState.encode state)) CompanionState.decode fun _ => True
  descriptors : RoundTrips Descriptor.encode? Descriptor.decode Descriptor.Textual
  located : RoundTrips Located.encode? Located.decode Located.Textual
  settings : RoundTrips Settings.encode? Settings.decode Settings.Textual
  messageKinds : RoundTrips (fun kind => some (MessageKind.encode kind)) MessageKind.decode fun _ => True
  messages : RoundTrips (fun message => some (Message.encode message)) Message.decode fun _ => True
  reports : RoundTrips Report.encode? Report.decode Report.Textual
  admitted : ∀ text, (∃ name, FileName.decode (.string text) = .ok name) ↔ SingleName text
  companionNames : ∀ json state, CompanionState.decode json = .ok state → ∀ name, state = .installed name →
    SingleName name.text
  descriptorNames : ∀ json descriptor, Descriptor.decode json = .ok descriptor → SingleName descriptor.name.text
  locatedNames : ∀ json located, Located.decode json = .ok located → SingleName located.descriptor.name.text ∧
    ∀ name, located.companion = .installed name → SingleName name.text
  settingsNames : ∀ json settings, Settings.decode json = .ok settings → SingleName settings.executable.text ∧
    SingleName settings.companion.text

theorem data_serialised : Serialised where
  names := name_lawful.roundTrips
  relocationKinds := relocationKind_lawful.roundTrips
  relocations := relocation_lawful.roundTrips
  companionStates := companionState_lawful.roundTrips
  descriptors := descriptor_lawful.roundTrips
  located := located_lawful.roundTrips
  settings := settings_lawful.roundTrips
  messageKinds := messageKind_lawful.roundTrips
  messages := message_lawful.roundTrips
  reports := report_lawful.roundTrips
  admitted := name_admitted_iff
  companionNames _ _ _ name _ := name_single name
  descriptorNames _ descriptor _ := name_single descriptor.name
  locatedNames _ located _ := ⟨name_single located.descriptor.name, fun name _ => name_single name⟩
  settingsNames _ settings _ := ⟨name_single settings.executable, name_single settings.companion⟩

end Compiler

end InkProject
