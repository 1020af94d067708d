import InkProject.Compiler.Locate
import InkProject.Compiler.Report
import InkProject.Json.Decode
import InkProject.Notice
set_option autoImplicit false

namespace InkProject

open Json Shape

def Path.encode? (path : Path) : Option Json := path.text?.map .string

def Path.decode : Decoder Path
  | .string text => .ok (Path.ofString text)
  | json => json.mismatch "path string"

def FileName.encode (name : FileName) : Json := .string name.text

def FileName.decode : Decoder FileName := fun json => do
  let text ← decodeString json
  match FileName.ofString? text with
  | some name => .ok name
  | none => .error (.invalidName text)

def Platform.name : Platform → String
  | .windows => "windows"
  | .macOs => "mac_os"
  | .linux => "linux"

def Platform.encode (platform : Platform) : Json := .string platform.name
def Platform.decode : Decoder Platform :=
  decodeVariant ([.windows, .macOs, .linux].map fun platform => (Platform.name platform, platform))

def Notice.encode (notice : Notice) : Json := .string notice.name
def Notice.decode : Decoder Notice :=
  decodeVariant ([.blocking, .nonBlocking].map fun notice => (Notice.name notice, notice))

namespace Compiler

def RelocationKind.name : RelocationKind → String
  | .hideDirectory => "hide_directory"
  | .renameCompanion => "rename_companion"
  | .discardDuplicate => "discard_duplicate_companion"

def RelocationKind.encode (kind : RelocationKind) : Json := .string kind.name
def RelocationKind.decode : Decoder RelocationKind :=
  decodeVariant ([.hideDirectory, .renameCompanion, .discardDuplicate].map
    fun kind => (RelocationKind.name kind, kind))

def MessageKind.encode (kind : MessageKind) : Json := .string kind.name
def MessageKind.decode : Decoder MessageKind :=
  decodeVariant (MessageKind.all.map fun kind => (kind.name, kind))

def Relocation.encode? (relocation : Relocation) : Option Json := do
  let source ← relocation.source.encode?
  let target ← relocation.target.encode?
  return .object [("kind", relocation.kind.encode), ("from", source), ("to", target)]

def Relocation.decode : Decoder Relocation := fun json => do
  let members ← decodeRecord "struct Relocation"
    [field "kind" RelocationKind.decode true, field "from" Path.decode true,
      field "to" Path.decode true] json
  return ⟨← required "kind" RelocationKind.decode members, ← required "from" Path.decode members,
    ← required "to" Path.decode members⟩

def CompanionState.encode : CompanionState → Json
  | .installed name => .object [("state", .string "installed"), ("name", name.encode)]
  | .absent => .object [("state", .string "absent")]

inductive CompanionTag where
  | installed
  | absent

def CompanionTag.decode : Decoder CompanionTag
  | .string "installed" => .ok .installed
  | .string "absent" => .ok .absent
  | .string name => .error (.unknownVariant name ["installed", "absent"])
  | json => json.mismatch "variant identifier"

def CompanionTag.items : CompanionTag → List Json → Except Mismatch CompanionState
  | .absent, [] => .ok .absent
  | .absent, items => .error (.invalidLength items.length (elements 0 ++ " in sequence"))
  | .installed, [] => .error (.invalidLength 0 "struct variant CompanionState::Installed with 1 element")
  | .installed, [name] => .installed <$> FileName.decode name
  | .installed, name :: rest => do
    let _ ← FileName.decode name
    .error (.invalidLength (rest.length + 1) (elements 1 ++ " in sequence"))

def CompanionState.decode : Decoder CompanionState
  | .object members => do
    match members.lookup "state" with
    | none => .error (.missingField "state")
    | some tag => match ← CompanionTag.decode tag with
      | .absent => .ok .absent
      | .installed => .installed <$> required "name" FileName.decode members
  | .array [] => .error (.missingField "state")
  | .array (tag :: items) => do (← CompanionTag.decode tag).items items
  | json => json.mismatch "internally tagged enum CompanionState"

def Descriptor.encode? (descriptor : Descriptor) : Option Json := do
  let directory ← descriptor.directory.encode?
  return .object [("name", descriptor.name.encode), ("containing_directory", directory),
    ("is_hidden", .bool descriptor.hidden)]

def Descriptor.decode : Decoder Descriptor := fun json => do
  let members ← decodeRecord "struct ExecutableDescriptor"
    [field "name" FileName.decode true, field "containing_directory" Path.decode true,
      field "is_hidden" decodeBool true] json
  return ⟨← required "name" FileName.decode members,
    ← required "containing_directory" Path.decode members, ← required "is_hidden" decodeBool members⟩

def Located.encode? (located : Located) : Option Json := do
  let path ← located.path.encode?
  let descriptor ← located.descriptor.encode?
  let relocations ← located.relocations.mapM Relocation.encode?
  return .object [("path", path), ("descriptor", descriptor),
    ("companion", located.companion.encode), ("relocations", .array relocations)]

def Located.decode : Decoder Located := fun json => do
  let relocations := decodeList Relocation.decode
  let members ← decodeRecord "struct ResolvedExecutable"
    [field "path" Path.decode true, field "descriptor" Descriptor.decode true,
      field "companion" CompanionState.decode true, field "relocations" relocations true] json
  return ⟨← required "path" Path.decode members, ← required "descriptor" Descriptor.decode members,
    ← required "companion" CompanionState.decode members, ← required "relocations" relocations members⟩

def Settings.encode? (settings : Settings) : Option Json := do
  let root ← settings.root.encode?
  return .object [("root_directory", root), ("executable_name", settings.executable.encode),
    ("companion_name", settings.companion.encode), ("hidden_suffix", .string settings.hiddenSuffix),
    ("pending_suffix", .string settings.pendingSuffix)]

def Settings.decode : Decoder Settings := fun json => do
  let members ← decodeRecord "struct LocatorConfig"
    [field "root_directory" Path.decode true, field "executable_name" FileName.decode true,
      field "companion_name" FileName.decode true, field "hidden_suffix" decodeString true,
      field "pending_suffix" decodeString true] json
  return ⟨← required "root_directory" Path.decode members,
    ← required "executable_name" FileName.decode members,
    ← required "companion_name" FileName.decode members,
    ← required "hidden_suffix" decodeString members, ← required "pending_suffix" decodeString members⟩

def Message.encode (message : Message) : Json :=
  .object [("kind", message.kind.encode), ("text", .string message.text)]

def Message.decode : Decoder Message := fun json => do
  let members ← decodeRecord "struct CompilerMessage"
    [field "kind" MessageKind.decode true, field "text" decodeString true] json
  return ⟨← required "kind" MessageKind.decode members, ← required "text" decodeString members⟩

def Message.decodePair : Decoder Message := fun json => do
  let members ← decodeTuple
    [field "kind" MessageKind.decode true, field "text" decodeString true] json
  return ⟨← required "kind" MessageKind.decode members, ← required "text" decodeString members⟩

def encodeExitCode : Option Int → Json
  | some code => .integer code
  | none => .null

def decodeExitCode : Decoder (Option Int) :=
  decodeOption (decodeInteger (-2147483648) 2147483647 "i32")

def Report.encode? (report : Report) : Option Json := do
  let path ← report.outputPath.encode?
  return .object [("output_path", path), ("exit_code", encodeExitCode report.exitCode),
    ("messages", .array (report.messages.map Message.encode)),
    ("other_output", .array (report.otherOutput.map .string))]

def Report.decode : Decoder Report := fun json => do
  let messages := decodeList Message.decode
  let members ← decodeRecord "struct CompileReport"
    [field "output_path" Path.decode true, field "exit_code" decodeExitCode false,
      field "messages" messages true, field "other_output" (decodeList decodeString) true] json
  return ⟨← required "output_path" Path.decode members,
    ← optional "exit_code" decodeExitCode none members, ← required "messages" messages members,
    ← required "other_output" (decodeList decodeString) members⟩

end Compiler

end InkProject
