import InkProject.Text.Utf8
/- Paths as byte strings, and their parts. Repeated slashes, a slash at the end and a
   dot that is not the first part say nothing; two dots do. -/
set_option autoImplicit false

namespace InkProject

structure Path where
  bytes : Bytes
deriving DecidableEq, Repr

namespace Path

def slash : UInt8 := 0x2F
def dot : Bytes := [0x2E]
def dots : Bytes := [0x2E, 0x2E]

def ofString (text : String) : Path := ⟨Utf8.ofString text⟩

def display (path : Path) : String := Utf8.lossyText path.bytes
def text? (path : Path) : Option String := Utf8.text? path.bytes

def segments : Bytes → List Bytes
  | [] => [[]]
  | byte :: rest =>
    if byte = slash then [] :: segments rest
    else match segments rest with
      | [] => [[byte]]
      | segment :: others => (byte :: segment) :: others

def glue : List Bytes → Bytes
  | [] => []
  | [segment] => segment
  | segment :: others => segment ++ slash :: glue others

def isAbsolute (path : Path) : Bool := path.bytes.head? = some slash
def endsInSlash (path : Path) : Bool := path.bytes.getLast? = some slash

inductive Part where
  | root
  | here
  | up
  | name (bytes : Bytes)
deriving DecidableEq, Repr

structure Anatomy where
  head : Option Part
  body : List Bytes
deriving DecidableEq, Repr

def anatomy (path : Path) : Anatomy :=
  match path.bytes with
  | [] => ⟨none, []⟩
  | byte :: rest =>
    if byte = slash then ⟨some .root, segments rest⟩
    else match segments path.bytes with
      | first :: others => if first = dot then ⟨some .here, others⟩ else ⟨none, first :: others⟩
      | [] => ⟨none, []⟩

def isVoid (segment : Bytes) : Bool := segment = [] || segment = dot

def bodyPart? (segment : Bytes) : Option Part :=
  if isVoid segment then none
  else if segment = dots then some .up
  else some (.name segment)

def parts (path : Path) : List Part :=
  let whole := path.anatomy
  whole.head.toList ++ whole.body.filterMap bodyPart?

def trimEnd (body : List Bytes) : List Bytes := (body.reverse.dropWhile isVoid).reverse

def Anatomy.path (whole : Anatomy) : Path :=
  match whole.head with
  | some .root => ⟨slash :: glue whole.body⟩
  | some _ => ⟨if whole.body.isEmpty then dot else dot ++ slash :: glue whole.body⟩
  | none => ⟨glue whole.body⟩

def trimmed (path : Path) : Path :=
  let whole := path.anatomy
  Anatomy.path ⟨whole.head, trimEnd whole.body⟩

def fileName? (path : Path) : Option Bytes :=
  match (trimEnd path.anatomy.body).getLast? with
  | some segment => if segment = dots then none else some segment
  | none => none

def parent? (path : Path) : Option Path :=
  let whole := path.anatomy
  match trimEnd whole.body with
  | [] => match whole.head with
    | some .here => some ⟨[]⟩
    | _ => none
  | body => some (Anatomy.path ⟨whole.head, trimEnd body.dropLast⟩)

def join (path other : Path) : Path :=
  if other.isAbsolute then other
  else if path.bytes = [] ∨ path.endsInSlash then ⟨path.bytes ++ other.bytes⟩
  else ⟨path.bytes ++ slash :: other.bytes⟩

def child (path : Path) (name : Bytes) : Path := path.join ⟨name⟩
def childNamed (path : Path) (name : String) : Path := path.join (ofString name)

def withFileName (path : Path) (name : Bytes) : Path :=
  match path.fileName?, path.parent? with
  | some _, some parent => parent.child name
  | _, _ => path.child name

def splitName (name : Bytes) : Bytes × Option Bytes :=
  let after := (name.reverse.takeWhile (· ≠ 0x2E)).reverse
  let before := name.take (name.length - after.length - 1)
  if after.length = name.length ∨ before = [] then (name, none) else (before, some after)

def extension? (path : Path) : Option Bytes := path.fileName?.bind fun name => (splitName name).2

def setExtension (path : Path) (extension : Bytes) : Path :=
  match path.fileName? with
  | none => path
  | some name =>
    let stem := (splitName name).1
    let whole := path.trimmed.bytes
    ⟨whole.take (whole.length - (name.length - stem.length)) ++ 0x2E :: extension⟩

def withExtension (path : Path) (extension : Bytes) : Path :=
  let kept := match path.extension? with
    | none => path.bytes
    | some old => path.bytes.take (path.bytes.length - old.length)
  setExtension ⟨kept⟩ extension

def dropParts : Nat → List Bytes → List Bytes
  | 0, body => body
  | count + 1, body => dropParts count ((body.dropWhile isVoid).drop 1)

-- What is left of a path inside the root; nothing is changed by a root without parts.
def relativeTo? (path root : Path) : Option Path :=
  let whole := path.anatomy
  let count := root.parts.length
  if root.parts.isPrefixOf path.parts then
    if count = 0 then some path.trimmed
    else
      let body := dropParts (count - whole.head.toList.length) whole.body
      some ⟨glue (trimEnd (body.dropWhile isVoid))⟩
  else none

def Part.key : Part → Bytes
  | .root => [0]
  | .here => [1]
  | .up => [2]
  | .name bytes => 3 :: bytes

def key (path : Path) : List Bytes := path.parts.map Part.key

theorem segments_ne_nil (bytes : Bytes) : segments bytes ≠ [] := by
  cases bytes with
  | nil => simp [segments]
  | cons byte rest =>
    simp only [segments]
    split
    · simp
    · split <;> simp

theorem glue_segments (bytes : Bytes) : glue (segments bytes) = bytes := by
  induction bytes with
  | nil => rfl
  | cons byte rest ih =>
    simp only [segments]
    cases split : segments rest with
    | nil => exact absurd split (segments_ne_nil rest)
    | cons segment others =>
      rw [split] at ih
      by_cases same : byte = slash
      · simp [same, glue, ih]
      · cases others <;> simp_all [glue]

end Path

end InkProject
