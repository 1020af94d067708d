import InkProject.Json.Decode
import InkProject.Json.Read
import InkProject.Story.Error
set_option autoImplicit false

namespace InkProject.Story

structure Versions where
  format : Format
  key : String
  least : Int
  greatest : Int

def storyVersions : Versions := ⟨.story, "inkVersion", 18, 21⟩
def stateVersions : Versions := ⟨.state, "inkSaveVersion", 8, 10⟩

def Versions.malformed {α : Type} (versions : Versions) (fault : SyntaxFault) : Except EngineError α :=
  .error (.malformed versions.format fault)

def Versions.shaped {α : Type} (versions : Versions) (decoded : Except Shape.Mismatch α) :
    Except EngineError α :=
  decoded.mapError fun mismatch => .malformed versions.format (.shape mismatch)

def Versions.read (versions : Versions) (text : String) : Except EngineError (Int × Table Json) :=
  match Json.parse text with
  | .error message => versions.malformed (.notJson message)
  | .ok (.object members) => match (Table.find? versions.key members).bind Json.signed? with
    | none => versions.malformed (.noVersion versions.key)
    | some version =>
      if versions.least ≤ version ∧ version ≤ versions.greatest then .ok (version, members)
      else .error (.unsupported versions.format version versions.least versions.greatest)
  | .ok _ => versions.malformed .notObject

end InkProject.Story
