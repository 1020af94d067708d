import InkProject.Path.Basic
set_option autoImplicit false

namespace InkProject

def FileName.Valid (text : String) : Prop :=
  text ≠ "" ∧ ∀ char ∈ text.toList, char ≠ '/' ∧ char ≠ '\\'

instance (text : String) : Decidable (FileName.Valid text) :=
  @instDecidableAnd _ _ inferInstance (List.decidableBAll _ _)

structure FileName where
  text : String
  valid : FileName.Valid text
deriving DecidableEq

namespace FileName

def ofString? (text : String) : Option FileName :=
  if valid : Valid text then some ⟨text, valid⟩ else none

def bytes (name : FileName) : Bytes := Utf8.ofString name.text

def pending (name : FileName) (suffix : String) : String := name.text ++ suffix

theorem ofString?_text (name : FileName) : ofString? name.text = some name := by
  simp [ofString?, name.valid]

theorem ofString?_eq_some_iff (text : String) (name : FileName) :
    ofString? text = some name ↔ name.text = text := by
  constructor
  · intro h
    simp only [ofString?] at h
    split at h
    · cases h; rfl
    · cases h
  · rintro rfl
    exact ofString?_text name

end FileName

end InkProject
