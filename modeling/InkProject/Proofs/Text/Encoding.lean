import InkProject.FileName
set_option autoImplicit false

namespace InkProject

namespace Utf8

theorem ofString_append (a b : String) : ofString (a ++ b) = ofString a ++ ofString b := by
  simp [ofString, encode]

theorem ofString_injective (a b : String) (same : ofString a = ofString b) : a = b := by
  apply String.toByteArray_inj.mp
  rw [← String.utf8Encode_toList, ← String.utf8Encode_toList, List.utf8Encode, List.utf8Encode]
  exact congrArg List.toByteArray same

theorem ofString_eq_nil (text : String) : ofString text = [] ↔ text = "" :=
  ⟨ofString_injective text "", fun empty => empty ▸ rfl⟩

-- Only characters below 128 are written with bytes below 128, each as itself.
theorem ascii_mem_encodeChar (byte : UInt8) (ascii : byte.toNat < 128) (char : Char) :
    byte ∈ String.utf8EncodeChar char ↔ char.toNat = byte.toNat := by
  rw [String.utf8EncodeChar, Char.toNat]
  generalize char.val.toNat = value
  split
  · rw [List.mem_singleton, ← UInt8.toNat_inj, UInt8.toNat_ofNat']
    omega
  split
  · simp only [List.mem_cons, List.not_mem_nil, or_false, ← UInt8.toNat_inj, UInt8.toNat_ofNat']
    omega
  split
  · simp only [List.mem_cons, List.not_mem_nil, or_false, ← UInt8.toNat_inj, UInt8.toNat_ofNat']
    omega
  · simp only [List.mem_cons, List.not_mem_nil, or_false, ← UInt8.toNat_inj, UInt8.toNat_ofNat']
    omega

theorem slash_mem_encodeChar (char : Char) : Path.slash ∈ String.utf8EncodeChar char ↔ char = '/' := by
  rw [ascii_mem_encodeChar Path.slash (by decide) char, ← Char.toNat_inj]
  rfl

theorem slash_mem_ofString (text : String) : Path.slash ∈ ofString text ↔ '/' ∈ text.toList := by
  simp [ofString, encode, slash_mem_encodeChar]

end Utf8

namespace FileName

theorem bytes_filled (name : FileName) : name.bytes ≠ [] :=
  fun empty => name.valid.1 ((Utf8.ofString_eq_nil name.text).mp empty)

theorem bytes_single (name : FileName) : Path.slash ∉ name.bytes := by
  rw [bytes, Utf8.slash_mem_ofString]
  exact fun member => (name.valid.2 '/' member).1 rfl

end FileName

end InkProject
