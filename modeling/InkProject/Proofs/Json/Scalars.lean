import InkProject.Json.Read
import InkProject.Json.Write
set_option autoImplicit false

namespace InkProject.Json

theorem hex4_control : ∀ unit < 32, hex4 '0' '0' (Nat.digitChar (unit / 16 % 16)) (Nat.digitChar (unit % 16)) = some unit := by
  decide

theorem stringFrom_control (read rest : List Char) (char : Char) (low : char < ' ') :
    stringFrom read ('\\' :: 'u' :: '0' :: '0' :: (hexPair char.toNat ++ rest)) = stringFrom (char :: read) rest := by
  have small : char.toNat < 32 := low
  have plain : isLowSurrogate char.toNat = false ∧ isHighSurrogate char.toNat = false := by
    simp only [isLowSurrogate, isHighSurrogate, Bool.and_eq_false_iff, decide_eq_false_iff_not]
    omega
  rw [hexPair, List.cons_append, List.cons_append, List.nil_append, stringFrom.eq_def]
  dsimp only
  rw [if_neg (by decide), if_pos rfl, if_pos rfl]
  simp only [hex4_control char.toNat small, plain.1, plain.2, Bool.false_eq_true, if_false, Char.ofNat_toNat]

theorem stringFrom_escape (read rest : List Char) (escaped meant : Char) (simple : escaped ≠ 'u')
    (plain : plainEscape? escaped = some meant) :
    stringFrom read ('\\' :: escaped :: rest) = stringFrom (meant :: read) rest := by
  rw [stringFrom.eq_def]
  dsimp only
  rw [if_neg (by decide), if_pos rfl, if_neg simple, plain]

theorem stringFrom_plain (read rest : List Char) (char : Char) (quote : char ≠ '"') (slash : char ≠ '\\')
    (low : ¬ char < ' ') : stringFrom read (char :: rest) = stringFrom (char :: read) rest := by
  rw [stringFrom.eq_def]
  dsimp only
  rw [if_neg quote, if_neg slash, if_neg low]

theorem stringFrom_escapeChar (read rest : List Char) (char : Char) :
    stringFrom read (escapeChar char ++ rest) = stringFrom (char :: read) rest := by
  by_cases simple : char ∈ ['"', '\\', '\x08', '\x0c', '\n', '\r', '\t']
  · simp only [List.mem_cons, List.not_mem_nil, or_false] at simple
    rcases simple with rfl | rfl | rfl | rfl | rfl | rfl | rfl <;> exact stringFrom_escape _ _ _ _ (by decide) rfl
  · simp only [List.mem_cons, List.not_mem_nil, or_false, not_or] at simple
    obtain ⟨quote, slash, back, feed, line, home, tab⟩ := simple
    rw [escapeChar, if_neg quote, if_neg slash, if_neg back, if_neg feed, if_neg line, if_neg home, if_neg tab]
    by_cases low : char < ' '
    · rw [if_pos low]
      exact stringFrom_control read rest char low
    · rw [if_neg low]
      exact stringFrom_plain read rest char quote slash low

theorem stringFrom_escapeAll (text read rest : List Char) :
    stringFrom read (escapeAll text ('"' :: rest)) = .ok (String.ofList (read.reverse ++ text), rest) := by
  induction text generalizing read with
  | nil =>
    rw [escapeAll, stringFrom.eq_def, List.append_nil]
    exact if_pos rfl
  | cons char text ih =>
    rw [escapeAll, stringFrom_escapeChar, ih, List.reverse_cons, List.append_assoc, List.singleton_append]

theorem stringFrom_text (text : String) (rest : List Char) :
    stringFrom [] (escapeAll text.toList ('"' :: rest)) = .ok (text, rest) := by
  rw [stringFrom_escapeAll, List.reverse_nil, List.nil_append, String.ofList_toList]

def Closed (rest : List Char) : Prop := ∀ char ∈ rest.head?, char = ',' ∨ char = ']' ∨ char = '}'

theorem afterInteger_closed (negative : Bool) (significand : Nat) {rest : List Char} (closed : Closed rest) :
    afterInteger negative significand rest = .ok (whole negative significand, rest) := by
  cases rest with
  | nil => rfl
  | cons char rest => rcases closed char rfl with rfl | rfl | rfl <;> rfl

theorem integerDigits_digits (negative : Bool) (digits : List Char) {rest : List Char} (significand : Nat)
    (all : ∀ char ∈ digits, isDigit char = true) (bound : Nat.ofDigitChars 10 digits significand ≤ greatest)
    (closed : Closed rest) : integerDigits negative significand (digits ++ rest) =
      .ok (whole negative (Nat.ofDigitChars 10 digits significand), rest) := by
  induction digits generalizing significand with
  | nil =>
    rw [List.nil_append, Nat.ofDigitChars_nil, ← afterInteger_closed _ _ closed]
    cases rest with
    | nil => rfl
    | cons char rest => rcases closed char rfl with rfl | rfl | rfl <;> rfl
  | cons char digits ih =>
    have digit := all char List.mem_cons_self
    have next : Nat.ofDigitChars 10 (char :: digits) significand =
        Nat.ofDigitChars 10 digits (significand * 10 + digitValue char) := by
      rw [Nat.ofDigitChars_cons, Nat.mul_comm]
      rfl
    have fits : ¬ greatest < ((significand * 10 + digitValue char : Nat) : Int) := by
      have more : significand * 10 + digitValue char ≤ Nat.ofDigitChars 10 (char :: digits) significand := by
        rw [next, Nat.ofDigitChars_eq_ofDigitChars_zero]
        have power : 0 < 10 ^ digits.length := Nat.pow_pos (by decide)
        exact Nat.le_trans (Nat.le_mul_of_pos_left _ power) (Nat.le_add_right _ _)
      omega
    rw [next] at bound ⊢
    rw [List.cons_append, integerDigits, if_pos digit]
    simp only [if_neg fits]
    exact ih _ (fun other inside => all other (List.mem_cons_of_mem _ inside)) bound

theorem isDigit_toDigits {n : Nat} {char : Char} (member : char ∈ Nat.toDigits 10 n) : isDigit char = true :=
  Nat.isDigit_of_mem_toDigits (by decide) (by decide) member

theorem toDigits_head {n : Nat} (positive : 0 < n) : ∃ char rest, Nat.toDigits 10 n = char :: rest ∧ char ≠ '0' := by
  induction n using Nat.strongRecOn with
  | ind n ih =>
    by_cases small : n < 10
    · refine ⟨_, [], Nat.toDigits_of_lt_base small, ?_⟩
      have digits : ∀ digit < 10, 0 < digit → Nat.digitChar digit ≠ '0' := by decide
      exact digits n small positive
    · obtain ⟨char, rest, same, different⟩ := ih (n / 10) (by omega) (by omega)
      refine ⟨char, rest ++ [Nat.digitChar (n % 10)], ?_, different⟩
      rw [Nat.toDigits_of_base_le (by decide) (by omega), same, List.cons_append]

theorem number_toDigits (negative : Bool) (n : Nat) {rest : List Char} (bound : n ≤ greatest) (closed : Closed rest) :
    number negative (Nat.toDigits 10 n ++ rest) = .ok (whole negative n, rest) := by
  rcases Nat.eq_zero_or_pos n with rfl | positive
  · rw [Nat.toDigits_zero, List.singleton_append, ← afterInteger_closed negative 0 closed]
    cases rest with
    | nil => rfl
    | cons char rest => rcases closed char rfl with rfl | rfl | rfl <;> rfl
  · obtain ⟨char, digits, same, different⟩ := toDigits_head positive
    have all : ∀ other ∈ char :: digits, isDigit other = true := by
      intro other member
      rw [← same] at member
      exact isDigit_toDigits member
    have total : Nat.ofDigitChars 10 digits (digitValue char) = n := by
      have read : Nat.ofDigitChars 10 (Nat.toDigits 10 n) 0 = n := Nat.ofDigitChars_ten_toDigits
      rwa [same, Nat.ofDigitChars_cons, Nat.mul_zero, Nat.zero_add] at read
    rw [same, List.cons_append, number.eq_def]
    dsimp only
    rw [if_neg different, if_pos (all char List.mem_cons_self)]
    have read := integerDigits_digits negative digits (digitValue char)
      (fun other inside => all other (List.mem_cons_of_mem _ inside)) (by rwa [total]) closed
    rwa [total] at read

end InkProject.Json
