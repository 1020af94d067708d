import InkProject.Proofs.Text.Encoding
import Mathlib.Tactic.SplitIfs
/- Bytes as text again: what was written as text is read back, and whatever is read as text was written so. -/
set_option autoImplicit false

namespace InkProject.Utf8

section

variable {byte : UInt8}

theorem le_iff (a b : UInt8) : a ≤ b ↔ a.toNat ≤ b.toNat := UInt8.le_iff_toNat_le

theorem eq_iff (a b : UInt8) : a = b ↔ a.toNat = b.toNat := UInt8.toNat_inj.symm

theorem sub_value (mark : UInt8) (low : mark.toNat ≤ byte.toNat) : (byte - mark).toNat = byte.toNat - mark.toNat :=
  UInt8.toNat_sub_of_le _ _ ((le_iff _ _).mpr low)

theorem lead_eq (byte : UInt8) : lead byte =
    if 194 ≤ byte.toNat ∧ byte.toNat ≤ 223 then some ⟨[byte], byte.toNat - 192, 1, 0x80, 0xBF⟩
    else if byte.toNat = 224 then some ⟨[byte], byte.toNat - 224, 2, 0xA0, 0xBF⟩
    else if byte.toNat = 237 then some ⟨[byte], byte.toNat - 224, 2, 0x80, 0x9F⟩
    else if 225 ≤ byte.toNat ∧ byte.toNat ≤ 239 then some ⟨[byte], byte.toNat - 224, 2, 0x80, 0xBF⟩
    else if byte.toNat = 240 then some ⟨[byte], byte.toNat - 240, 3, 0x90, 0xBF⟩
    else if 241 ≤ byte.toNat ∧ byte.toNat ≤ 243 then some ⟨[byte], byte.toNat - 240, 3, 0x80, 0xBF⟩
    else if byte.toNat = 244 then some ⟨[byte], byte.toNat - 240, 3, 0x80, 0x8F⟩
    else none := by
  have two (low : 194 ≤ byte.toNat) : (byte - 0xC0).toNat = byte.toNat - 192 :=
    sub_value 0xC0 (show 192 ≤ byte.toNat by omega)
  have three (low : 224 ≤ byte.toNat) : (byte - 0xE0).toNat = byte.toNat - 224 := sub_value 0xE0 low
  have four (low : 240 ≤ byte.toNat) : (byte - 0xF0).toNat = byte.toNat - 240 := sub_value 0xF0 low
  simp only [lead, le_iff, eq_iff]
  refine ite_congr rfl (fun range => by rw [two range.1]) fun _ => ?_
  refine ite_congr rfl (fun same => by rw [same]; rfl) fun _ => ?_
  refine ite_congr rfl (fun same => by rw [three (by rw [same]; decide)]) fun _ => ?_
  refine ite_congr rfl (fun range => by rw [three (Nat.le_trans (by decide) range.1)]) fun _ => ?_
  refine ite_congr rfl (fun same => by rw [same]; rfl) fun _ => ?_
  refine ite_congr rfl (fun range => by rw [four (Nat.le_trans (by decide) range.1)]) fun _ => ?_
  exact ite_congr rfl (fun same => by rw [four (by rw [same]; decide)]) fun _ => rfl

theorem lead_two (low : 194 ≤ byte.toNat) (high : byte.toNat ≤ 223) :
    lead byte = some ⟨[byte], byte.toNat - 192, 1, 0x80, 0xBF⟩ := by
  rw [lead_eq, if_pos ⟨low, high⟩]

-- The byte after the lead has a range of its own, which rules out what fewer bytes can write, and the surrogates.
theorem lead_three (low : 224 ≤ byte.toNat) (high : byte.toNat ≤ 239) : ∃ first last,
    lead byte = some ⟨[byte], byte.toNat - 224, 2, first, last⟩ ∧
      ∀ next : UInt8, first ≤ next ∧ next ≤ last ↔ (128 ≤ next.toNat ∧ next.toNat ≤ 191) ∧
        (byte.toNat = 224 → 160 ≤ next.toNat) ∧ (byte.toNat = 237 → next.toNat ≤ 159) := by
  simp only [lead_eq, le_iff]
  rw [if_neg (by omega)]
  by_cases least : byte.toNat = 224
  · refine ⟨0xA0, 0xBF, if_pos least, fun next => ?_⟩
    show 160 ≤ next.toNat ∧ next.toNat ≤ 191 ↔ _
    omega
  rw [if_neg least]
  by_cases surrogate : byte.toNat = 237
  · refine ⟨0x80, 0x9F, if_pos surrogate, fun next => ?_⟩
    show 128 ≤ next.toNat ∧ next.toNat ≤ 159 ↔ _
    omega
  · refine ⟨0x80, 0xBF, by rw [if_neg surrogate, if_pos (by omega)], fun next => ?_⟩
    show 128 ≤ next.toNat ∧ next.toNat ≤ 191 ↔ _
    omega

theorem lead_four (low : 240 ≤ byte.toNat) (high : byte.toNat ≤ 244) : ∃ first last,
    lead byte = some ⟨[byte], byte.toNat - 240, 3, first, last⟩ ∧
      ∀ next : UInt8, first ≤ next ∧ next ≤ last ↔ (128 ≤ next.toNat ∧ next.toNat ≤ 191) ∧
        (byte.toNat = 240 → 144 ≤ next.toNat) ∧ (byte.toNat = 244 → next.toNat ≤ 143) := by
  simp only [lead_eq, le_iff]
  rw [if_neg (by omega), if_neg (by omega), if_neg (by omega), if_neg (by omega)]
  by_cases least : byte.toNat = 240
  · refine ⟨0x90, 0xBF, if_pos least, fun next => ?_⟩
    show 144 ≤ next.toNat ∧ next.toNat ≤ 191 ↔ _
    omega
  rw [if_neg least]
  by_cases last : byte.toNat = 244
  · refine ⟨0x80, 0x8F, by rw [if_neg (by omega), if_pos last], fun next => ?_⟩
    show 128 ≤ next.toNat ∧ next.toNat ≤ 143 ↔ _
    omega
  · refine ⟨0x80, 0xBF, if_pos (by omega), fun next => ?_⟩
    show 128 ≤ next.toNat ∧ next.toNat ≤ 191 ↔ _
    omega

theorem lead_range {opened : Open} (led : lead byte = some opened) : 194 ≤ byte.toNat ∧ byte.toNat ≤ 244 := by
  rw [lead_eq] at led
  refine Classical.byContradiction fun outside => ?_
  rw [if_neg (by omega), if_neg (by omega), if_neg (by omega), if_neg (by omega), if_neg (by omega), if_neg (by omega),
    if_neg (by omega)] at led
  cases led

end

def Tail (byte : UInt8) : Prop := 128 ≤ byte.toNat ∧ byte.toNat ≤ 191

theorem tail_iff {byte : UInt8} : 0x80 ≤ byte ∧ byte ≤ 0xBF ↔ Tail byte := by
  rw [le_iff, le_iff]
  rfl

section

variable {byte : UInt8} {seen rest : Bytes} {payload wanted : Nat} {first last : UInt8}

theorem piecesFrom_more (inside : first ≤ byte ∧ byte ≤ last) (tail : Tail byte) (more : ¬ wanted ≤ 1) :
    piecesFrom (some ⟨seen, payload, wanted, first, last⟩) (byte :: rest) =
      piecesFrom (some ⟨seen ++ [byte], payload * 64 + (byte.toNat - 128), wanted - 1, 0x80, 0xBF⟩) rest := by
  have value : (byte - 0x80).toNat = byte.toNat - 128 := sub_value 0x80 tail.1
  rw [piecesFrom, step, if_pos inside, value]
  dsimp only
  rw [if_neg more]
  rfl

theorem piecesFrom_last (tail : Tail byte) : piecesFrom (some ⟨seen, payload, 1, 0x80, 0xBF⟩) (byte :: rest) =
    .scalar (Char.ofNat (payload * 64 + (byte.toNat - 128))) :: pieces rest := by
  have value : (byte - 0x80).toNat = byte.toNat - 128 := sub_value 0x80 tail.1
  rw [piecesFrom, step, if_pos (tail_iff.mpr tail), value]
  rfl

theorem piecesFrom_lead {opened : Open} (led : lead byte = some opened) :
    piecesFrom none (byte :: rest) = piecesFrom (some opened) rest := by
  have range := lead_range led
  rw [piecesFrom, step, begin, if_neg (by rw [UInt8.lt_iff_toNat_lt]; exact Nat.not_lt.mpr (Nat.le_trans (by decide) range.1)),
    led]
  rfl

end

inductive Spelled : Bytes → Nat → Prop where
  | one {a : UInt8} (low : a.toNat < 128) : Spelled [a] a.toNat
  | two {a b : UInt8} (low : 194 ≤ a.toNat) (high : a.toNat ≤ 223) (second : Tail b) :
    Spelled [a, b] ((a.toNat - 192) * 64 + (b.toNat - 128))
  | three {a b c : UInt8} (low : 224 ≤ a.toNat) (high : a.toNat ≤ 239) (second : Tail b)
    (long : a.toNat = 224 → 160 ≤ b.toNat) (whole : a.toNat = 237 → b.toNat ≤ 159) (third : Tail c) :
    Spelled [a, b, c] (((a.toNat - 224) * 64 + (b.toNat - 128)) * 64 + (c.toNat - 128))
  | four {a b c d : UInt8} (low : 240 ≤ a.toNat) (high : a.toNat ≤ 244) (second : Tail b)
    (long : a.toNat = 240 → 144 ≤ b.toNat) (bounded : a.toNat = 244 → b.toNat ≤ 143) (third : Tail c) (fourth : Tail d) :
    Spelled [a, b, c, d]
      ((((a.toNat - 240) * 64 + (b.toNat - 128)) * 64 + (c.toNat - 128)) * 64 + (d.toNat - 128))

section

variable {bytes : Bytes} {number : Nat}

theorem Spelled.pieces (spelled : Spelled bytes number) (rest : Bytes) :
    Utf8.pieces (bytes ++ rest) = .scalar (Char.ofNat number) :: Utf8.pieces rest := by
  cases spelled with
  | one low =>
    rw [List.singleton_append, Utf8.pieces, piecesFrom, step, begin, if_pos (UInt8.lt_iff_toNat_lt.mpr low)]
    rfl
  | two low high second =>
    rw [Utf8.pieces, List.cons_append, piecesFrom_lead (lead_two low high), List.singleton_append, piecesFrom_last second]
  | three low high second long whole third =>
    obtain ⟨first, last, led, range⟩ := lead_three low high
    simp only [List.cons_append, List.nil_append]
    rw [Utf8.pieces, piecesFrom_lead led, piecesFrom_more ((range _).mpr ⟨second, long, whole⟩) second (by decide),
      piecesFrom_last third]
  | four low high second long bounded third fourth =>
    obtain ⟨first, last, led, range⟩ := lead_four low high
    simp only [List.cons_append, List.nil_append]
    rw [Utf8.pieces, piecesFrom_lead led, piecesFrom_more ((range _).mpr ⟨second, long, bounded⟩) second (by decide),
      piecesFrom_more (tail_iff.mpr third) third (by decide), piecesFrom_last fourth]

theorem encodeChar_number (valid : number.isValidChar) : String.utf8EncodeChar (Char.ofNat number) =
    if number ≤ 127 then [UInt8.ofNat number]
    else if number ≤ 2047 then [UInt8.ofNat (number / 64 % 32 + 192), UInt8.ofNat (number % 64 + 128)]
    else if number ≤ 65535 then [UInt8.ofNat (number / 4096 % 16 + 224), UInt8.ofNat (number / 64 % 64 + 128),
      UInt8.ofNat (number % 64 + 128)]
    else [UInt8.ofNat (number / 262144 % 8 + 240), UInt8.ofNat (number / 4096 % 64 + 128),
      UInt8.ofNat (number / 64 % 64 + 128), UInt8.ofNat (number % 64 + 128)] := by
  have value : (Char.ofNat number).val.toNat = number := by
    rw [Char.ofNat, dif_pos valid]
    rfl
  rw [String.utf8EncodeChar, value]

theorem byte_eq {byte : UInt8} (same : number = byte.toNat) : UInt8.ofNat number = byte := by
  rw [same, UInt8.ofNat_toNat]

theorem Spelled.encode (spelled : Spelled bytes number) : String.utf8EncodeChar (Char.ofNat number) = bytes := by
  cases spelled with
  | @one a low =>
    rw [encodeChar_number (.inl (by omega)), if_pos (by omega), byte_eq rfl]
  | @two a b low high second =>
    obtain ⟨tail, least⟩ := second
    rw [encodeChar_number (.inl (by omega)), if_neg (by omega), if_pos (by omega), byte_eq, byte_eq] <;> omega
  | @three a b c low high second long whole third =>
    obtain ⟨secondLeast, secondGreatest⟩ := second
    obtain ⟨thirdLeast, thirdGreatest⟩ := third
    rw [encodeChar_number (by rw [Nat.isValidChar]; omega), if_neg (by omega), if_neg (by omega), if_pos (by omega), byte_eq,
      byte_eq, byte_eq] <;> omega
  | @four a b c d low high second long bounded third fourth =>
    obtain ⟨secondLeast, secondGreatest⟩ := second
    obtain ⟨thirdLeast, thirdGreatest⟩ := third
    obtain ⟨fourthLeast, fourthGreatest⟩ := fourth
    rw [encodeChar_number (by rw [Nat.isValidChar]; omega), if_neg (by omega), if_neg (by omega), if_neg (by omega), byte_eq,
      byte_eq, byte_eq, byte_eq] <;> omega

theorem ofNat_value {number : Nat} (small : number < 256) : (UInt8.ofNat number).toNat = number := by
  rw [UInt8.toNat_ofNat', Nat.mod_eq_of_lt small]

theorem tail_ofNat (number : Nat) : Tail (UInt8.ofNat (number % 64 + 128)) := by
  rw [Tail, ofNat_value (by omega)]
  omega

theorem Spelled.same {other : Nat} (spelled : Spelled bytes other) (same : other = number) : Spelled bytes number :=
  same ▸ spelled

theorem encodeChar_spelled (char : Char) : Spelled (String.utf8EncodeChar char) char.toNat := by
  have valid := char.valid
  rw [UInt32.isValidChar, Nat.isValidChar] at valid
  rw [String.utf8EncodeChar, Char.toNat]
  generalize char.val.toNat = value at valid
  split
  · have a := ofNat_value (show value < 256 by omega)
    exact (Spelled.one (by omega)).same a
  split
  · have a := ofNat_value (show value / 64 % 32 + 192 < 256 by omega)
    have b := ofNat_value (show value % 64 + 128 < 256 by omega)
    exact (Spelled.two (by omega) (by omega) (tail_ofNat _)).same (by omega)
  split
  · have a := ofNat_value (show value / 4096 % 16 + 224 < 256 by omega)
    have b := ofNat_value (show value / 64 % 64 + 128 < 256 by omega)
    have c := ofNat_value (show value % 64 + 128 < 256 by omega)
    exact (Spelled.three (by omega) (by omega) (tail_ofNat _) (by omega) (by omega) (tail_ofNat _)).same (by omega)
  · have a := ofNat_value (show value / 262144 % 8 + 240 < 256 by omega)
    have b := ofNat_value (show value / 4096 % 64 + 128 < 256 by omega)
    have c := ofNat_value (show value / 64 % 64 + 128 < 256 by omega)
    have d := ofNat_value (show value % 64 + 128 < 256 by omega)
    exact (Spelled.four (by omega) (by omega) (tail_ofNat _) (by omega) (by omega) (tail_ofNat _) (tail_ofNat _)).same
      (by omega)

end

section

variable {bytes rest : Bytes} {text : List Char} {opened : Open} {a : UInt8}

theorem scalars_eq_some (pieces : List Piece) (text : List Char) :
    pieces.mapM Piece.scalar? = some text ↔ pieces = text.map Piece.scalar := by
  induction pieces generalizing text with
  | nil => cases text <;> simp
  | cons piece pieces ih =>
    cases piece with
    | scalar char =>
      have step : (Piece.scalar char :: pieces).mapM Piece.scalar? = (pieces.mapM Piece.scalar?).map (char :: ·) := by
        rw [List.mapM_cons]
        cases pieces.mapM Piece.scalar? <;> rfl
      rw [step, Option.map_eq_some_iff]
      simp only [ih]
      constructor
      · intro found
        obtain ⟨rest, same, rfl⟩ := found
        rw [same, List.map_cons]
      · intro same
        obtain ⟨first, rest, rfl, head, tail⟩ := List.map_eq_cons_iff.mp same.symm
        cases head
        exact ⟨rest, tail.symm, rfl⟩
    | broken bytes => cases text <;> simp [List.mapM_cons, Piece.scalar?]

theorem unbroken_next (unbroken : piecesFrom (some opened) bytes = text.map Piece.scalar) :
    ∃ byte rest, bytes = byte :: rest ∧ opened.low ≤ byte ∧ byte ≤ opened.high := by
  cases bytes with
  | nil => cases text <;> cases unbroken
  | cons byte rest =>
    refine ⟨byte, rest, rfl, Classical.byContradiction fun outside => ?_⟩
    rw [piecesFrom, step, if_neg outside] at unbroken
    cases text <;> cases unbroken

theorem unbroken_spelled (unbroken : pieces (a :: rest) = text.map Piece.scalar) :
    ∃ front left number, a :: rest = front ++ left ∧ Spelled front number := by
  by_cases ascii : a.toNat < 128
  · exact ⟨[a], rest, _, rfl, .one ascii⟩
  cases led : lead a with
  | none =>
    rw [pieces, piecesFrom, step, begin, if_neg (mt UInt8.lt_iff_toNat_lt.mp ascii), led] at unbroken
    cases text <;> cases unbroken
  | some opened =>
    obtain ⟨low, high⟩ := lead_range led
    by_cases two : a.toNat ≤ 223
    · rw [pieces, piecesFrom_lead (lead_two low two)] at unbroken
      obtain ⟨b, rest, rfl, second⟩ := unbroken_next unbroken
      exact ⟨[a, b], rest, _, rfl, .two low two (tail_iff.mp second)⟩
    by_cases three : a.toNat ≤ 239
    · obtain ⟨first, last, led, range⟩ := lead_three (by omega) three
      rw [pieces, piecesFrom_lead led] at unbroken
      obtain ⟨b, rest, rfl, inside⟩ := unbroken_next unbroken
      obtain ⟨second, long, whole⟩ := (range b).mp inside
      rw [piecesFrom_more inside second (by decide)] at unbroken
      obtain ⟨c, rest, rfl, third⟩ := unbroken_next unbroken
      exact ⟨[a, b, c], rest, _, rfl, .three (by omega) three second long whole (tail_iff.mp third)⟩
    · obtain ⟨first, last, led, range⟩ := lead_four (by omega) high
      rw [pieces, piecesFrom_lead led] at unbroken
      obtain ⟨b, rest, rfl, inside⟩ := unbroken_next unbroken
      obtain ⟨second, long, bounded⟩ := (range b).mp inside
      rw [piecesFrom_more inside second (by decide)] at unbroken
      obtain ⟨c, rest, rfl, third⟩ := unbroken_next unbroken
      rw [piecesFrom_more third (tail_iff.mp third) (by decide)] at unbroken
      obtain ⟨d, rest, rfl, fourth⟩ := unbroken_next unbroken
      exact ⟨[a, b, c, d], rest, _, rfl,
        .four (by omega) high second long bounded (tail_iff.mp third) (tail_iff.mp fourth)⟩

theorem pieces_encode (text : List Char) : pieces (encode text) = text.map Piece.scalar := by
  induction text with
  | nil => rfl
  | cons char text ih =>
    rw [encode, List.flatMap_cons, (encodeChar_spelled char).pieces, Char.ofNat_toNat]
    exact congrArg _ ih

theorem Spelled.filled {front : Bytes} {number : Nat} (spelled : Spelled front number) : 0 < front.length := by
  cases spelled <;> exact Nat.zero_lt_succ _

-- By induction on the number of bytes: what comes first is a character's bytes, and there are fewer after it.
theorem encode_unbroken (count : Nat) (bytes : Bytes) (bound : bytes.length ≤ count) (text : List Char)
    (unbroken : pieces bytes = text.map Piece.scalar) : encode text = bytes := by
  induction count generalizing bytes text with
  | zero =>
    obtain rfl := List.eq_nil_of_length_eq_zero (Nat.le_zero.mp bound)
    obtain rfl : text = [] := List.map_eq_nil_iff.mp unbroken.symm
    rfl
  | succ count ih =>
    cases bytes with
    | nil =>
      obtain rfl : text = [] := List.map_eq_nil_iff.mp unbroken.symm
      rfl
    | cons byte bytes =>
      obtain ⟨front, left, number, same, spelled⟩ := unbroken_spelled unbroken
      rw [same] at unbroken bound ⊢
      rw [spelled.pieces] at unbroken
      obtain ⟨char, text, rfl, first, others⟩ := List.map_eq_cons_iff.mp unbroken.symm
      cases first
      have shorter : left.length ≤ count := by
        have filled := spelled.filled
        rw [List.length_append] at bound
        omega
      rw [encode, List.flatMap_cons, spelled.encode]
      exact congrArg _ (ih left shorter text others.symm)

theorem decode?_eq_some (bytes : Bytes) (text : List Char) : decode? bytes = some text ↔ encode text = bytes := by
  rw [decode?, scalars_eq_some]
  constructor
  · exact encode_unbroken bytes.length bytes (Nat.le_refl _) text
  · intro same
    rw [← same, pieces_encode]

theorem text?_eq_some (bytes : Bytes) (text : String) : text? bytes = some text ↔ ofString text = bytes := by
  rw [text?, Option.map_eq_some_iff, ofString]
  simp only [decode?_eq_some]
  constructor
  · intro found
    obtain ⟨chars, written, rfl⟩ := found
    rwa [String.toList_ofList]
  · intro written
    exact ⟨text.toList, written, String.ofList_toList⟩

end

def Continued (state : Option Open) : Prop := ∀ opened, state = some opened → 128 ≤ opened.low.toNat

section

variable {state : Option Open} {opened : Open} {byte : UInt8} {a b : Bytes}

theorem lead_continued (led : lead byte = some opened) : 128 ≤ opened.low.toNat := by
  rw [lead_eq] at led
  split_ifs at led <;> cases led <;> dsimp only <;> decide

theorem begin_continued (byte : UInt8) : Continued (begin byte).2 := by
  intro opened same
  rw [begin] at same
  split at same
  · cases same
  · split at same
    · rename_i led
      cases same
      exact lead_continued led
    · cases same

theorem step_continued (state : Option Open) (byte : UInt8) : Continued (step state byte).2 := by
  cases state with
  | none => exact begin_continued byte
  | some opened =>
    intro next same
    rw [step] at same
    dsimp only at same
    split at same
    · split at same
      · cases same
      · cases same
        dsimp only
        decide
    · exact begin_continued byte next same

theorem begin_ascii (ascii : byte.toNat < 128) : begin byte = ([.scalar (Char.ofNat byte.toNat)], none) := by
  rw [begin, if_pos (UInt8.lt_iff_toNat_lt.mpr ascii)]

theorem step_ascii (continued : Continued (some opened)) (ascii : byte.toNat < 128) :
    step (some opened) byte = ([.broken opened.seen, .scalar (Char.ofNat byte.toNat)], none) := by
  have outside : ¬ (opened.low ≤ byte ∧ byte ≤ opened.high) := by
    have low := continued opened rfl
    rw [le_iff]
    omega
  rw [step, if_neg outside, begin_ascii ascii]

theorem piecesFrom_cons (state : Option Open) (byte : UInt8) (rest : Bytes) :
    piecesFrom state (byte :: rest) = (step state byte).1 ++ piecesFrom (step state byte).2 rest := rfl

theorem piecesFrom_append (continued : Continued state) (ascii : byte.toNat < 128) (a b : Bytes) :
    piecesFrom state (a ++ byte :: b) = piecesFrom state a ++ .scalar (Char.ofNat byte.toNat) :: pieces b := by
  induction a generalizing state with
  | nil =>
    rw [List.nil_append, piecesFrom_cons]
    cases state with
    | none =>
      rw [show step none byte = _ from begin_ascii ascii]
      rfl
    | some opened =>
      rw [step_ascii continued ascii]
      rfl
  | cons first rest ih =>
    rw [List.cons_append, piecesFrom_cons, piecesFrom_cons, ih (step_continued state first), List.append_assoc]

theorem lossy_append (ascii : byte.toNat < 128) (a b : Bytes) :
    lossy (a ++ byte :: b) = lossy a ++ Char.ofNat byte.toNat :: lossy b := by
  have closed : Continued none := fun _ same => nomatch same
  rw [lossy, pieces, piecesFrom_append closed ascii, List.map_append]
  rfl

end

end InkProject.Utf8
