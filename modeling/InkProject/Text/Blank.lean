set_option autoImplicit false

namespace InkProject.Blank

def isBlank (char : Char) : Bool :=
  let code := char.toNat
  (9 ≤ code && code ≤ 13) || code == 0x20 || code == 0x85 || code == 0xA0 || code == 0x1680 ||
  (0x2000 ≤ code && code ≤ 0x200A) || code == 0x2028 || code == 0x2029 || code == 0x202F ||
  code == 0x205F || code == 0x3000

def trimLeft (text : List Char) : List Char := text.dropWhile isBlank
def trim (text : List Char) : List Char := (trimLeft (trimLeft text).reverse).reverse

def lines : List Char → List (List Char)
  | [] => []
  | char :: rest =>
    if char = '\n' then [] :: lines rest
    else match lines rest with
      | [] => [[char]]
      | line :: others => (char :: line) :: others

theorem trim_nil : trim [] = [] := rfl

theorem lines_newline (rest : List Char) : lines ('\n' :: rest) = [] :: lines rest := by
  simp [lines]

end InkProject.Blank
