import InkProject.Script.Launch
set_option autoImplicit false

namespace InkProject.Script

structure Services where
  run : Runner
  call : Caller
  manner : Manner

structure Builtin where
  name : Text
  isSpecial : Bool
  assigns : Bool
  act : Services → List Text → Running Nat

namespace Builtin

open Shell

def special (name : String) (act : Services → List Text → Running Nat) : Builtin :=
  ⟨name.toList, true, false, act⟩

def regular (name : String) (act : Services → List Text → Running Nat) : Builtin :=
  ⟨name.toList, false, false, act⟩

def lettersFrom (allowed : Text) : Text → List Text → List (Char × Text) →
    Running (List (Char × Text) × List Text)
  | [], words, read => return (read, words)
  | letter :: letters, words, read => do
    match allowed.dropWhile (· ≠ letter) with
    | [] => failWith s!"Illegal option -{letter}"
    | _ :: ':' :: _ =>
      if letters ≠ [] then return ((letter, letters) :: read, words)
      else match words with
        | word :: words => return ((letter, word) :: read, words)
        | [] => failWith s!"No arg for -{letter} option"
    | _ => lettersFrom allowed letters words ((letter, []) :: read)

def optionsFrom (allowed : Text) : Nat → List Text → List (Char × Text) →
    Running (List (Char × Text) × List Text)
  | 0, words, read => return (read.reverse, words)
  | fuel + 1, words, read => do
    match words with
    | ['-', '-'] :: rest => return (read.reverse, rest)
    | ('-' :: letter :: letters) :: rest =>
      let (read, rest) ← lettersFrom allowed (letter :: letters) rest read
      optionsFrom allowed fuel rest read
    | _ => return (read.reverse, words)

def options (allowed : String) (words : List Text) : Running (List (Char × Text) × List Text) :=
  optionsFrom allowed.toList (words.length + 1) words []

def withoutOptions (words : List Text) : Running (List Text) :=
  return (← options "" words).2

def number (word : Text) : Running Nat := do
  match integer? false word with
  | some (.ofNat value) => if value < 2147483648 then return value else failNumber word
  | _ => failNumber word

def quotedFrom : Nat → Text → Text
  | 0, _ => []
  | fuel + 1, text =>
    let plain := text.takeWhile (· ≠ '\'')
    let rest := text.drop plain.length
    let quotes := rest.takeWhile (· = '\'')
    let after := rest.drop quotes.length
    '\'' :: plain ++ '\'' :: (if quotes = [] then [] else '"' :: quotes ++ ['"']) ++
      (if after = [] then [] else quotedFrom fuel after)

def quoted (text : Text) : Text := quotedFrom (text.length + 1) text

end Builtin

end InkProject.Script
