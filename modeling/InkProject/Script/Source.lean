import InkProject.Script.Command
set_option autoImplicit false

namespace InkProject.Script

structure Awaited where
  number : Nat
  mark : Text
  dropTabs : Bool
  plain : Bool

inductive Token where
  | ended
  | newline
  | semicolon
  | ampersand
  | both
  | either
  | pipe
  | opening
  | closing
  | armEnd
  | redirect (direction : Redirect)
  | documentStart (stream : Nat) (dropTabs : Bool)
  | word (word : Word)
  | keyword (name : Text)

structure Source where
  rest : Text
  isFile : Bool := false
  line : Nat := 1
  awaited : List Awaited := []
  documents : Array Word := #[]
  kept : Option Token := none
  last : Token := .ended
  aliases : List (Text × Text) := []
  opened : List (Text × Nat) := []
  eager : Bool := false

structure SyntaxError where
  line : Nat
  message : Text

abbrev Reading := EStateM SyntaxError Source

namespace Source

def fail {α : Type} (message : String) : Reading α := do
  throw ⟨(← get).line, ofString message⟩

def take : Reading (Option Char) :=
  modifyGet fun source => match source.rest with
    | [] => (none, source)
    | '\n' :: rest => (some '\n', { source with rest := rest, line := source.line + 1 })
    | char :: rest => (some char, { source with rest := rest })

def joinLines : Text → Nat → Text × Nat
  | '\\' :: '\n' :: rest, joined => joinLines rest (joined + 1)
  | rest, joined => (rest, joined)

def peek : Reading (Option Char) :=
  modifyGet fun source =>
    let (rest, joined) := joinLines source.rest 0
    (rest.head?, { source with rest := rest, line := source.line + joined })

def next : Reading (Option Char) := do
  let _ ← peek
  take

def accept (wanted : Char) : Reading Bool := do
  if (← peek) = some wanted then
    let _ ← take
    return true
  else return false

def dropLine : Reading Unit :=
  modify fun source => { source with rest := source.rest.dropWhile (· ≠ '\n') }

def spanFrom (test : Char → Bool) : Text → Text → Nat → Text × Text × Nat
  | '\\' :: '\n' :: rest, taken, lines => spanFrom test rest taken (lines + 1)
  | char :: rest, taken, lines =>
    if test char then spanFrom test rest (char :: taken) (if char = '\n' then lines + 1 else lines)
    else (taken.reverse, char :: rest, lines)
  | [], taken, lines => (taken.reverse, [], lines)

def takeAll (test : Char → Bool) : Reading Text :=
  modifyGet fun source =>
    let (taken, rest, lines) := spanFrom test source.rest [] source.line
    (taken, { source with rest := rest, line := lines })

end Source

end InkProject.Script
