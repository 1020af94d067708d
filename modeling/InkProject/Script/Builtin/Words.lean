import InkProject.Script.Builtin.Basic
import InkProject.Script.Condition
import InkProject.Script.Format
set_option autoImplicit false

namespace InkProject.Script.Builtin

open Shell

def echo : Builtin := regular "echo" fun _ words => do
  say (echoText words)
  return 0

def printf : Builtin := regular "printf" fun _ words => do
  match ← withoutOptions words with
  | [] => failWith "usage: printf format [arg ...]"
  | format :: words =>
    let done := writeFormat format words
    say done.written.reverse
    for complaint in done.complaints.reverse do warn complaint
    return if done.failed then 2 else if done.complaints.isEmpty then 0 else 1

def holds (words : List Text) : Running Nat := do
  match Condition.check (words.length + 1) (← get) words with
  | .ok answer => return if answer then 0 else 1
  | .error message => fail message

def test : Builtin := regular "test" fun _ words => holds words

def bracket : Builtin := regular "[" fun _ words => do
  if words.getLast? = some [']'] then holds words.dropLast else failWith "missing ]"

inductive LineMark where
  | open (letter : Char)
  | kept (letter : Char)
  | seam
deriving DecidableEq, Repr

def lineFrom (raw : Bool) : Text → Nat → List LineMark → List LineMark × Nat × Bool
  | [], size, read => (read, size, false)
  | '\x00' :: rest, size, read => lineFrom raw rest (size + 1) read
  | '\n' :: _, size, read => (read, size + 1, true)
  | '\\' :: rest, size, read =>
    if raw then lineFrom raw rest (size + 1) (.open '\\' :: read)
    else match rest with
      | '\n' :: rest => lineFrom raw rest (size + 2) (.seam :: read)
      | char :: rest => lineFrom raw rest (size + 2) (.kept char :: read)
      | [] => (read, size + 1, false)
  | char :: rest, size, read => lineFrom raw rest (size + 1) (.open char :: read)

def LineMark.text : LineMark → Text
  | .open letter | .kept letter => [letter]
  | .seam => []

structure Sharing where
  fields : List Text := []
  chars : Text := []
  wanted : Nat
  afterBlank : Bool := false
  extra : Option Nat := none

namespace Sharing

def keep (text : Text) (state : Sharing) : Sharing :=
  { state with chars := text ++ state.chars, extra := state.extra.map (· + text.length) }

def close (state : Sharing) : Sharing :=
  { state with fields := state.chars.reverse :: state.fields, chars := [], wanted := state.wanted - 1 }

def addLast (isSplitter isBlank : Bool) (char : Char) (state : Sharing) : Sharing :=
  if isBlank then
    let state := { state with extra := some (state.extra.getD 0) }
    state.keep [char]
  else
    let extra := if isSplitter && state.afterBlank then state.extra else none
    { state with extra := extra, afterBlank := false }.keep [char]

def add (splitters : Text) (state : Sharing) : LineMark → Sharing
  | .seam => { state with afterBlank := false }
  | .kept char => { state with afterBlank := false }.keep [char]
  | .open char =>
    let isSplitter := splitters.contains char
    let isBlank := isSplitter && [' ', '\t', '\n'].contains char
    if state.wanted = 0 then state.addLast isSplitter isBlank char
    else if state.afterBlank && isBlank then state
    else if state.afterBlank && isSplitter then { state with afterBlank := false }
    else if isSplitter then
      if isBlank && state.chars.isEmpty then state
      else if state.wanted = 1 then
        { state with wanted := 0, afterBlank := isBlank, extra := some 0 }.keep [char]
      else { state.close with afterBlank := isBlank }
    else { state with afterBlank := false }.keep [char]

def whole (state : Sharing) : List Text :=
  let last := (state.chars.drop (state.extra.getD 0)).reverse
  (if last.isEmpty then state.fields else last :: state.fields).reverse

end Sharing

def shareLine (splitters : Text) (count : Nat) (marks : List LineMark) : List Text :=
  (marks.foldl (Sharing.add splitters) { wanted := count }).whole

def read : Builtin := regular "read" fun _ words => do
  let (flags, names) ← options "p:r" words
  if names.isEmpty then failWith "arg count"
  let raw := flags.any fun (flag, _) => flag = 'r'
  let line ← takeInput 0 fun rest => (lineFrom raw rest 0 []).2.1
  let (marks, _, isWhole) := match line with
    | .ok text => lineFrom raw text 0 []
    | .error _ => ([], 0, false)
  let fields := shareLine (← get).splitters names.length marks.reverse
  for (name, index) in names.zipIdx do assign name (fields.getD index [])
  return if isWhole then 0 else 1

def ofWords : List Builtin := [echo, printf, test, bracket, read]

end InkProject.Script.Builtin
