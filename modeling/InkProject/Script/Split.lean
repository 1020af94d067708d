import InkProject.Script.Command
set_option autoImplicit false

namespace InkProject.Script

inductive Part where
  | plain (text : Text) (quoted : Bool)
  | cut (text : Text)
  | arguments (texts : List Text) (quoted : Bool)
deriving DecidableEq, Repr

abbrev Field := List (Text × Bool)

def fieldText (field : Field) : Text := field.flatMap Prod.fst

def escapeAll (text : Text) : Text := text.flatMap fun char => ['\\', char]
def fieldPattern (field : Field) : Text :=
  field.flatMap fun (text, quoted) => if quoted then escapeAll text else text

def Part.texts (separator : Text) : Part → Field
  | .plain text quoted => [(text, quoted)]
  | .cut text => [(text, false)]
  | .arguments texts quoted => [(separator.intercalate texts, quoted)]

def whole (separator : Text) (parts : List Part) : Field := parts.flatMap (Part.texts separator)

structure Cutting where
  fields : List Field := []
  parts : Field := []
  chars : Text := []
  afterBlank : Bool := false
  afterArguments : Bool := false

namespace Cutting

def isEmpty (state : Cutting) : Bool := state.parts.isEmpty && state.chars.isEmpty

def closePart (state : Cutting) : Cutting :=
  if state.chars.isEmpty then state
  else { state with parts := (state.chars.reverse, false) :: state.parts, chars := [] }

def closeField (state : Cutting) : Cutting :=
  let state := state.closePart
  { state with fields := state.parts.reverse :: state.fields, parts := [] }

def cutAt (state : Cutting) (isBlank : Bool) (afterArguments : Bool) : Cutting :=
  if state.afterBlank then
    if isBlank then state else { state with afterBlank := false }
  else
    let blank := isBlank && !afterArguments
    if blank && state.isEmpty then state
    else { state.closeField with afterBlank := blank }

def addChar (splitters : Text) (afterArguments : Bool) (state : Cutting) (char : Char) : Cutting :=
  if splitters.contains char then
    state.cutAt ([' ', '\t', '\n'].contains char) afterArguments
  else { state with chars := char :: state.chars, afterBlank := false }

def addText (splitters : Text) (afterArguments : Bool) (state : Cutting) (text : Text) : Cutting :=
  text.foldl (addChar splitters afterArguments) state

def addPart (splitters : Text) (state : Cutting) : Part → Cutting
  | .plain text quoted =>
    let state := state.closePart
    { state with parts := (text, quoted) :: state.parts }
  | .cut text =>
    let done := addText splitters state.afterArguments { state with afterBlank := false } text
    { done.closePart with afterBlank := false, afterArguments := false }
  | .arguments [] _ => state
  | .arguments (first :: rest) true =>
    let one (state : Cutting) (text : Text) : Cutting :=
      if text.isEmpty then state.closePart
      else { state.closePart with parts := (text, true) :: state.closePart.parts }
    { rest.foldl (fun state text => one state.closeField text) (one state first) with
      afterArguments := true }
  | .arguments (first :: rest) false =>
    let start := addText splitters state.afterArguments { state with afterBlank := false } first
    let done := rest.foldl (fun before text =>
      addText splitters state.afterArguments (before.cutAt true state.afterArguments) text) start
    { done.closePart with afterBlank := false, afterArguments := false }

end Cutting

def splitFields (splitters : Text) (parts : List Part) : List Field :=
  let done := parts.foldl (Cutting.addPart splitters) {}
  let done := if done.isEmpty && !done.afterArguments then done else done.closeField
  done.fields.reverse

end InkProject.Script
