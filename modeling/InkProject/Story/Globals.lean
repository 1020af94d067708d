import InkProject.Json.Basic
import InkProject.Story.Error
set_option autoImplicit false

namespace InkProject.Story

def declarationsKey : String := "global decl"

def declarations? (root : List Json) : Option Json :=
  root.getLast?.bind (Json.member? declarationsKey)

def declaredName? (item : Json) : Option String :=
  match item.member? "re" with
  | some _ => none
  | none => (item.member? "VAR=").bind Json.string?

def withoutCaret (text : String) : String :=
  match text.toList with
  | '^' :: rest => String.ofList rest
  | _ => text

-- The literal before a declaration; what comes before is given backwards. A string
-- stands between two marks, and a mark is no literal.
def literal : List Json → Json
  | [] => .null
  | .string mark :: before =>
    if mark = "/str" then match before with
      | .string text :: _ => .string (withoutCaret text)
      | _ => .null
    else if mark = "ev" ∨ mark.toList.head? = some '/' then .null
    else .string mark
  | last :: _ => last

def declareFrom (before : List Json) (globals : Table Json) : List Json → Except EngineError (Table Json)
  | [] => .ok globals
  | item :: items => match declaredName? item with
    | none => declareFrom (item :: before) globals items
    | some name =>
      if globals.contains name then .error (.invariant (.declaredTwice name))
      else declareFrom (item :: before) (globals.insert name (literal before)) items

def declaredGlobals (root : List Json) : Except EngineError (Table Json) :=
  match declarations? root with
  | none => .ok []
  | some (.array items) => declareFrom [] [] items
  | some _ => .error (.malformed .story .declarationsNotArray)

end InkProject.Story
