import InkProject.Text.Blank
import InkProject.Text.Utf8
set_option autoImplicit false

namespace InkProject.Compiler

inductive MessageKind where
  | error
  | warning
  | todo
deriving DecidableEq, Repr

namespace MessageKind

def all : List MessageKind := [.error, .warning, .todo]

def mark : MessageKind → List Char
  | .error => ['E', 'R', 'R', 'O', 'R', ':']
  | .warning => ['W', 'A', 'R', 'N', 'I', 'N', 'G', ':']
  | .todo => ['T', 'O', 'D', 'O', ':']

def name : MessageKind → String
  | .error => "error"
  | .warning => "warning"
  | .todo => "todo"

def title : MessageKind → String
  | .error => "Error"
  | .warning => "Warning"
  | .todo => "Todo"

end MessageKind

structure Message where
  kind : MessageKind
  text : String
deriving DecidableEq, Repr

inductive OutputLine where
  | message (message : Message)
  | other (text : String)
deriving DecidableEq, Repr

def after? : List Char → List Char → Option (List Char)
  | [], line => some line
  | _ :: _, [] => none
  | m :: mark, c :: line => if m = c then after? mark line else none

def OutputLine.ofLine (line : List Char) : OutputLine :=
  match MessageKind.all.findSome? fun kind => (after? kind.mark line).map (kind, ·) with
  | some (kind, rest) => .message ⟨kind, String.ofList (Blank.trim rest)⟩
  | none => .other (String.ofList line)

def outputLines (text : List Char) : List OutputLine :=
  (((Blank.lines text).map Blank.trim).filter (· ≠ [])).map OutputLine.ofLine

def OutputLine.message? : OutputLine → Option Message
  | .message said => some said
  | .other _ => none

def OutputLine.other? : OutputLine → Option String
  | .message _ => none
  | .other text => some text

structure Output where
  messages : List Message
  other : List String
deriving DecidableEq, Repr

namespace Output

def ofLines (lines : List OutputLine) : Output :=
  ⟨lines.filterMap OutputLine.message?, lines.filterMap OutputLine.other?⟩

def parse (text : List Char) : Output := ofLines (outputLines text)

def append (a b : Output) : Output := ⟨a.messages ++ b.messages, a.other ++ b.other⟩

end Output

end InkProject.Compiler
