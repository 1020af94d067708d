import InkProject.Text.Utf8
set_option autoImplicit false

namespace InkProject.Script

abbrev Text := List Char

def ofBytes (bytes : Bytes) : Text := bytes.map fun byte => Char.ofNat byte.toNat
def toBytes (text : Text) : Bytes := text.map fun char => UInt8.ofNat char.toNat
def ofString (text : String) : Text := ofBytes (Utf8.ofString text)

inductive Change where
  | length
  | default (nullToo : Bool)
  | other (nullToo : Bool)
  | assign (nullToo : Bool)
  | demand (nullToo : Bool)
  | cutStart (long : Bool)
  | cutEnd (long : Bool)
  | unknown
deriving DecidableEq, Repr

inductive Opening where
  | read
  | write
  | append
  | replace
  | both
deriving DecidableEq, Repr

mutual
inductive Piece where
  | literal (text : Text) (quoted : Bool)
  | parameter (name : Text) (quoted : Bool)
  | altered (name : Text) (change : Change) (word : List Piece) (quoted : Bool)
  | arithmetic (expression : List Piece) (quoted : Bool)
  | output (script : Command) (quoted : Bool)

inductive Redirect where
  | file (stream : Nat) (opening : Opening) (name : List Piece)
  | copy (stream : Nat) (name : List Piece)
  | document (stream : Nat) (number : Nat)

inductive Assignment where
  | mk (name : Text) (word : List Piece)

inductive Command where
  | nothing
  | simple (line : Nat) (assignments : List Assignment) (words : List (List Piece))
      (redirects : List Redirect)
  | sequence (first second : Command)
  | both (first second : Command)
  | either (first second : Command)
  | negated (inner : Command)
  | pipe (commands : List Command)
  | branch (test body otherwise : Command)
  | loop (wanted : Bool) (test body : Command)
  | each (line : Nat) (name : Text) (words : List (List Piece)) (body : Command)
  | select (line : Nat) (word : List Piece) (arms : List Arm)
  | nested (line : Nat) (inner : Command) (redirects : List Redirect)
  | background (line : Nat) (inner : Command) (redirects : List Redirect)
  | define (line : Nat) (name : Text) (body : Command)
  | redirected (line : Nat) (inner : Command) (redirects : List Redirect)

inductive Arm where
  | mk (patterns : List (List Piece)) (body : Command)
end

abbrev Word := List Piece

def Assignment.name : Assignment → Text
  | .mk name _ => name

def Command.isNothing : Command → Bool
  | .nothing => true
  | _ => false

def isBlank (char : Char) : Bool := char = ' ' || char = '\t'
def startsName (char : Char) : Bool := char.isAlpha || char = '_'
def isNameChar (char : Char) : Bool := char.isAlphanum || char = '_'

def isName (text : Text) : Bool :=
  match text with
  | char :: rest => startsName char && rest.all isNameChar
  | [] => false

def bare? (word : Word) : Option Text :=
  (word.mapM fun
    | Piece.literal text false => some text
    | _ => none).map List.flatten

def isQuoted (word : Word) : Bool :=
  word.any fun
    | .literal _ quoted => quoted
    | _ => false

def assignment? (word : Word) : Option Assignment :=
  match word with
  | .literal text false :: rest =>
    let name := text.takeWhile isNameChar
    match text.drop name.length with
    | '=' :: value =>
      if isName name then
        some (.mk name (if value = [] then rest else .literal value false :: rest))
      else none
    | _ => none
  | _ => none

end InkProject.Script
