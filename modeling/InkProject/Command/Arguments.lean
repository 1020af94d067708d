import InkProject.Path.Basic
set_option autoImplicit false

namespace InkProject.Command

inductive Taken where
  | nothing
  | path
  | text
deriving DecidableEq, Repr

structure OptionForm where
  name : String
  letter : Option Char
  taken : Taken
deriving DecidableEq, Repr

inductive Question where
  | help
  | version
deriving DecidableEq, Repr

structure Form where
  options : List OptionForm
  questions : List (String × Char × Question)
  places : Option Nat

structure Given where
  options : List (String × Bytes) := []
  values : List Bytes := []
deriving DecidableEq, Repr

namespace Given

def has (given : Given) (name : String) : Bool := (given.options.lookup name).isSome
def path? (given : Given) (name : String) : Option Path := (given.options.lookup name).map Path.mk
def text? (given : Given) (name : String) : Option String :=
  (given.options.lookup name).bind Utf8.text?
def place? (given : Given) (index : Nat) : Option Path := given.values[index]?.map Path.mk

end Given

def acceptable (taken : Taken) (value : Bytes) : Bool :=
  match taken with
  | .nothing => true
  | .path => value ≠ []
  | .text => (Utf8.decode? value).isSome

def Given.add (given : Given) (form : OptionForm) (value : Bytes) : Option Given :=
  if given.has form.name ∨ !acceptable form.taken value then none
  else some { given with options := given.options ++ [(form.name, value)] }

def Given.addValue (given : Given) (places : Nat) (value : Bytes) : Option Given :=
  if given.values.length < places ∧ acceptable .path value then
    some { given with values := given.values ++ [value] }
  else none

def dash : UInt8 := 0x2D
def equals : UInt8 := 0x3D

inductive WordForm where
  | value
  | endOfOptions
  | named (name : Bytes) (behind : Option Bytes)
  | lettered (letter : UInt8) (behind : Bytes)
deriving DecidableEq, Repr

def WordForm.of (word : Bytes) : WordForm :=
  match word with
  | [a, b] => if a = dash ∧ b = dash then .endOfOptions else if a = dash then .lettered b [] else .value
  | a :: b :: rest =>
    if a = dash ∧ b = dash then
      let name := rest.takeWhile (· ≠ equals)
      .named name ((rest.drop name.length).tail?)
    else if a = dash then .lettered b rest
    else .value
  | _ => .value

inductive Understood where
  | given (given : Given) (rest : List Bytes)
  | question (question : Question)
deriving DecidableEq, Repr

def Form.named? (form : Form) (name : Bytes) : Option OptionForm :=
  form.options.find? fun option => Utf8.ofString option.name = name

def Form.lettered? (form : Form) (letter : UInt8) : Option OptionForm :=
  form.options.find? fun option => option.letter.any fun char => char.toNat = letter.toNat

def Form.question? (form : Form) (word : WordForm) : Option Question :=
  (form.questions.find? fun (name, char, _) => match word with
    | .named given none => Utf8.ofString name = given
    | .lettered letter _ => char.toNat = letter.toNat
    | _ => false).map fun (_, _, question) => question

def withoutEquals (behind : Bytes) : Bytes := if behind.head? = some equals then behind.tail else behind

def Form.option? (form : Form) (word : WordForm) : Option (OptionForm × Option Bytes) :=
  match word with
  | .named name behind => (form.named? name).map (·, behind)
  | .lettered letter behind => (form.lettered? letter).map fun option =>
    (option, if behind = [] then none else some (withoutEquals behind))
  | _ => none

def addValues (places : Nat) (given : Given) (values : List Bytes) : Option Given :=
  values.foldlM (fun given value => given.addValue places value) given

def Form.readFrom (form : Form) (waiting : Option OptionForm) (given : Given) :
    List Bytes → Option Understood
  | [] => if waiting.isSome then none else some (.given given [])
  | word :: rest =>
    let shape := WordForm.of word
    match waiting with
    | some option =>
      if shape = .value then do form.readFrom none (← given.add option word) rest else none
    | none => match shape with
      | .value => match form.places with
        | none => some (.given given (word :: rest))
        | some places => do form.readFrom none (← given.addValue places word) rest
      | .endOfOptions => do return .given (← addValues (form.places.getD 0) given rest) []
      | _ => match form.question? shape with
        | some question => some (.question question)
        | none => match form.option? shape with
          | none => none
          | some (option, some behind) =>
            if option.taken = .nothing then none
            else do form.readFrom none (← given.add option behind) rest
          | some (option, none) =>
            if option.taken = .nothing then do form.readFrom none (← given.add option []) rest
            else if given.has option.name then none
            else form.readFrom (some option) given rest

def Form.read (form : Form) (words : List Bytes) : Option Understood := form.readFrom none {} words

end InkProject.Command
