import InkProject.Script.Token
set_option autoImplicit false

namespace InkProject.Script

inductive Extent where
  | line
  | body
  | inner
deriving DecidableEq, Repr

namespace Source

def anywhere : Wanted := { lines := true, keyword := true, aliased := true }
def compoundStart : Wanted := { keyword := true, aliased := true }

def expectKeyword (inner : Bool → Reading Command) (wanted : Wanted) (name : String) (fuel : Nat) :
    Reading Unit := do
  let token ← token inner wanted .word fuel
  if token.isKeyword name then return () else unexpected (some (Token.keyword (textOf name)).shown)

def expectClosing (inner : Bool → Reading Command) (fuel : Nat) : Reading Unit := do
  match ← token inner {} .word fuel with
  | .closing => return ()
  | _ => unexpected (some Token.closing.shown)

def redirectName (inner : Bool → Reading Command) (fuel : Nat) : Token → Reading (Option Redirect)
  | .redirect direction => do
    match ← token inner {} .word fuel with
    | .word word => return match direction with
      | .file stream opening _ => some (.file stream opening word)
      | .copy stream _ => some (.copy stream word)
      | .document _ _ => none
    | _ => unexpected none
  | .documentStart stream dropTabs => do
    match ← token inner {} .mark fuel with
    | .word word =>
      let mark := word.flatMap fun
        | .literal text _ => text
        | _ => []
      modifyGet fun source =>
        let number := source.documents.size
        (some (.document stream number), { source with
          documents := source.documents.push []
          awaited := source.awaited ++ [⟨number, mark, dropTabs, isQuoted word⟩] })
    | _ => unexpected none
  | _ => return none

def redirectsFrom (inner : Bool → Reading Command) : Nat → List Redirect → Reading (List Redirect)
  | 0, read => return read.reverse
  | fuel + 1, read => do
    match ← redirectName inner fuel (← token inner compoundStart .word fuel) with
    | some direction => redirectsFrom inner fuel (direction :: read)
    | none =>
      keep
      return read.reverse

structure Simple where
  assignments : List Assignment := []
  words : List Word := []
  redirects : List Redirect := []

def simpleFrom (inner : Bool → Reading Command) : Nat → Simple → Reading (Simple × Bool)
  | 0, read => return (read, false)
  | fuel + 1, read => do
    let next ← token inner { aliased := read.words.isEmpty } .word fuel
    match next with
    | .word word =>
      match if read.words.isEmpty then assignment? word else none with
      | some assignment =>
        simpleFrom inner fuel { read with assignments := assignment :: read.assignments }
      | none => simpleFrom inner fuel { read with words := word :: read.words }
    | .opening =>
      if read.words.length = 1 && read.assignments.isEmpty && read.redirects.isEmpty then
        return (read, true)
      else
        keep
        return (read, false)
    | _ => match ← redirectName inner fuel next with
      | some direction => simpleFrom inner fuel { read with redirects := direction :: read.redirects }
      | none =>
        keep
        return (read, false)

def wordsFrom (inner : Bool → Reading Command) : Nat → List Word → Reading (List Word)
  | 0, read => return read.reverse
  | fuel + 1, read => do
    match ← token inner {} .word fuel with
    | .word word => wordsFrom inner fuel (word :: read)
    | .newline | .semicolon => return read.reverse
    | _ => unexpected none

def wordOf : Token → Word
  | .word word => word
  | _ => []

def patternsFrom (inner : Bool → Reading Command) : Nat → List Word → Reading (List Word)
  | 0, read => return read.reverse
  | fuel + 1, read => do
    match ← token inner {} .word fuel with
    | .pipe => patternsFrom inner fuel (wordOf (← token inner {} .word fuel) :: read)
    | .closing => return read.reverse
    | _ => unexpected (some Token.closing.shown)

def inBackground (line : Nat) : Command → Command
  | .redirected _ inner redirects => .background line inner redirects
  | .nested _ inner redirects => .background line (.nested line inner redirects) []
  | inner => .background line inner []

mutual
def list (extent : Extent) : Nat → Bool → Command → Reading (Option Command)
  | 0, _, read => return some read
  | fuel + 1, first, read => do
    let inner := innerCommand fuel
    let next ← token inner { anywhere with lines := extent ≠ .line } .word fuel
    match next with
    | .newline =>
      readDocuments inner fuel
      return some read
    | .ended =>
      readDocuments inner fuel
      keep
      return if extent = .line && first then none else some read
    | _ =>
      keep
      if extent ≠ .line && (extent = .inner || !first) && next.endsList then return some read
      let line := (← get).line
      let command ← chain fuel
      let after ← token inner {} .word fuel
      let command := match after with
        | .ampersand => inBackground line command
        | _ => command
      let read := if first then command else .sequence read command
      match after with
      | .ended =>
        readDocuments inner fuel
        keep
        return some read
      | .newline =>
        keep
        list extent fuel false read
      | .ampersand | .semicolon => list extent fuel false read
      | _ =>
        if extent = .line then unexpected none
        keep
        return some read

def innerCommand : Nat → Bool → Reading Command
  | 0, _ => return .nothing
  | fuel + 1, closed => do
    let awaited := (← get).awaited
    modify ({ · with awaited := [] })
    let body ← list .inner fuel true .nothing
    if closed then expectClosing (innerCommand fuel) fuel
    modify ({ · with awaited := awaited })
    return body.getD .nothing

def body : Nat → Reading Command
  | 0 => return .nothing
  | fuel + 1 => return (← list .body fuel true .nothing).getD .nothing

def chain : Nat → Reading Command
  | 0 => return .nothing
  | fuel + 1 => do
    let first ← pipeline {} fuel
    chainFrom fuel first

def chainFrom : Nat → Command → Reading Command
  | 0, first => return first
  | fuel + 1, first => do
    match ← token (innerCommand fuel) {} .word fuel with
    | .both => chainFrom fuel (.both first (← pipeline anywhere fuel))
    | .either => chainFrom fuel (.either first (← pipeline anywhere fuel))
    | _ =>
      keep
      return first

def pipeline (wanted : Wanted) : Nat → Reading Command
  | 0 => return .nothing
  | fuel + 1 => do
    let isNegated := (← token (innerCommand fuel) wanted .word fuel).isKeyword "!"
    if !isNegated then keep
    let first ← command (if isNegated then compoundStart else {}) fuel
    let whole ← pipeFrom fuel [first]
    return if isNegated then .negated whole else whole

def pipeFrom : Nat → List Command → Reading Command
  | 0, read => return .pipe read.reverse
  | fuel + 1, read => do
    match ← token (innerCommand fuel) {} .word fuel with
    | .pipe => pipeFrom fuel ((← command anywhere fuel) :: read)
    | _ =>
      keep
      match read with
      | [single] => return single
      | _ => return .pipe read.reverse

def command (wanted : Wanted) : Nat → Reading Command
  | 0 => return .nothing
  | fuel + 1 => do
    let line := (← get).line
    let inner := innerCommand fuel
    let next ← token inner wanted .word fuel
    match next with
    | .word _ | .redirect _ | .documentStart _ _ =>
      keep
      simple fuel
    | .opening =>
      let read ← body fuel
      expectClosing inner fuel
      return .nested line read (← redirectsFrom inner fuel [])
    | .keyword name =>
      let read ←
        if name = textOf "\x7b" then do
          let read ← body fuel
          expectKeyword inner {} "\x7d" fuel
          pure read
        else if name = textOf "if" then conditional fuel
        else if name = textOf "while" then repeated true fuel
        else if name = textOf "until" then repeated false fuel
        else if name = textOf "for" then forEach line fuel
        else if name = textOf "case" then do
          match ← token inner {} .word fuel with
          | .word word =>
            expectKeyword inner anywhere "in" fuel
            pure (.select line word (← arms fuel))
          | _ => unexpected (some (Token.word []).shown)
        else unexpected none
      match ← redirectsFrom inner fuel [] with
      | [] => return read
      | redirects => return .redirected line read redirects
    | _ => unexpected none

def simple : Nat → Reading Command
  | 0 => return .nothing
  | fuel + 1 => do
    let line := (← get).line
    let inner := innerCommand fuel
    let (read, isFunction) ← simpleFrom inner fuel {}
    if isFunction then
      expectClosing inner fuel
      match bare? (read.words.headD []) with
      | some name =>
        if !isName name || specialNamesOf.contains name then fail "Bad function name"
        return .define (← get).line name (← command anywhere fuel)
      | none => fail "Bad function name"
    else return .simple line read.assignments.reverse read.words.reverse read.redirects.reverse

def conditional : Nat → Reading Command
  | 0 => return .nothing
  | fuel + 1 => do
    let inner := innerCommand fuel
    let test ← body fuel
    expectKeyword inner {} "then" fuel
    let done ← body fuel
    let next ← token inner {} .word fuel
    if next.isKeyword "elif" then return .branch test done (← conditional fuel)
    else if next.isKeyword "else" then
      let otherwise ← body fuel
      expectKeyword inner {} "fi" fuel
      return .branch test done otherwise
    else if next.isKeyword "fi" then return .branch test done .nothing
    else unexpected (some (Token.keyword (textOf "fi")).shown)

def repeated (wanted : Bool) : Nat → Reading Command
  | 0 => return .nothing
  | fuel + 1 => do
    let inner := innerCommand fuel
    let test ← body fuel
    expectKeyword inner {} "do" fuel
    let read ← body fuel
    expectKeyword inner {} "done" fuel
    return .loop wanted test read

def forEach (line : Nat) : Nat → Reading Command
  | 0 => return .nothing
  | fuel + 1 => do
    let inner := innerCommand fuel
    match (bare? (wordOf (← token inner {} .word fuel))).filter isName with
    | none => fail "Bad for loop variable"
    | some name =>
      let next ← token inner anywhere .word fuel
      let words ←
        if next.isKeyword "in" then wordsFrom inner fuel []
        else do
          match next with
          | .semicolon => pure ()
          | _ => keep
          pure [[.parameter ['@'] true]]
      expectKeyword inner anywhere "do" fuel
      let read ← body fuel
      expectKeyword inner {} "done" fuel
      return .each line name words read

def arms : Nat → Reading (List Arm)
  | 0 => return []
  | fuel + 1 => do
    let inner := innerCommand fuel
    let wanted : Wanted := { lines := true, keyword := true }
    let next ← token inner wanted .word fuel
    if next.isKeyword "esac" then return []
    let first ← match next with
      | .opening => token inner {} .word fuel
      | _ => pure next
    let patterns ← patternsFrom inner fuel [wordOf first]
    let read ← list .inner fuel true .nothing
    let arm := Arm.mk patterns (read.getD .nothing)
    let after ← token inner wanted .word fuel
    if after.isKeyword "esac" then return [arm]
    match after with
    | .armEnd => return arm :: (← arms fuel)
    | _ => unexpected (some Token.armEnd.shown)
end

def nextLine : Reading (Option Command) := do
  let fuel := 24 * ((← get).rest.length + 8)
  modify ({ · with awaited := [], kept := none })
  list .line fuel true .nothing

end Source

end InkProject.Script
