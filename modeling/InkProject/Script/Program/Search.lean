import InkProject.Script.Glob
import InkProject.Script.Program.Streams
import InkProject.Script.Regex.Read
set_option autoImplicit false

namespace InkProject.Script.Program

open Shell

def searchUsage : String := "Usage: grep [OPTION]... PATTERNS [FILE]...\n"

def searchGrammar : Grammar := {
  letters := "0123456789A:B:C:D:EFGHILPTUVX:abcd:e:f:hiLlm:noqRrsuvwxyzZ", status := 2, usage := searchUsage
  names := [("extended-regexp", 'E', .none), ("fixed-strings", 'F', .none), ("basic-regexp", 'G', .none),
    ("perl-regexp", 'P', .none), ("regexp", 'e', .required), ("file", 'f', .required),
    ("ignore-case", 'i', .none), ("no-ignore-case", 'J', .none), ("word-regexp", 'w', .none),
    ("line-regexp", 'x', .none), ("null-data", 'z', .none), ("no-messages", 's', .none),
    ("invert-match", 'v', .none), ("max-count", 'm', .required), ("byte-offset", 'b', .none),
    ("line-number", 'n', .none), ("line-buffered", 'u', .none), ("with-filename", 'H', .none),
    ("no-filename", 'h', .none), ("label", 'M', .required), ("only-matching", 'o', .none),
    ("quiet", 'q', .none), ("silent", 'q', .none), ("binary-files", 'Q', .required), ("text", 'a', .none),
    ("directories", 'd', .required), ("devices", 'D', .required), ("recursive", 'r', .none),
    ("dereference-recursive", 'R', .none), ("include", 'N', .required), ("exclude", 'O', .required),
    ("exclude-dir", 'W', .required), ("files-without-match", 'L', .none), ("files-with-matches", 'l', .none),
    ("count", 'c', .none), ("initial-tab", 'T', .none), ("null", 'Z', .none),
    ("before-context", 'B', .required), ("after-context", 'A', .required), ("context", 'C', .required),
    ("group-separator", 'S', .required), ("no-group-separator", 'Y', .none), ("color", 'K', .optional),
    ("colour", 'K', .optional), ("binary", 'U', .none)] }

structure Search where
  patterns : List (Regex.Setting × Regex)
  wholeLine : Bool := false
  wholeWord : Bool := false
  inverted : Bool := false
  before : Nat := 0
  after : Nat := 0
  separator : Option Text := none
  most : Option Nat := none
  count : Bool := false
  quiet : Bool := false
  onlyMatches : Bool := false
  listed : Option Bool := none
  lineNumbers : Bool := false
  offsets : Bool := false
  tabs : Bool := false
  nulAfterName : Bool := false
  ending : Char := '\n'
  binary : Option Bool := none

namespace Search

def isWanted (search : Search) (start last : Regex.Spot) : Bool :=
  (!search.wholeLine || (start.before.isNone && last.rest.isEmpty)) &&
    (!search.wholeWord || (!start.isAfterWord && !last.isBeforeWord))

def find? (search : Search) (spot : Regex.Spot) : Option (Regex.Spot × Regex.Spot) :=
  search.patterns.foldl (fun best (setting, regex) =>
    match best, Regex.find? setting regex search.isWanted spot with
    | some (start, last), some (other, farther) =>
      if other.index < start.index || (other.index = start.index && last.index < farther.index) then
        some (other, farther)
      else best
    | none, found => found
    | best, none => best) none

def selects (search : Search) (line : Text) : Bool :=
  (search.patterns.any fun (setting, regex) =>
    (Regex.find? setting regex search.isWanted { rest := line }).isSome) != search.inverted

def matchesFrom (search : Search) : Nat → Regex.Spot → List (Nat × Text)
  | 0, _ => []
  | left + 1, spot => match search.find? spot with
    | none => []
    | some (start, last) =>
      if start.index = last.index then match start.next? with
        | some (_, next) => matchesFrom search left next
        | none => []
      else (start.index, start.rest.take (last.index - start.index)) :: matchesFrom search left last

end Search

structure Numbered where
  number : Nat
  offset : Nat
  line : Text

def numberedFrom : Nat → Nat → List Text → List Numbered
  | _, _, [] => []
  | number, offset, line :: lines =>
    ⟨number, offset, line⟩ :: numberedFrom (number + 1) (offset + line.length + 1) lines

def frontOf (search : Search) (title : Option Text) (sign : Char) (number offset : Nat) : Text :=
  let name := match title with
    | some name => name ++ [if search.nulAfterName then '\x00' else sign]
    | none => []
  let line := if search.lineNumbers then decimal number ++ [sign] else []
  let place := if search.offsets then decimal offset ++ [sign] else []
  let front := name ++ line ++ place
  if search.tabs && front ≠ [] then front ++ ['\t'] else front

def sayFound (search : Search) (title : Option Text) (sign : Char) (found : Numbered) : Running Unit := do
  if search.onlyMatches then
    if sign = ':' && !search.inverted then
      for (place, text) in search.matchesFrom (found.line.length + 1) { rest := found.line } do
        say (frontOf search title sign found.number (found.offset + place) ++ text ++ [search.ending])
  else say (frontOf search title sign found.number found.offset ++ found.line ++ [search.ending])

structure Progress where
  found : Nat := 0
  shown : Option Nat := none
  waiting : List Numbered := []
  owed : Nat := 0

def showFrom (search : Search) (title : Option Text) (shownBefore : Bool) :
    List Numbered → Progress → Running Progress
  | [], progress => return progress
  | next :: rest, progress => do
    let isOver := search.most.any fun most => most ≤ progress.found
    let isFound := search.selects next.line
    if isOver && (isFound || progress.owed = 0) then return progress
    else if isFound then
      let context := progress.waiting.reverse
      let first := ((context.head?).map Numbered.number).getD next.number
      let isApart : Bool := match progress.shown with
        | some last => decide (last + 1 < first)
        | none => shownBefore
      match search.separator with
      | some text => if isApart then say (text ++ ['\n'])
      | none => pure ()
      for line in context do sayFound search title '-' line
      sayFound search title ':' next
      showFrom search title shownBefore rest ⟨progress.found + 1, some next.number, [], search.after⟩
    else if 0 < progress.owed then
      sayFound search title '-' next
      showFrom search title shownBefore rest
        { progress with shown := some next.number, owed := progress.owed - 1 }
    else
      showFrom search title shownBefore rest
        { progress with waiting := (next :: progress.waiting).take search.before }

def searchLines (search : Search) (text : Text) : List Numbered :=
  numberedFrom 1 0 (plainRecords search.ending text)

def countFrom (search : Search) : List Numbered → Nat → Nat
  | [], found => found
  | next :: rest, found =>
    if search.most.any fun most => most ≤ found then found
    else countFrom search rest (if search.selects next.line then found + 1 else found)

def searchText (search : Search) (name : Text) (titled shownBefore : Bool) (text : Text) : Running Nat := do
  let title := if titled then some name else none
  let isBinary := search.binary ≠ some true && search.ending = '\n' && text.contains '\x00'
  let text := if isBinary then text.map fun char => if char = '\x00' then '\n' else char else text
  let lines := searchLines search text
  if isBinary && search.binary = some false then return 0
  if search.quiet || search.listed.isSome then
    return countFrom { search with most := some (min 1 (search.most.getD 1)) } lines 0
  else if search.count then
    let found := countFrom search lines 0
    say ((match title with
      | some name => name ++ [if search.nulAfterName then '\x00' else ':']
      | none => []) ++ decimal found ++ ['\n'])
    return found
  else if isBinary then
    let found := countFrom { search with most := some (min 1 (search.most.getD 1)) } lines 0
    if 0 < found then report (name ++ ofString ": binary file matches")
    return found
  else return (← showFrom search title shownBefore lines {}).found

def isOutput (name : Text) : Running Bool := do
  let shell ← get
  match shell.channelOf 1 with
  | some (_, .file place _ _) =>
    if name = ['-'] then match shell.channelOf 0 with
      | some (_, .file here _ _) => return here = place
      | _ => return false
    else match shell.machine.disk.locate true (pathOf name) with
      | .ok (here, .file _ _) => return here = place
      | _ => return false
  | _ => return false

structure Reach where
  recursive : Bool := false
  followLinks : Bool := false
  skipDirectories : Bool := false
  included : List Text := []
  excluded : List Text := []
  excludedDirectories : List Text := []
  silent : Bool := false
  label : Text := []
  titled : Bool := false

def baseName (name : Text) : Text := (name.reverse.takeWhile (· ≠ '/')).reverse

def Reach.takes (reach : Reach) (name : Text) : Bool :=
  let base := baseName name
  let isAmong (patterns : List Text) : Bool := patterns.any fun pattern => fits (marks pattern) base
  !isAmong reach.excluded && (reach.included.isEmpty || isAmong reach.included)

structure Findings where
  found : Bool := false
  shown : Bool := false
  failed : Bool := false

def searchOne (search : Search) (reach : Reach) (name : Text) (findings : Findings) : Running Findings := do
  let shown := if name = ['-'] then reach.label else name
  let plain := !search.quiet && search.listed.isNone && search.most.all (1 < ·)
  if (← isOutput name) && plain && !search.count then
    report (shown ++ ofString ": input file is also the output")
    return { findings with failed := true }
  match ← content name with
  | .error error =>
    if !reach.silent then reportError shown error
    return { findings with failed := true }
  | .ok text =>
    let found ← searchText search shown reach.titled findings.shown text
    match search.listed with
    | some wanted =>
      if !search.quiet && decide (0 < found) = wanted then
        say (shown ++ [if search.nulAfterName then '\x00' else '\n'])
    | none => pure ()
    return { findings with found := findings.found || 0 < found, shown := findings.shown || 0 < found }

def searchFrom (search : Search) (reach : Reach) : Nat → Bool → List Text → Findings → Running Findings
  | 0, _, _, findings => return findings
  | _, _, [], findings => return findings
  | fuel + 1, isTop, name :: names, findings => do
    if search.quiet && findings.found then return findings
    let disk ← getDisk
    let found := if name = ['-'] && isTop then .ok ([], Node.link [])
      else disk.locate (isTop || reach.followLinks) (pathOf name)
    match found with
    | .ok (_, .dir entries) =>
      if reach.recursive then
        if !isTop && reach.excludedDirectories.any fun pattern => fits (marks pattern) (baseName name) then
          searchFrom search reach fuel isTop names findings
        else
          let inner := entries.toList.map fun (entry, _) => match name with
            | ['.', '/'] => ofBytes entry
            | _ => below name (ofBytes entry)
          let findings ← searchFrom search reach fuel false inner findings
          searchFrom search reach fuel isTop names findings
      else
        if !reach.skipDirectories && !reach.silent then reportError name .isDirectory
        searchFrom search reach fuel isTop names
          { findings with failed := findings.failed || !reach.skipDirectories }
    | .ok (_, node) =>
      let isSkipped := match node with
        | .link _ | .device _ => !isTop
        | _ => false
      if isSkipped || !(name = ['-'] || reach.takes name) then searchFrom search reach fuel isTop names findings
      else searchFrom search reach fuel isTop names (← searchOne search reach name findings)
    | .error error =>
      if !reach.silent then reportError name error
      searchFrom search reach fuel isTop names { findings with failed := true }

def patternTexts (arguments : Arguments) : Running (List Text × List Text) := do
  let mut texts := []
  let mut isGiven := false
  for (letter, value) in arguments.options do
    if letter = 'e' then
      isGiven := true
      texts := texts ++ plainRecords '\n' (value ++ ['\n'])
    else if letter = 'f' then
      isGiven := true
      match ← content value with
      | .ok text => texts := texts ++ (linesOf text).map bare
      | .error error =>
        reportError value error
        leaveWith 2
  if isGiven then return (texts, arguments.operands)
  else match arguments.operands with
    | [] =>
      complain (ofString searchUsage)
      referToHelp
      leaveWith 2
    | pattern :: names => return (plainRecords '\n' (pattern ++ ['\n']), names)

def isLoneClass (text : Text) : Bool :=
  match text.dropWhile (· ≠ '[') with
  | '[' :: ':' :: rest =>
    let inner := rest.takeWhile (· ≠ ']')
    inner.getLast? = some ':' && 1 < inner.length
  | _ => false

def patternOf (kind : Char) (foldCase : Bool) (text : Text) : Running (Regex.Setting × Regex) := do
  if kind = 'F' then return ({ foldCase := foldCase }, Regex.ofText text)
  if isLoneClass text then
    reportText "character class syntax is [[:space:]], not [:space:]"
    leaveWith 2
  match Regex.parse ⟨kind ≠ 'G', true⟩ text with
  | .ok parsed =>
    for sign in parsed.idle do report (ofString "warning: " ++ sign ++ ofString " at start of expression")
    return ({ foldCase := foldCase, exact := parsed.regex.refersBack }, parsed.regex)
  | .error message =>
    reportText message
    leaveWith 2

def contextOf (arguments : Arguments) : Running (Option Nat × Option Nat) := do
  let size (word : Text) : Running Nat := do
    if word ≠ [] && word.all Char.isDigit then return (digitsFrom 10 0 word).1
    report (word ++ ofString ": invalid context length argument")
    leaveWith 2
  let digits := (arguments.options.map Prod.fst).filter Char.isDigit
  let both ← match arguments.last? 'C' with
    | some word => some <$> size word
    | none => pure (if digits.isEmpty then none else some (digitsFrom 10 0 digits).1)
  let one (letter : Char) : Running (Option Nat) := do
    match arguments.last? letter with
    | some word => return some (← size word)
    | none => return both
  return (← one 'B', ← one 'A')

def mostOf (arguments : Arguments) : Running (Option Nat) := do
  match arguments.last? 'm' with
  | none => return none
  | some word =>
    let (negative, digits) := match word with
      | '-' :: digits => (true, digits)
      | digits => (false, digits)
    match count? digits with
    | some value => return if negative then none else some value
    | none =>
      reportText "invalid max count"
      leaveWith 2

def searchWith (kind : Option Char) : Program := fun _ words => do
  let arguments ← arguments searchGrammar words
  let has := arguments.has
  let (before, after) ← contextOf arguments
  let most ← mostOf arguments
  let kinds := ['E', 'F', 'G', 'P'].filter fun letter => has letter || kind = some letter
  if 1 < kinds.length then
    reportText "conflicting matchers specified"
    leaveWith 2
  let (texts, names) ← patternTexts arguments
  let kind := kinds.headD 'G'
  let foldCase := arguments.lastOf ['i', 'y', 'J'] ≠ some 'J' && (has 'i' || has 'y')
  let patterns ← texts.mapM (patternOf kind foldCase)
  let recursive := has 'r' || has 'R' || arguments.last? 'd' = some (ofString "recurse")
  let isApart := (before.isSome || after.isSome) && !has 'Y'
  let search : Search := {
    patterns := patterns, wholeLine := has 'x', wholeWord := has 'w' && !has 'x', inverted := has 'v'
    before := before.getD 0, after := after.getD 0
    separator := if isApart then some ((arguments.last? 'S').getD ['-', '-']) else none
    most := most, count := has 'c', quiet := has 'q', onlyMatches := has 'o'
    listed := (arguments.lastOf ['l', 'L']).map (· = 'l'), lineNumbers := has 'n', offsets := has 'b'
    tabs := has 'T', nulAfterName := has 'Z', ending := if has 'z' then '\x00' else '\n'
    binary := match arguments.lastOf ['a', 'I', 'Q'] with
      | some 'a' => some true
      | some 'I' => some false
      | some _ => match arguments.last? 'Q' with
        | some kind => if kind = ofString "text" then some true
          else if kind = ofString "without-match" then some false else none
        | none => none
      | none => none }
  let given (letter : Char) : List Text := arguments.options.filterMap fun (other, value) =>
    if other = letter then some value else none
  let titled := match arguments.lastOf ['H', 'h'] with
    | some letter => letter = 'H'
    | none => 1 < names.length || (recursive && names.isEmpty)
  let disk ← getDisk
  let isDirectory := match names with
    | [name] => recursive && (disk.look (pathOf name)).toOption.any fun node => match node with
      | .dir _ => true
      | _ => false
    | _ => false
  let reach : Reach := {
    recursive := recursive, followLinks := has 'R'
    skipDirectories := arguments.last? 'd' = some (ofString "skip")
    included := given 'N', excluded := given 'O', excludedDirectories := given 'W', silent := has 's'
    label := (arguments.last? 'M').getD (ofString "(standard input)")
    titled := titled || (isDirectory && arguments.lastOf ['H', 'h'] ≠ some 'h') }
  let names := if names.isEmpty then (if recursive then [['.', '/']] else [['-']]) else names
  if search.most = some 0 && !search.count && search.listed.isNone then return 1
  let findings ← searchFrom search reach 1000000 true names {}
  return if findings.failed && !(search.quiet && findings.found) then 2 else if findings.found then 0 else 1

end InkProject.Script.Program
