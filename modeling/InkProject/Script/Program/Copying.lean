import InkProject.Script.Program.Basic
set_option autoImplicit false

namespace InkProject.Script.Program

open Shell

def statOf (follow : Bool) (name : Text) : Running (Except IoError (Place × Node)) :=
  return (← getDisk).locate follow (pathOf name)

def lastName (name : Text) : Text :=
  let trimmed := (name.reverse.dropWhile (· = '/')).reverse
  let last := (trimmed.reverse.takeWhile (· ≠ '/')).reverse
  if last.isEmpty then (if name.isEmpty then [] else ['/']) else last

def isDirectory (name : Text) : Running Bool := return (← getDisk).isDir (pathOf name)

def both (first second : Text) (between : String) : Text :=
  quoted first ++ ofString between ++ quoted second

def agrees (question : Text) : Running Bool := do
  complain ((← get).name ++ ofString ": " ++ question ++ ofString "? ")
  match ← takeInput 0 fun rest => (rest.takeWhile (· ≠ '\n')).length + 1 with
  | .ok (char :: _) => return char = 'y' || char = 'Y'
  | _ => return false

structure Transfer where
  whole : Bool := false
  keepLinks : Bool := false
  keepModes : Bool := false
  forced : Bool := false
  asks : Bool := false
  keepsOld : Bool := false
  newerOnly : Bool := false
  tells : Bool := false
  asLink : Bool := false

abbrev Moving := Text → Text → Running Nat

def targetsOf (program : String) (arguments : Arguments) : Running (List (Text × Text)) := do
  let operands := arguments.operands
  let given := arguments.last? 't'
  if operands.isEmpty then misused 1 (ofString "missing file operand")
  let into (directory : Text) (names : List Text) : List (Text × Text) :=
    names.map fun name => (name, below directory (lastName name))
  match given with
  | some directory =>
    if ← isDirectory directory then return into directory operands
    else
      let error := match (← getDisk).look (pathOf directory) with
        | .ok _ => IoError.notDirectory
        | .error error => error
      reportError (ofString "target directory " ++ quoted directory) error
      leaveWith 1
  | none =>
    let last := (operands.getLast?).getD []
    let names := operands.dropLast
    match names with
    | [] =>
      if program = "ln" then
        return into ['.'] [last]
      else misused 1 (ofString "missing destination file operand after " ++ quoted last)
    | [only] =>
      if !arguments.has 'T' && (← isDirectory last) then return into last [only]
      else return [(only, last)]
    | _ =>
      if arguments.has 'T' then
        misused 1 (ofString "extra operand " ++ quoted (operands.getD 2 []))
      if ← isDirectory last then return into last names
      else
        let error := match (← getDisk).look (pathOf last) with
          | .ok _ => IoError.notDirectory
          | .error error => error
        reportError (ofString "target " ++ quoted last) error
        leaveWith 1

def complainAbout (message : Text) (error : IoError) : Running Nat := do
  reportError message error
  return 1

def merged : Nat → Entries → Entries → Entries
  | 0, _, old => old
  | fuel + 1, new, old =>
    new.toList.foldl (fun old (name, node) => match node, old.find? name with
      | .dir inner, some (.dir held) => old.put name (.dir (merged fuel inner held))
      | .file content _, some (.file _ executable) => old.put name (.file content executable)
      | node, _ => old.put name node) old

def treeDepth : Nat := 4096

def walked : Nat → Text → Node → List (Text × Node)
  | 0, _, _ => []
  | fuel + 1, path, node =>
    (path, node) :: match node with
      | .dir entries => entries.toList.flatMap fun (name, inner) => walked fuel (below path (ofBytes name)) inner
      | _ => []

def tellCopied (source target : Text) (node : Node) : Running Unit := do
  for (path, _) in walked treeDepth [] node do
    sayLine (both (source ++ path) (target ++ path) " -> ")

def putLink (held target : Text) : Running Nat := do
  let disk ← getDisk
  match (disk.ending (pathOf target)).bind (·.place .taken) with
  | .error error => complainAbout (ofString "cannot create symbolic link " ++ quoted target) error
  | .ok place => match disk.top.at? place with
    | some (.dir _) =>
      report (ofString "cannot overwrite directory " ++ quoted target ++ ofString " with non-directory")
      return 1
    | _ =>
      setDisk (disk.set place (some (.link (toBytes held))))
      touch place
      return 0

def copyTree (transfer : Transfer) (source target : Text) (place : Place) (entries : Entries) : Running Nat := do
  let disk ← getDisk
  let arrived := disk.locate true (pathOf target)
  match arrived with
  | .ok (_, .file _ _) | .ok (_, .device _) =>
    report (ofString "cannot overwrite non-directory " ++ quoted target ++ ofString " with directory " ++ quoted source)
    return 1
  | .error .notDirectory => complainAbout (ofString "cannot stat " ++ quoted target) .notDirectory
  | _ =>
    let made : Except IoError (Disk × Place) := match arrived with
      | .ok (held, _) => .ok (disk, held)
      | .error _ => do
        let made ← disk.makeDir (pathOf target)
        return (made, (← made.locate true (pathOf target)).1)
    match made with
    | .error error => complainAbout (ofString "cannot create directory " ++ quoted target) error
    | .ok (made, goal) =>
      let isInside := place.isPrefixOf goal
      let kept := if isInside then (Entries.set (goal.drop place.length) none entries) else entries
      let old := match made.top.at? goal with
        | some (.dir old) => old
        | _ => .nil
      let merging := merged treeDepth kept old
      setDisk (if goal.isEmpty then { made with top := merging } else made.set goal (some (.dir merging)))
      touch goal
      if transfer.tells then tellCopied source target (.dir kept)
      if isInside then
        report (ofString "cannot copy a directory, " ++ quoted source ++ ofString ", into itself, " ++ quoted target)
        return 1
      return 0

def copyBytes (transfer : Transfer) (source target : Text) (content : Bytes) (executable : Bool) : Running Nat := do
  let disk ← getDisk
  let there := disk.locate true (pathOf target)
  match there with
  | .ok (_, .device .full) =>
    if content.isEmpty then return 0 else complainAbout (ofString "error writing " ++ quoted target) .noSpace
  | .ok (_, .device .null) => return 0
  | .ok (place, .file _ was) =>
    setDisk (disk.set place (some (.file content (if transfer.keepModes then executable else was))))
    touch place
    if transfer.tells then sayLine (both source target " -> ")
    return 0
  | _ =>
    if (disk.locate false (pathOf target)).isOk then
      report (ofString "not writing through dangling symlink " ++ quoted target)
      return 1
    match disk.write (pathOf target) content with
    | .error error =>
      let error := if error = .isDirectory then .notDirectory else error
      complainAbout (ofString "cannot create regular file " ++ quoted target) error
    | .ok disk => match disk.locate true (pathOf target) with
      | .ok (place, _) =>
        setDisk (disk.set place (some (.file content executable)))
        touch place
        if transfer.tells then sayLine (both source target " -> ")
        return 0
      | .error error => complainAbout (ofString "cannot create regular file " ++ quoted target) error

def timeOf (place : Place) : Running Nat := return ((← get).machine.times.lookup place).getD 0

def copyOnto (transfer : Transfer) (source target : Text) (place : Place) (node : Node) : Running Nat := do
  let disk ← getDisk
  match disk.locate true (pathOf target) with
  | .ok (held, old) =>
    if transfer.keepsOld && !old.isDir then return 0
    if held = place then
      report (both source target " and " ++ ofString " are the same file")
      return 1
    if old.isDir && !node.isDir then
      report (ofString "cannot overwrite directory " ++ quoted target ++ ofString " with non-directory")
      return 1
    if transfer.newerOnly && !old.isDir && (← timeOf place) ≤ (← timeOf held) then return 0
    if transfer.asks && !old.isDir then
      if !(← agrees (ofString "overwrite " ++ quoted target)) then return 1
  | .error error =>
    if error ≠ .notFound then return ← complainAbout (ofString "cannot stat " ++ quoted target) error
  match node with
  | .file content executable =>
    if transfer.asLink then putLink source target else copyBytes transfer source target content executable
  | .device _ => copyBytes transfer source target [] false
  | .link held =>
    if transfer.tells then sayLine (both source target " -> ")
    putLink (ofBytes held) target
  | .dir entries =>
    if transfer.whole then copyTree transfer source target place entries
    else
      report (ofString "-r not specified; omitting directory " ++ quoted source)
      return 1

def copyOne (transfer : Transfer) : Moving := fun source target => do
  match streamNamed? source with
  | some stream => match ← takeAll stream with
    | .ok text => copyBytes transfer source target (toBytes text) false
    | .error error => complainAbout (ofString "cannot stat " ++ quoted source) error
  | none => match ← statOf (!transfer.keepLinks) source with
    | .error error => complainAbout (ofString "cannot stat " ++ quoted source) error
    | .ok (place, node) =>
      if node.isDir && !transfer.whole then
        report (ofString "-r not specified; omitting directory " ++ quoted source)
        return 1
      else copyOnto transfer source target place node

def eachOnce (one : Moving) : List (Text × Text) → List Place → Nat → Running Nat
  | [], _, status => return status
  | (source, target) :: rest, seen, status => do
    match ← statOf false source with
    | .ok (place, node) =>
      if seen.contains place then
        let kind := if node.isDir then "directory" else "file"
        report (ofString s!"warning: source {kind} " ++ quoted source ++ ofString " specified more than once")
        eachOnce one rest seen status
      else
        let done ← one source target
        eachOnce one rest (place :: seen) (max status done)
    | .error _ =>
      let done ← one source target
      eachOnce one rest seen (max status done)

def copyGrammar : Grammar := { letters := "abdfHilLnprst:uvxPRT", names := [("archive", 'a', .none),
  ("force", 'f', .none), ("interactive", 'i', .none), ("no-clobber", 'n', .none),
  ("no-dereference", 'P', .none), ("dereference", 'L', .none), ("preserve", 'p', .optional),
  ("recursive", 'r', .none), ("symbolic-link", 's', .none), ("target-directory", 't', .required),
  ("no-target-directory", 'T', .none), ("update", 'u', .optional), ("verbose", 'v', .none),
  ("link", 'l', .none), ("backup", 'b', .optional)] }

def cp : Program := fun _ words => do
  let arguments ← arguments copyGrammar words
  let any (letters : List Char) : Bool := letters.any arguments.has
  let whole := any ['r', 'R', 'a']
  let keepsOld := arguments.lastOf ['n', 'i', 'f'] = some 'n'
  let transfer : Transfer := {
    whole := whole
    keepLinks := match arguments.lastOf ['P', 'd', 'a', 'L', 'H'] with
      | some letter => letter ≠ 'L' && letter ≠ 'H'
      | none => whole
    keepModes := any ['p', 'a']
    asks := arguments.lastOf ['n', 'i', 'f'] = some 'i', keepsOld := keepsOld
    newerOnly := any ['u'], tells := any ['v'], asLink := any ['s'] }
  let pairs ← targetsOf "cp" arguments
  if arguments.has 'n' then
    reportText "warning: behavior of -n is non-portable and may change in future; use --update=none instead"
  eachOnce (copyOne transfer) pairs [] 0

def moveChannels (old new : Place) : Running Unit :=
  modify fun shell => { shell with
    machine.channels := shell.machine.channels.map fun channel => match channel with
      | .file place offset opening => .file (Disk.moveWorking old new place) offset opening
      | other => other
    machine.times := shell.machine.times.map fun (place, time) => (Disk.moveWorking old new place, time) }

def moveFault (source target : Text) (node : Node) (error : IoError) : Running Nat := do
  let isOver := (← getDisk).exists? (pathOf target)
  if error = .invalid then
    report (ofString "cannot move " ++ quoted source ++ ofString " to a subdirectory of itself, " ++ quoted target)
    return 1
  else if error = .notEmpty then complainAbout (ofString "cannot overwrite " ++ quoted target) error
  else if error = .isDirectory || target.isEmpty then
    report (ofString "cannot overwrite directory " ++ quoted target ++ ofString " with non-directory")
    return 1
  else if error = .notDirectory && node.isDir && isOver then
    report (ofString "cannot overwrite non-directory " ++ quoted target ++ ofString " with directory " ++ quoted source)
    return 1
  else if error = .notDirectory && !isOver && target.getLast? ≠ some '/' then
    complainAbout (ofString "cannot stat " ++ quoted target) error
  else complainAbout (ofString "cannot move " ++ both source target " to ") error

def moveOne (transfer : Transfer) : Moving := fun source target => do
  match ← statOf false source with
  | .error error => complainAbout (ofString "cannot stat " ++ quoted source) error
  | .ok (place, node) =>
    match ← statOf false target with
    | .ok (held, old) =>
      if held = place && node.isDir = false then
        report (both source target " and " ++ ofString " are the same file")
        return 1
      if transfer.keepsOld then
        report (ofString "not replacing " ++ quoted target)
        return 1
      if transfer.newerOnly && (← timeOf place) ≤ (← timeOf held) then return 0
      if transfer.asks && !old.isDir then
        if !(← agrees (ofString "overwrite " ++ quoted target)) then return 1
    | .error _ => pure ()
    match (← getDisk).rename (pathOf source) (pathOf target) with
    | .error error => moveFault source target node error
    | .ok disk =>
      setDisk disk
      match disk.locate false (pathOf target) with
      | .ok (goal, _) => moveChannels place goal
      | .error _ => pure ()
      if transfer.tells then sayLine (ofString "renamed " ++ both source target " -> ")
      return 0

def eachMoved (one : Moving) : List (Text × Text) → Nat → Running Nat
  | [], status => return status
  | (source, target) :: rest, status => do
    let done ← one source target
    eachMoved one rest (max status done)

def mv : Program := fun _ words => do
  let arguments ← arguments { letters := "bfint:uvT", names := [("force", 'f', .none),
    ("interactive", 'i', .none), ("no-clobber", 'n', .none), ("target-directory", 't', .required),
    ("no-target-directory", 'T', .none), ("update", 'u', .optional), ("verbose", 'v', .none),
    ("backup", 'b', .optional)] } words
  let last := arguments.lastOf ['n', 'i', 'f']
  let transfer : Transfer := {
    asks := last = some 'i', keepsOld := last = some 'n', newerOnly := arguments.has 'u'
    tells := arguments.has 'v' }
  eachMoved (moveOne transfer) (← targetsOf "mv" arguments) 0

end InkProject.Script.Program
