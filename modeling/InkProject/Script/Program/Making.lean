import InkProject.Script.Program.Copying
set_option autoImplicit false

namespace InkProject.Script.Program

open Shell

def toEach (one : Text → Running Nat) : List Text → Nat → Running Nat
  | [], status => return status
  | name :: names, status => do
    let done ← one name
    toEach one names (max status done)

def kindOf : Node → String
  | .file content _ => if content.isEmpty then "regular empty file" else "regular file"
  | .dir _ => "directory"
  | .link _ => "symbolic link"
  | .device _ => "character special file"

structure Removal where
  whole : Bool
  forced : Bool
  empties : Bool
  asks : Bool
  tells : Bool

def tellRemoved (name : Text) (node : Node) : Running Unit := do
  for (path, inner) in (walked treeDepth [] node).reverse do
    sayLine (ofString (if inner.isDir then "removed directory " else "removed ") ++ quoted (name ++ path))

def removeOne (removal : Removal) (name : Text) : Running Nat := do
  let cannot := ofString "cannot remove " ++ quoted name
  let last := lastName name
  if removal.whole && (last = ['.'] || last = ['.', '.']) then
    report (ofString "refusing to remove '.' or '..' directory: skipping " ++ quoted name)
    return 1
  if removal.whole && last = ['/'] then
    report (ofString "it is dangerous to operate recursively on " ++ quoted name)
    reportText "use --no-preserve-root to override this failsafe"
    return 1
  match ← statOf false name with
  | .error error => if removal.forced && absent error then return 0 else complainAbout cannot error
  | .ok (place, .dir entries) =>
    if !removal.whole && !removal.empties then return ← complainAbout cannot .isDirectory
    if !removal.whole && entries ≠ .nil then return ← complainAbout cannot .notEmpty
    if removal.asks then
      let verb := if entries = .nil then "remove directory " else "descend into directory "
      if !(← agrees (ofString verb ++ quoted name)) then return 0
    if removal.tells then tellRemoved name (.dir entries)
    setDisk ((← getDisk).set place none)
    return 0
  | .ok (_, node) =>
    if removal.asks then
      if !(← agrees (ofString s!"remove {kindOf node} " ++ quoted name)) then return 0
    match (← getDisk).remove (pathOf name) with
    | .error error => complainAbout cannot error
    | .ok disk =>
      setDisk disk
      if removal.tells then sayLine (ofString "removed " ++ quoted name)
      return 0

def rm : Program := fun _ words => do
  let arguments ← arguments { letters := "dfirvIR", names := [("force", 'f', .none), ("dir", 'd', .none),
    ("recursive", 'r', .none), ("verbose", 'v', .none), ("interactive", 'i', .optional)] } words
  let forced := arguments.lastOf ['f', 'i', 'I'] = some 'f'
  if arguments.operands.isEmpty then
    if forced then return 0 else misused 1 (ofString "missing operand")
  toEach (removeOne {
    whole := arguments.has 'r' || arguments.has 'R', forced := forced, empties := arguments.has 'd'
    asks := arguments.lastOf ['f', 'i'] = some 'i', tells := arguments.has 'v' }) arguments.operands 0

def prefixes (name : Text) : List Text :=
  (List.range name.length).filterMap fun index =>
    let isEnd := name[index + 1]?.getD '/' = '/'
    if name[index]? ≠ some '/' && isEnd then some (name.take (index + 1)) else none

def makeOne (tells : Bool) (name : Text) : Running (Except IoError Unit) := do
  let disk ← getDisk
  match disk.makeDir (pathOf name) with
  | .error error => return .error error
  | .ok made =>
    setDisk made
    if tells then sayLine ((← get).name ++ ofString ": created directory " ++ cited name)
    return .ok ()

def cannotMake (name : Text) (error : IoError) : Running Nat :=
  complainAbout (ofString "cannot create directory " ++ cited name) error

def makeAll (tells : Bool) : List Text → Running Nat
  | [] => return 0
  | name :: names => do
    if ← isDirectory name then makeAll tells names
    else match ← makeOne tells name with
      | .ok () => makeAll tells names
      | .error error =>
        if names.isEmpty then cannotMake name error
        else cannotMake name (if error = .taken then .notDirectory else error)

def mkdir : Program := fun _ words => do
  let arguments ← arguments { letters := "m:pvZ", names := [("parents", 'p', .none), ("mode", 'm', .required),
    ("verbose", 'v', .none)] } words
  if arguments.operands.isEmpty then misused 1 (ofString "missing operand")
  let tells := arguments.has 'v'
  toEach (fun name => do
    if arguments.has 'p' && !name.isEmpty then makeAll tells ((prefixes name).dropLast ++ [name])
    else match ← makeOne tells name with
      | .ok () => return 0
      | .error error => cannotMake name error) arguments.operands 0

def removeDir (disk : Disk) (name : Text) : Except IoError Disk := do
  let last := lastName name
  if last = ['/'] then .error .busy
  else if last = ['.'] then
    let _ ← disk.locate true (pathOf name)
    .error .invalid
  else match ← disk.locate false (pathOf name) with
    | (place, .dir .nil) => return disk.set place none
    | (_, .dir _) => .error .notEmpty
    | _ => .error .notDirectory

def rmdir : Program := fun _ words => do
  let arguments ← arguments { letters := "pv", names := [("parents", 'p', .none), ("verbose", 'v', .none),
    ("ignore-fail-on-non-empty", 'i', .none)] } words
  if arguments.operands.isEmpty then misused 1 (ofString "missing operand")
  let removeEach (name : Text) (isParent : Bool) : Running Nat := do
    if arguments.has 'v' then sayLine ((← get).name ++ ofString ": removing directory, " ++ quoted name)
    match removeDir (← getDisk) name with
    | .ok disk =>
      setDisk disk
      return 0
    | .error error =>
      if error = .notEmpty && arguments.has 'i' then return 0
      let what := if isParent then "failed to remove directory " else "failed to remove "
      complainAbout (ofString what ++ quoted name) error
  toEach (fun name => do
    let done ← removeEach name false
    if done = 0 && arguments.has 'p' then
      let mut status := 0
      for parent in (prefixes name).dropLast.reverse do
        if status = 0 then status := ← removeEach parent true
      return status
    return done) arguments.operands 0

def touchOne (creates : Bool) (time : Option Nat) (name : Text) : Running Nat := do
  let disk ← getDisk
  let noted (place : Place) : Running Unit := do
    touch place
    match time with
    | some time => modify fun shell => { shell with
      machine.times := (place, time) :: shell.machine.times.filter (·.1 ≠ place) }
    | none => pure ()
  match disk.locate true (pathOf name) with
  | .ok (place, _) =>
    noted place
    return 0
  | .error error =>
    if !creates && error = .notFound then return 0
    if name.getLast? = some '/' then return ← complainAbout (ofString "setting times of " ++ quoted name) error
    match disk.write (pathOf name) [] with
    | .error error => complainAbout (ofString "cannot touch " ++ quoted name) error
    | .ok disk =>
      setDisk disk
      match disk.locate true (pathOf name) with
      | .ok (place, _) =>
        noted place
        return 0
      | .error error => complainAbout (ofString "cannot touch " ++ quoted name) error

def touchProgram : Program := fun _ words => do
  let arguments ← arguments { letters := "acd:fhmr:t:", names := [("no-create", 'c', .none),
    ("date", 'd', .required), ("reference", 'r', .required), ("time", 'x', .required),
    ("no-dereference", 'h', .none)] } words
  let time ← match arguments.last? 'r' with
    | none => pure (if arguments.has 'd' || arguments.has 't' then some 0 else none)
    | some name => match ← statOf true name with
      | .ok (place, _) => some <$> timeOf place
      | .error error =>
        reportError (ofString "failed to get attributes of " ++ quoted name) error
        leaveWith 1
  if arguments.operands.isEmpty then misused 1 (ofString "missing file operand")
  toEach (touchOne (!arguments.has 'c') time) arguments.operands 0

structure Linking where
  symbolic : Bool
  forced : Bool
  tells : Bool

def linkOne (linking : Linking) : Moving := fun source target => do
  let kind := if linking.symbolic then "symbolic" else "hard"
  let failed := ofString s!"failed to create {kind} link " ++ quoted target
  let disk ← getDisk
  let found ← if linking.symbolic then pure (.ok none) else do
    pure (Except.map some (← statOf false source))
  match found with
  | .error error => complainAbout (ofString "failed to access " ++ quoted source) error
  | .ok (some (_, .dir _)) =>
    report (quotedIfNeeded source ++ ofString ": hard link not allowed for directory")
    return 1
  | .ok held =>
    if linking.symbolic && source.isEmpty then
      return ← complainAbout (failed ++ ofString " -> " ++ quoted source) .notFound
    match disk.locate false (pathOf target) with
    | .ok (place, node) =>
      if !linking.forced then return ← complainAbout failed .taken
      if node.isDir then
        report (quotedIfNeeded target ++ ofString ": cannot overwrite directory")
        return 1
      if ((← statOf false source).toOption.map Prod.fst) = some place then
        report (both source target " and " ++ ofString " are the same file")
        return 1
    | .error _ => pure ()
    match (disk.ending (pathOf target)).bind fun ending =>
        if ending.slashed && !(disk.exists? (pathOf target)) then .error .notFound else ending.place .taken with
    | .error error => complainAbout failed error
    | .ok place =>
      let node := match held with
        | some (_, node) => node
        | none => .link (toBytes source)
      setDisk (disk.set place (some node))
      touch place
      if linking.tells then sayLine (both target source (if linking.symbolic then " -> " else " => "))
      return 0

def ln : Program := fun _ words => do
  let arguments ← arguments { letters := "bdfinst:vFLPrST", names := [("force", 'f', .none),
    ("symbolic", 's', .none), ("no-dereference", 'n', .none), ("target-directory", 't', .required),
    ("no-target-directory", 'T', .none), ("verbose", 'v', .none), ("relative", 'r', .none)] } words
  let last := (arguments.operands.getLast?).getD []
  let isLink := match (← getDisk).locate false (pathOf last) with
    | .ok (_, .link _) => true
    | _ => false
  let exact := arguments.has 'n' && isLink && arguments.operands.length = 2 && !arguments.has 't'
  let pairs ← if exact then pure [(arguments.operands.headD [], last)] else targetsOf "ln" arguments
  eachMoved (linkOne {
    symbolic := arguments.has 's', forced := arguments.has 'f', tells := arguments.has 'v' }) pairs 0

def permissions (mode : Nat) : Text :=
  let bits (value : Nat) : Text :=
    [if value &&& 4 = 0 then '-' else 'r', if value &&& 2 = 0 then '-' else 'w', if value &&& 1 = 0 then '-' else 'x']
  bits (mode / 64 % 8) ++ bits (mode / 8 % 8) ++ bits (mode % 8)

def changedMode? (mask : Nat) (isDir : Bool) (change : Text) (mode : Nat) : Option Nat :=
  if change ≠ [] && change.all isOctal then
    let value := (digitsFrom 8 0 change).1
    if value ≤ 4095 then some (value % 512) else none
  else
    let part (mode : Nat) (text : Text) : Option Nat :=
      let runs := isDir || mode &&& 73 ≠ 0
      let text := text.filterMap fun char =>
        if char = 'X' then (if runs then some 'x' else none) else if char = 's' || char = 't' then none else some char
      let isOpen := (text.head?).any fun char => ['+', '-', '='].contains char
      match Builtin.applyMode mode text with
      | none => none
      | some changed => if isOpen then some ((changed &&& (511 - mask)) ||| (mode &&& mask)) else some changed
    (Builtin.splitAtCommas change).foldlM part mode

def modeOf : Node → Nat
  | .file _ executable => if executable then 493 else 420
  | _ => 493

def octalMode (mode : Nat) : Text :=
  let digits := Nat.toDigits 8 mode
  List.replicate (4 - digits.length) '0' ++ digits

def tellMode (always : Bool) (name : Text) (old new : Nat) : Running Unit := do
  let shown (mode : Nat) : Text := octalMode mode ++ ofString " (" ++ permissions mode ++ [')']
  if old = new then
    if always then sayLine (ofString "mode of " ++ quoted name ++ ofString " retained as " ++ shown old)
  else sayLine (ofString "mode of " ++ quoted name ++ ofString " changed from " ++ shown old ++ ofString " to " ++ shown new)

def setMode (place : Place) (node : Node) (mode : Nat) : Running Unit := do
  match node with
  | .file content _ => setDisk ((← getDisk).set place (some (.file content (mode &&& 73 ≠ 0))))
  | _ => return ()

def chmod : Program := fun _ words => do
  let isMode (word : Text) : Bool := match word with
    | '-' :: rest => rest ≠ [] && rest.all fun char => ['r', 'w', 'x', 'X', 's', 't', ',', '+', '-', '='].contains char
    | _ => false
  let flagged := words.filter fun word => !isMode word
  let arguments ← arguments { letters := "cfvR", names := [("recursive", 'R', .none), ("verbose", 'v', .none),
    ("changes", 'c', .none), ("silent", 'f', .none), ("quiet", 'f', .none), ("reference", 'r', .required)] } flagged
  let quiet := arguments.has 'f'
  let operands := (words.filter isMode) ++ arguments.operands
  let (change, names) ← match arguments.last? 'r' with
    | some name => match ← statOf true name with
      | .ok (_, node) => pure (octalMode (modeOf node), arguments.operands)
      | .error error =>
        reportError (ofString "failed to get attributes of " ++ quoted name) error
        leaveWith 1
    | none => match operands with
      | [] => misused 1 (ofString "missing operand")
      | [only] => misused 1 (ofString "missing operand after " ++ cited only)
      | change :: names => pure (change, names)
  let mask := (← get).mask
  if (changedMode? mask false change 420).isNone then misused 1 (ofString "invalid mode: " ++ cited change)
  toEach (fun name => do
    match ← statOf true name with
    | .error error =>
      if quiet then return 1
      if (← statOf false name).isOk then
        report (ofString "cannot operate on dangling symlink " ++ quoted name)
        return 1
      complainAbout (ofString "cannot access " ++ quoted name) error
    | .ok (place, node) =>
      let all := if arguments.has 'R' then walked treeDepth name node else [(name, node)]
      for (path, inner) in all do
        let old := modeOf inner
        let new := (changedMode? mask inner.isDir change old).getD old
        match inner with
        | .link _ => pure ()
        | _ =>
          if arguments.has 'v' || arguments.has 'c' then tellMode (arguments.has 'v') path old new
          if path = name then setMode place inner new
          else if let .ok (place, _) ← statOf false path then setMode place inner new
      return 0) names 0

end InkProject.Script.Program
