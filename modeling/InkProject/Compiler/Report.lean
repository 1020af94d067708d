import InkProject.Compiler.Message
import InkProject.Log
import InkProject.Notice
import InkProject.Outcome
set_option autoImplicit false

namespace InkProject.Compiler

-- No exit code means the program was ended by a signal.
structure Finish where
  exitCode : Option Int
  stdout : Bytes
  stderr : Bytes
deriving DecidableEq, Repr

abbrev Launcher := Disk → Path → List Bytes → Disk × Except IoError Finish

structure Report where
  outputPath : Path
  exitCode : Option Int
  messages : List Message
  otherOutput : List String
deriving DecidableEq, Repr

namespace Report

def ofKind (kind : MessageKind) (report : Report) : List Message :=
  report.messages.filter (·.kind = kind)

def errors (report : Report) : List Message := report.ofKind .error
def warnings (report : Report) : List Message := report.ofKind .warning

def succeeded (report : Report) : Bool := report.exitCode = some 0 && report.errors.isEmpty

def ofFinish (output : Path) (finish : Finish) : Report :=
  let said := (Output.parse (Utf8.lossy finish.stdout)).append (Output.parse (Utf8.lossy finish.stderr))
  ⟨output, finish.exitCode, said.messages, said.other⟩

end Report

inductive CompileError where
  | missingSource (source : Path)
  | start (executable : Path) (error : IoError)
deriving DecidableEq, Repr

namespace CompileError

def message : CompileError → String
  | .missingSource source => s!"Story source {source.display} does not exist"
  | .start executable error => s!"Failed to start compiler {executable.display}: {error.message}"

def notice (_ : CompileError) : Notice := .blocking

def cause? : CompileError → Option IoError
  | .missingSource _ => none
  | .start _ error => some error

end CompileError

inductive CompileEvent where
  | running (executable source output : Path)
  | compiled (source : Path) (warnings : Nat)
  | failed (source : Path) (exitCode : Option Int) (errors : Nat)
deriving DecidableEq, Repr

def exitCodeText : Option Int → String
  | some code => s!"Some({code})"
  | none => "None"

def CompileEvent.line : CompileEvent → Log.Line
  | .running executable source output =>
    ⟨.debug, "Running compiler",
      [("executable", .text executable.display), ("source", .text source.display),
        ("output", .text output.display)]⟩
  | .compiled source warnings =>
    ⟨.info, "Compiled story", [("source", .text source.display), ("warnings", .integer warnings)]⟩
  | .failed source exitCode errors =>
    ⟨.warn, "Story compilation failed",
      [("source", .text source.display), ("exit_code", .text (exitCodeText exitCode)),
        ("errors", .integer errors)]⟩

def Report.event (source : Path) (report : Report) : CompileEvent :=
  if report.succeeded then .compiled source report.warnings.length
  else .failed source report.exitCode report.errors.length

def arguments (source output : Path) : List Bytes := [Utf8.ofString "-o", output.bytes, source.bytes]

def compile (launch : Launcher) (executable source output : Path) (disk : Disk) :
    Outcome CompileError Report CompileEvent :=
  if !disk.isFile source then ⟨.error (.missingSource source), disk, []⟩
  else
    let events := [.running executable source output]
    match launch disk executable (arguments source output) with
    | (disk, .error error) => ⟨.error (.start executable error), disk, events⟩
    | (disk, .ok finish) =>
      let report := Report.ofFinish output finish
      ⟨.ok report, disk, events ++ [report.event source]⟩

end InkProject.Compiler
