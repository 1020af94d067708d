import InkProject.Script.Arithmetic
set_option autoImplicit false

namespace InkProject.Script.Signal

def names : List Text := (["EXIT", "HUP", "INT", "QUIT", "ILL", "TRAP", "ABRT", "BUS", "FPE", "KILL",
  "USR1", "SEGV", "USR2", "PIPE", "ALRM", "TERM", "16", "CHLD", "CONT", "STOP", "TSTP", "TTIN",
  "TTOU", "URG", "XCPU", "XFSZ", "VTALRM", "PROF", "WINCH", "IO", "PWR", "SYS", "32", "33", "RTMIN"] ++
  (List.range 15).map (fun index => s!"RTMIN+{index + 1}") ++
  (List.range 14).reverse.map (fun index => s!"RTMAX-{index + 1}") ++ ["RTMAX"]).map String.toList

def count : Nat := names.length

def name (signal : Nat) : Text := names.getD signal []

def texts : List (Nat × String) := [(1, "Hangup"), (2, "Interrupt"), (3, "Quit"),
  (4, "Illegal instruction"), (5, "Trace/breakpoint trap"), (6, "Aborted"), (7, "Bus error"),
  (8, "Floating point exception"), (9, "Killed"), (10, "User defined signal 1"),
  (11, "Segmentation fault"), (12, "User defined signal 2"), (13, "Broken pipe"), (14, "Alarm clock"),
  (15, "Terminated"), (16, "Stack fault"), (24, "CPU time limit exceeded"),
  (25, "File size limit exceeded"), (26, "Virtual timer expired"), (27, "Profiling timer expired"),
  (29, "I/O possible"), (30, "Power failure"), (31, "Bad system call")]

def text (signal : Nat) : String :=
  match texts.lookup signal with
  | some text => text
  | none => if 34 ≤ signal then s!"Real-time signal {signal - 34}" else s!"Unknown signal {signal}"

def kill : Nat := 9
def pipe : Nat := 13
def interrupt : Nat := 2

def harmless : List Nat := [0, 17, 18, 23, 28]

def isSilent (signal : Nat) : Bool := signal = interrupt || signal = pipe

def ofDigits? (text : Text) : Option Nat :=
  if text ≠ [] && text.all Char.isDigit then
    some (digitsFrom 10 0 text).1 |>.filter (· < count)
  else none

def ofText? (text : Text) : Option Nat :=
  (ofDigits? text).or (names.findIdx? (· = text.map Char.toUpper))

end InkProject.Script.Signal
