import ReleasePackaging.Shell.Numeral

/-!
# Signals

Signals have numbers, most of them names, and end a program unless they are harmless. Number zero stands
for the end of a shell.
-/
namespace ReleasePackaging.Shell.Signal

/-- The names of the first signals, from number zero on. -/
def firstNames : List String :=
  ["EXIT", "HUP", "INT", "QUIT", "ILL", "TRAP", "ABRT", "BUS", "FPE", "KILL", "USR1", "SEGV", "USR2",
   "PIPE", "ALRM", "TERM", "16", "CHLD", "CONT", "STOP", "TSTP", "TTIN", "TTOU", "URG", "XCPU", "XFSZ",
   "VTALRM", "PROF", "WINCH", "IO", "PWR", "SYS", "32", "33"]

def names : List String :=
  firstNames ++ "RTMIN" :: ((List.range 15).map fun n => s!"RTMIN+{n + 1}") ++
    ((List.range 14).map fun n => s!"RTMAX-{14 - n}") ++ ["RTMAX"]

def name? (n : Nat) : Option String := names[n]?

/-- What the ends of programs by the first signals are called, from number one on. -/
def firstEndings : List String :=
  ["Hangup", "Interrupt", "Quit", "Illegal instruction", "Trace/breakpoint trap", "Aborted",
   "Bus error", "Floating point exception", "Killed", "User defined signal 1", "Segmentation fault",
   "User defined signal 2", "Broken pipe", "Alarm clock", "Terminated", "Stack fault", "Child exited",
   "Continued", "Stopped (signal)", "Stopped", "Stopped (tty input)", "Stopped (tty output)",
   "Urgent I/O condition", "CPU time limit exceeded", "File size limit exceeded",
   "Virtual timer expired", "Profiling timer expired", "Window changed", "I/O possible",
   "Power failure", "Bad system call"]

def ending (n : Nat) : String :=
  if n = 0 then "Unknown signal 0"
  else
    match firstEndings[n - 1]? with
    | some text => text
    | none => if n < 34 then s!"Unknown signal {n}" else s!"Real-time signal {n - 34}"

def harmless : List Nat := [0, 17, 18, 19, 20, 21, 22, 23, 28]

/-- The signal that a word gives by its number or its name, which is not a number below the least one. -/
def ofWord? (least : Nat) (word : Octets) : Option Nat :=
  if !word.isEmpty && word.all Char.isDigit then
    if sizeOf 10 word < names.length then some (sizeOf 10 word) else none
  else
    let found := names.zipIdx.find? fun (name, n) =>
      least ≤ n && name.toList == word.map Char.toUpper
    found.map Prod.snd

end ReleasePackaging.Shell.Signal
