import ZoneGuard.Shell.State

/-!
# Signals

The signals by number and name, what each does to a process that does not expect it, and what a
shell says of a process that one has ended.
-/

namespace ZoneGuard.Shell

/-- The names of the first signals by number. Zero stands for the end of a shell. -/
def commonSignals : List (Nat × String) :=
  [(0, "EXIT"), (1, "HUP"), (2, "INT"), (3, "QUIT"), (4, "ILL"), (5, "TRAP"), (6, "ABRT"),
   (7, "BUS"), (8, "FPE"), (9, "KILL"), (10, "USR1"), (11, "SEGV"), (12, "USR2"), (13, "PIPE"),
   (14, "ALRM"), (15, "TERM"), (17, "CHLD"), (18, "CONT"), (19, "STOP"), (20, "TSTP"),
   (21, "TTIN"), (22, "TTOU"), (23, "URG"), (24, "XCPU"), (25, "XFSZ"), (26, "VTALRM"),
   (27, "PROF"), (28, "WINCH"), (29, "IO"), (30, "PWR"), (31, "SYS")]

def maxSignal : Nat := 64

/-- The name of the signal with the number, which is the number for a few. The last thirty are
counted from the first and the last of them. -/
def signalName (n : Nat) : String :=
  match commonSignals.lookup n with
  | some name => name
  | none =>
    if n < 34 then toString n
    else if n = 34 then "RTMIN"
    else if n < 50 then "RTMIN+" ++ toString (n - 34)
    else if n < maxSignal then "RTMAX-" ++ toString (maxSignal - n)
    else "RTMAX"

/-- The number of the signal that a text names by number or by name, in letters of any case. -/
def signalNumber? (text : Octets) : Option Nat :=
  let numbers := List.range (maxSignal + 1)
  if !text.isEmpty && text.all Char.isDigit then numbers.find? (· == digitsValue 10 text)
  else numbers.find? fun n => (signalName n).toList == text.map Char.toUpper

/-- Whether a process is not ended by the signal. -/
def isHarmless (signal : Nat) : Bool := [0, 17, 18, 23, 28].contains signal

def isHalting (signal : Nat) : Bool := [19, 20, 21, 22].contains signal

/-- Whether a process cannot expect the signal. -/
def isSure (signal : Nat) : Bool := [9, 19].contains signal

def signalText? (signal : Nat) : Option String :=
  if 34 ≤ signal then some ("Real-time signal " ++ toString (signal - 34))
  else
    [(1, "Hangup"), (3, "Quit"), (4, "Illegal instruction"), (5, "Trace/breakpoint trap"),
     (6, "Aborted"), (7, "Bus error"), (8, "Floating point exception"), (9, "Killed"),
     (10, "User defined signal 1"), (11, "Segmentation fault"), (12, "User defined signal 2"),
     (14, "Alarm clock"), (15, "Terminated"), (16, "Stack fault"),
     (24, "CPU time limit exceeded"), (25, "File size limit exceeded"),
     (26, "Virtual timer expired"), (27, "Profiling timer expired"), (29, "I/O possible"),
     (30, "Power failure"), (31, "Bad system call")].lookup signal

example : signalName 49 = "RTMIN+15" ∧ signalName 50 = "RTMAX-14" := by decide

end ZoneGuard.Shell
