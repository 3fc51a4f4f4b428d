/-
# Signals

The signals that tasks can be sent: their numbers, their names, and what is said of a task that one
of them has ended.
-/

namespace ScriptedShell.Local

/-- A signal: its number, its name, and what is said of a task that it has ended. -/
structure Signal where
  number : Nat
  name : String
  text : String
  deriving Repr, DecidableEq

namespace Signal

/-- The signals. -/
def all : List Signal :=
  [⟨1, "HUP", "Hangup"⟩, ⟨2, "INT", "Interrupt"⟩, ⟨3, "QUIT", "Quit"⟩,
    ⟨4, "ILL", "Illegal instruction"⟩, ⟨5, "TRAP", "Trace/breakpoint trap"⟩, ⟨6, "ABRT", "Aborted"⟩,
    ⟨7, "BUS", "Bus error"⟩, ⟨8, "FPE", "Floating point exception"⟩, ⟨9, "KILL", "Killed"⟩,
    ⟨10, "USR1", "User defined signal 1"⟩, ⟨11, "SEGV", "Segmentation fault"⟩,
    ⟨12, "USR2", "User defined signal 2"⟩, ⟨13, "PIPE", "Broken pipe"⟩, ⟨14, "ALRM", "Alarm clock"⟩,
    ⟨15, "TERM", "Terminated"⟩, ⟨16, "STKFLT", "Stack fault"⟩, ⟨17, "CHLD", "Child exited"⟩,
    ⟨18, "CONT", "Continued"⟩, ⟨19, "STOP", "Stopped (signal)"⟩, ⟨20, "TSTP", "Stopped"⟩,
    ⟨21, "TTIN", "Stopped (tty input)"⟩, ⟨22, "TTOU", "Stopped (tty output)"⟩,
    ⟨23, "URG", "Urgent I/O condition"⟩, ⟨24, "XCPU", "CPU time limit exceeded"⟩,
    ⟨25, "XFSZ", "File size limit exceeded"⟩, ⟨26, "VTALRM", "Virtual timer expired"⟩,
    ⟨27, "PROF", "Profiling timer expired"⟩, ⟨28, "WINCH", "Window changed"⟩,
    ⟨29, "IO", "I/O possible"⟩, ⟨30, "PWR", "Power failure"⟩, ⟨31, "SYS", "Bad system call"⟩]

/-- The signal with a number. -/
def ofNumber? (n : Nat) : Option Signal := all.find? (·.number = n)

/-- A name in capitals. -/
def capitals (name : String) : String := String.ofList (name.toList.map Char.toUpper)

/-- The number of the signal with a name, in any case. -/
def ofName? (name : String) : Option Nat :=
  (all.find? (·.name = capitals name)).map (·.number)

/-- Whether a signal that nothing else is done about ends a task. -/
def ends (n : Nat) : Bool := !([17, 18, 19, 20, 21, 22, 23, 28].elem n)

/-- What is said of a task that a signal has ended. -/
def textOf (n : Nat) : String := ((ofNumber? n).map (·.text)).getD ("Signal " ++ toString n)

end Signal

end ScriptedShell.Local
