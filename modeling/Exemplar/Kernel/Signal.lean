/-
Exemplar.Kernel.Signal — the signals that processes can be sent.

  §1 names and texts
  §2 what a signal does
-/

namespace Exemplar

/-- A signal, by its number. -/
structure Signal where
  number : Nat
  deriving DecidableEq, Repr

namespace Signal

/-! ## §1 Names and texts -/

/-- The signals with names of their own: the number, the name, and what is said of a process that
one of them has ended. -/
def table : List (Nat × String × String) :=
  [(1, "HUP", "Hangup"),
   (2, "INT", "Interrupt"),
   (3, "QUIT", "Quit"),
   (4, "ILL", "Illegal instruction"),
   (5, "TRAP", "Trace/breakpoint trap"),
   (6, "ABRT", "Aborted"),
   (7, "BUS", "Bus error"),
   (8, "FPE", "Floating point exception"),
   (9, "KILL", "Killed"),
   (10, "USR1", "User defined signal 1"),
   (11, "SEGV", "Segmentation fault"),
   (12, "USR2", "User defined signal 2"),
   (13, "PIPE", "Broken pipe"),
   (14, "ALRM", "Alarm clock"),
   (15, "TERM", "Terminated"),
   (16, "16", "Stack fault"),
   (17, "CHLD", "Child exited"),
   (18, "CONT", "Continued"),
   (19, "STOP", "Stopped (signal)"),
   (20, "TSTP", "Stopped"),
   (21, "TTIN", "Stopped (tty input)"),
   (22, "TTOU", "Stopped (tty output)"),
   (23, "URG", "Urgent I/O condition"),
   (24, "XCPU", "CPU time limit exceeded"),
   (25, "XFSZ", "File size limit exceeded"),
   (26, "VTALRM", "Virtual timer expired"),
   (27, "PROF", "Profiling timer expired"),
   (28, "WINCH", "Window changed"),
   (29, "IO", "I/O possible"),
   (30, "PWR", "Power failure"),
   (31, "SYS", "Bad system call")]

/-- The greatest number that a signal can have. -/
def last : Nat := 64

/-- The name of a signal. -/
def name (signal : Signal) : String :=
  let n := signal.number
  match table.lookup n with
  | some (name, _) => name
  | none =>
    if n = 34 then "RTMIN"
    else if n = 64 then "RTMAX"
    else if 34 < n && n < 50 then "RTMIN+" ++ toString (n - 34)
    else if 50 ≤ n && n < 64 then "RTMAX-" ++ toString (64 - n)
    else toString n

/-- What is said of a process that a signal has ended. -/
def text (signal : Signal) : String :=
  match table.lookup signal.number with
  | some (_, text) => text
  | none =>
    if 34 ≤ signal.number && signal.number ≤ 64 then
      "Real-time signal " ++ toString (signal.number - 34)
    else "Unknown signal " ++ toString signal.number

/-- The signal of a name, with letters in any case. -/
def ofName? (name : String) : Option Signal :=
  let upper := String.ofList (name.toList.map Char.toUpper)
  ((List.range (last + 1)).map Signal.mk).find? fun signal =>
    0 < signal.number && signal.name = upper

/-- The process has divided what cannot be divided. -/
def arithmetic : Signal := ⟨8⟩

/-- The process has made a file larger than it may. -/
def fileSize : Signal := ⟨25⟩

/-- A child has ended. -/
def child : Signal := ⟨17⟩

/-- Nobody reads what the process writes. -/
def pipe : Signal := ⟨13⟩

/-- Somebody wants the process to break off. -/
def interrupt : Signal := ⟨2⟩

/-- Somebody wants the process to break off and to leave its memory. -/
def quit : Signal := ⟨3⟩

/-! ## §2 What a signal does -/

/-- Whether a process that has made no arrangements takes no notice. -/
def isHarmless (signal : Signal) : Bool :=
  [17, 18, 23, 28].contains signal.number

/-- Whether a process that has made no arrangements stands still until it is told to go on. -/
def stops (signal : Signal) : Bool :=
  [19, 20, 21, 22].contains signal.number

/-- Whether no arrangements can be made. -/
def isFinal (signal : Signal) : Bool :=
  signal.number = 9 || signal.number = 19

end Signal

/-- How a process ends. -/
inductive Ending where
  | exited (status : Nat)
  | signalled (signal : Signal)
  deriving DecidableEq, Repr

/-- The status by which a script knows an ending. -/
def Ending.status : Ending → Nat
  | .exited status => status
  | .signalled signal => 128 + signal.number

end Exemplar
