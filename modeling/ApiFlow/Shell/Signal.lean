import ApiFlow.Text.Basic

/-!
# Signals

A signal has a number and a name.  Most signals end a process that has set nothing for them.

* `Signal.read?` gives the signal that a name or a number stands for.
* `Signal.effect` tells what a signal does to a process.
-/

set_option autoImplicit false

namespace ApiFlow.Shell

/-- A signal: its number, its name, and what a shell says of a part that it has ended. -/
structure Signal where
  number : Nat
  name : Text
  death : Text
  deriving DecidableEq, Repr

namespace Signal

/-- The names of the first signals, with what is said of a part that they have ended. -/
def first : List (String × String) := [
  ("HUP", "Hangup"), ("INT", ""), ("QUIT", "Quit"), ("ILL", "Illegal instruction"), ("TRAP", "Trace/breakpoint trap"),
  ("ABRT", "Aborted"), ("BUS", "Bus error"), ("FPE", "Floating point exception"), ("KILL", "Killed"),
  ("USR1", "User defined signal 1"), ("SEGV", "Segmentation fault"), ("USR2", "User defined signal 2"), ("PIPE", ""),
  ("ALRM", "Alarm clock"), ("TERM", "Terminated"), ("16", "Stack fault"), ("CHLD", ""), ("CONT", ""), ("STOP", ""),
  ("TSTP", ""), ("TTIN", ""), ("TTOU", ""), ("URG", ""), ("XCPU", "CPU time limit exceeded"),
  ("XFSZ", "File size limit exceeded"), ("VTALRM", "Virtual timer expired"), ("PROF", "Profiling timer expired"),
  ("WINCH", ""), ("IO", "I/O possible"), ("PWR", "Power failure"), ("SYS", "Bad system call"), ("32", "Unknown signal 32"),
  ("33", "Unknown signal 33")]

/-- The name of a signal that programs may use as they like, by its place among those. -/
def freeName (i : Nat) : Text :=
  if i = 0 then "RTMIN".toList
  else if i < 16 then "RTMIN+".toList ++ Text.ofNat i
  else if i < 30 then "RTMAX-".toList ++ Text.ofNat (30 - i)
  else "RTMAX".toList

def all : List Signal :=
  first.zipIdx.map (fun s => { number := s.2 + 1, name := s.1.1.toList, death := s.1.2.toList }) ++
    (List.range 31).map fun i =>
      { number := 34 + i, name := freeName i, death := "Real-time signal ".toList ++ Text.ofNat i }

/-- The end of a script, for which something can be set as for a signal. -/
def atEnd : Signal := { number := 0, name := "EXIT".toList, death := [] }

/-- The signal that asks a process to end. -/
def terminating : Signal := { number := 15, name := "TERM".toList, death := "Terminated".toList }

def numbered? (n : Nat) : Option Signal := (atEnd :: all).find? fun s => s.number = n

/-- The signal that a number or a name stands for; `named` are those that names stand for. -/
def read? (named : List Signal) (s : Text) : Option Signal :=
  if !s.isEmpty && s.all Char.isDigit then
    numbered? (s.foldl (fun n c => n * 10 + (c.toNat - 48)) 0)
  else named.find? fun signal => signal.name = s.map Char.toUpper

/-- What a signal does to a process that has set nothing for it. -/
inductive Effect where
  | nothing
  | stop
  | death
  deriving DecidableEq, Repr

def effect (s : Signal) : Effect :=
  if [0, 17, 18, 23, 28].contains s.number then .nothing
  else if [19, 20, 21, 22].contains s.number then .stop
  else .death

end Signal

end ApiFlow.Shell
