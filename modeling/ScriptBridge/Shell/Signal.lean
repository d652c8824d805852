/-
Signals: their numbers and names, which of them end a program that does not handle them, and how a status tells that one
did.
-/
import ScriptBridge.Shell.Numeral

namespace ScriptBridge.Shell

/-- the names of signals, by their numbers -/
def signalNames : List String :=
  ["EXIT", "HUP", "INT", "QUIT", "ILL", "TRAP", "ABRT", "BUS", "FPE", "KILL", "USR1", "SEGV", "USR2", "PIPE", "ALRM",
    "TERM", "16", "CHLD", "CONT", "STOP", "TSTP", "TTIN", "TTOU", "URG", "XCPU", "XFSZ", "VTALRM", "PROF", "WINCH",
    "IO", "PWR", "SYS"]

/-- the number of a signal, given by number or name -/
def signalNumber? (o : Octets) : Option Nat :=
  if !o.isEmpty && o.all Char.isDigit then
    let n := (digitsIn 10 o).1
    if n ≤ 64 then some n else none
  else signalNames.findIdx? fun name => octets name == o.map Char.toUpper

/-- the name of a signal -/
def signalName (n : Nat) : Octets := ((signalNames[n]?).map octets).getD (number n)

/-- what a shell says of a program that a signal ended -/
def signalText : Nat → Option String
  | 1 => some "Hangup"
  | 3 => some "Quit"
  | 4 => some "Illegal instruction"
  | 5 => some "Trace/breakpoint trap"
  | 6 => some "Aborted"
  | 7 => some "Bus error"
  | 8 => some "Floating point exception"
  | 9 => some "Killed"
  | 10 => some "User defined signal 1"
  | 11 => some "Segmentation fault"
  | 12 => some "User defined signal 2"
  | 14 => some "Alarm clock"
  | 15 => some "Terminated"
  | _ => none

/-- whether a signal is deadly unless a script handles it -/
def isDeadly (signal : Nat) : Bool := !([0, 17, 18, 19, 20, 21, 22, 23, 28].contains signal)

/-- the statuses of programs that signals ended are above this -/
def signalBase : Nat := 128

/-- the number that a running utility has -/
def ownNumber : Nat := 4242

/-- the status by which a utility tells that a signal ended it; it lies above all that a program can give itself -/
def signalled (signal : Nat) : Nat := 256 + signal

/-- the signal that a status of a utility tells -/
def endingSignal? (status : Nat) : Option Nat := if 256 ≤ status then some (status - 256) else none

theorem endingSignal?_signalled (signal : Nat) : endingSignal? (signalled signal) = some signal := by
  simp [endingSignal?, signalled]

end ScriptBridge.Shell
