import Attribution.Host.Path
import Attribution.Numeral

/-!
# Faults of the host

What can go wrong outside the program: a call to the operating system, or a command it ran.

- `Errno`: an error of the operating system, known by its number.
- `OsError`: a failed call, with its error and the file it was about.
- `CommandFailure`: a command that ended with a status other than zero or by a signal.
- `HostFault`: either of them.
-/

namespace Attribution

/-- An error of the operating system: its number, and the words that the host has for it. -/
structure Errno where
  number : Nat
  words : Text
deriving DecidableEq

namespace Errno

/-! The errors that reading files and starting commands meet most. -/

/-- Nothing is there. -/
def noEntry : Errno := ⟨2, "No such file or directory".toList⟩

/-- The device fails. -/
def inputOutput : Errno := ⟨5, "Input/output error".toList⟩

/-- There is no memory left. -/
def outOfMemory : Errno := ⟨12, "Cannot allocate memory".toList⟩

/-- It is not allowed. -/
def accessDenied : Errno := ⟨13, "Permission denied".toList⟩

/-- A file stands where the path goes on. -/
def notDirectory : Errno := ⟨20, "Not a directory".toList⟩

/-- A directory stands where a file should. -/
def isDirectory : Errno := ⟨21, "Is a directory".toList⟩

/-- The path goes in a circle. -/
def linkLoop : Errno := ⟨40, "Too many levels of symbolic links".toList⟩

/-- Whether nothing is there. The number alone tells. -/
def isNoEntry (e : Errno) : Bool := e.number == noEntry.number

end Errno

/-- A failed call to the operating system, and the file it was about, if any. -/
structure OsError where
  errno : Errno
  file : Option PathName
deriving DecidableEq

/-- The error with its number, its words and the file. -/
def OsError.message (e : OsError) : Text :=
  "[Errno ".toList ++ Numeral.digits e.errno.number ++ "] ".toList ++ e.errno.words ++
    match e.file with
    | none => []
    | some file => ": ".toList ++ file.quoted

/-! ## Commands -/

/-- A command as it was given: its words, or one line. -/
inductive Command
  | words (ws : List Text)
  | line (t : Text)
deriving DecidableEq

/-- The command inside a message. -/
def Command.shown : Command → Text
  | words ws => Text.quotedList ws
  | line t => t

/-- A command that failed: its exit status, negative for a signal, and what it wrote. -/
structure CommandFailure where
  command : Command
  status : Int
  errors : Bytes
deriving DecidableEq

/-- The name of a signal. -/
def signalName? : Nat → Option String
  | 1 => some "SIGHUP"
  | 2 => some "SIGINT"
  | 3 => some "SIGQUIT"
  | 4 => some "SIGILL"
  | 5 => some "SIGTRAP"
  | 6 => some "SIGABRT"
  | 7 => some "SIGBUS"
  | 8 => some "SIGFPE"
  | 9 => some "SIGKILL"
  | 10 => some "SIGUSR1"
  | 11 => some "SIGSEGV"
  | 12 => some "SIGUSR2"
  | 13 => some "SIGPIPE"
  | 14 => some "SIGALRM"
  | 15 => some "SIGTERM"
  | 16 => some "SIGSTKFLT"
  | 17 => some "SIGCHLD"
  | 18 => some "SIGCONT"
  | 19 => some "SIGSTOP"
  | 20 => some "SIGTSTP"
  | 21 => some "SIGTTIN"
  | 22 => some "SIGTTOU"
  | 23 => some "SIGURG"
  | 24 => some "SIGXCPU"
  | 25 => some "SIGXFSZ"
  | 26 => some "SIGVTALRM"
  | 27 => some "SIGPROF"
  | 28 => some "SIGWINCH"
  | 29 => some "SIGIO"
  | 30 => some "SIGPWR"
  | 31 => some "SIGSYS"
  | 34 => some "SIGRTMIN"
  | 64 => some "SIGRTMAX"
  | _ => none

/-- How the command ended, in words. -/
def CommandFailure.message (f : CommandFailure) : Text :=
  "Command '".toList ++ f.command.shown ++ "' ".toList ++
    if f.status < 0 then
      match signalName? f.status.natAbs with
      | some name =>
        "died with <Signals.".toList ++ name.toList ++ ": ".toList ++
          Numeral.digits f.status.natAbs ++ ">.".toList
      | none => "died with unknown signal ".toList ++ Numeral.digits f.status.natAbs ++ ['.']
    else "returned non-zero exit status ".toList ++ Numeral.ofInt f.status ++ ['.']

/-- What went wrong outside the program. -/
inductive HostFault
  | os (e : OsError)
  | command (f : CommandFailure)
deriving DecidableEq

/-- The words for a fault. -/
def HostFault.message : HostFault → Text
  | os e => e.message
  | command f => f.message

end Attribution
