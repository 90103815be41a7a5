/-
# Rewind.Signal -- the signals of a process

The thirty-one standard signals, by number and by name, and the seven of them that
report a crash.

Main statements: `ofNumber?_number` and `isFatal_iff` (a number is fatal exactly
when it is that of a fatal signal).
-/

namespace Rewind

set_option autoImplicit false

/-- A standard signal; the signal with index `i` has the number `i + 1`. -/
structure Signal where
  index : Fin 31
  deriving DecidableEq, Repr

namespace Signal

def names : List String :=
  ["SIGHUP", "SIGINT", "SIGQUIT", "SIGILL", "SIGTRAP", "SIGABRT", "SIGBUS", "SIGFPE", "SIGKILL",
   "SIGUSR1", "SIGSEGV", "SIGUSR2", "SIGPIPE", "SIGALRM", "SIGTERM", "SIGSTKFLT", "SIGCHLD",
   "SIGCONT", "SIGSTOP", "SIGTSTP", "SIGTTIN", "SIGTTOU", "SIGURG", "SIGXCPU", "SIGXFSZ",
   "SIGVTALRM", "SIGPROF", "SIGWINCH", "SIGIO", "SIGPWR", "SIGSYS"]

def number (s : Signal) : Int :=
  s.index.val + 1

def name (s : Signal) : String :=
  names.getD s.index.val "?"

def ofNumber? (n : Int) : Option Signal :=
  if h : 1 ≤ n ∧ n ≤ 31 then some ⟨⟨(n - 1).toNat, by omega⟩⟩ else none

/-- An illegal instruction was executed. -/
def ill : Signal := ⟨3⟩

/-- A breakpoint was reached. -/
def trap : Signal := ⟨4⟩

/-- The process aborted. -/
def abrt : Signal := ⟨5⟩

/-- Memory was accessed in a way the bus refuses. -/
def bus : Signal := ⟨6⟩

/-- An arithmetic operation has no result. -/
def fpe : Signal := ⟨7⟩

/-- The process is killed; this cannot be handled. -/
def kill : Signal := ⟨8⟩

/-- Memory was accessed that is not there. -/
def segv : Signal := ⟨10⟩

/-- The process is stopped; this cannot be handled. -/
def stop : Signal := ⟨18⟩

/-- A system call was refused. -/
def sys : Signal := ⟨30⟩

/-- The signals that report a crash, in the order in which handlers are installed. -/
def fatal : List Signal :=
  [segv, fpe, bus, ill, abrt, trap, sys]

/-- The number is that of a signal that reports a crash. -/
def isFatal (n : Int) : Bool :=
  fatal.any fun s => s.number == n

theorem ofNumber?_number (s : Signal) : ofNumber? s.number = some s := by
  have small := s.index.isLt
  have range : 1 ≤ s.number ∧ s.number ≤ 31 := by simp only [number]; omega
  rw [ofNumber?, dif_pos range]
  simp [number]

theorem isFatal_iff {n : Int} : isFatal n = true ↔ ∃ s ∈ fatal, s.number = n := by
  simp [isFatal]

end Signal

end Rewind
