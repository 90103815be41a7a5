/-
# Rewind.Log -- log records and the levels that let them through

A level is the severity of a record; a threshold lets through every level at or
above it, and `off` lets through none.
-/

namespace Rewind

set_option autoImplicit false

/-- The severity of a log record, most severe first. -/
inductive Level
  | error
  | warn
  | info
  | debug
  | trace
  deriving DecidableEq, Repr

namespace Level

/-- The levels, most severe first. -/
def all : List Level := [error, warn, info, debug, trace]

/-- One for the most severe level, then upwards. -/
def rank : Level → Nat
  | error => 1
  | warn => 2
  | info => 3
  | debug => 4
  | trace => 5

def name : Level → String
  | error => "ERROR"
  | warn => "WARN"
  | info => "INFO"
  | debug => "DEBUG"
  | trace => "TRACE"

end Level

/-- The least severe level that is let through, if any is. -/
inductive Threshold
  | off
  | upTo (level : Level)
  deriving DecidableEq, Repr

namespace Threshold

/-- Every threshold, strictest first. -/
def all : List Threshold := off :: Level.all.map upTo

/-- How many levels are let through. -/
def rank : Threshold → Nat
  | off => 0
  | upTo level => level.rank

def name : Threshold → String
  | off => "OFF"
  | upTo level => level.name

/-- Records of the level are let through. -/
def admits (threshold : Threshold) (level : Level) : Bool :=
  level.rank ≤ threshold.rank

/-- Two texts that are the same but for the case of ASCII letters. -/
def sameLetters (a b : String) : Bool :=
  a.toList.map Char.toLower == b.toList.map Char.toLower

/-- The threshold that a text names, in any mixture of upper and lower case. -/
def ofName? (text : String) : Option Threshold :=
  all.find? fun threshold => sameLetters threshold.name text

end Threshold

structure LogRecord where
  level : Level
  text : String
  deriving DecidableEq, Repr

end Rewind
