/-
# Rewind.Demo.Program -- a harness on one input file

The program runs the toy target once, on the bytes of a file, and shows what is logged
on standard error.  Which records are shown is up to the log library, which reads it from
the log variable.

Main statements: `run_of_walked` and `run_of_stopped` (what the walk over the input says is
what the program shows).
-/
import Rewind.Demo.Record
import Rewind.Fuzzer
import Rewind.Options

namespace Rewind.Demo

set_option autoImplicit false

/-- What a log library makes of the log variable. -/
structure LogFilter where
  /-- What it says of a value that it cannot read. -/
  warnings : List String
  admits : LogRecord → Bool

/-- A log library: it is given the threshold that holds where nothing is set, and the value of
the log variable. -/
abbrev LogReader := Threshold → Option String → LogFilter

inductive Source
  /-- No file was named. -/
  | missing
  /-- The file cannot be read: why, in the words and the number of the system. -/
  | unreadable (path : String) (reason : String) (number : Nat)
  | bytes (data : Bytes)
  deriving DecidableEq, Repr

/-- What the program does: what its log library says, the records it shows, a last line in
plain text, how it panicked if it did, and its exit code. -/
structure Result where
  warnings : List String
  shown : List LogRecord
  complaint : Option String
  panic : Option RangeError
  code : Nat
  deriving DecidableEq, Repr

abbrev TargetM := StateM (List LogRecord × Option RangeError)

/-- What is logged of an input behind its records. -/
def summary (count length : Nat) : LogRecord :=
  ⟨.info, "parsed " ++ Text.decimal count ++ " records from " ++ Text.decimal length ++ " bytes"⟩

/-- The target: walk over the records and say how many there were. -/
def target (input : Bytes) : TargetM Outcome := do
  let (records, count) := walk input
  match count with
  | .ok count =>
      modify fun (earlier, panic) => (earlier ++ records ++ [summary count input.length], panic)
      return .returned
  | .error error =>
      modify fun (earlier, _) => (earlier ++ records, some error)
      return .unwound

def panicCode : Nat := 101

/-- Run the program with a value of the log variable. -/
def run (reader : LogReader) (value : Option String) (source : Source) : Result :=
  let filter := reader Options.defaultLogLevel value
  match source with
  | .missing => ⟨filter.warnings, [], some "usage: snapagent-demo <input file>", none, 1⟩
  | .unreadable name reason number =>
      ⟨filter.warnings, [], some ("unable to read " ++ name ++ ": " ++ reason ++ " (os error " ++
        Text.decimal number ++ ")"), none, 1⟩
  | .bytes data =>
      let (outcome, records, panic) := ((Fuzzer.runOn data target).run ([], none)).run
      ⟨filter.warnings, records.filter filter.admits, none, panic,
        if outcome = .unwound then panicCode else 0⟩

section

variable {data : Bytes} {records : List LogRecord} (reader : LogReader) (value : Option String)

/-- A walk to the end of the input is summed up. -/
theorem run_of_walked {count : Nat} (walked : walk data = (records, .ok count)) :
    let filter := reader Options.defaultLogLevel value
    run reader value (.bytes data) = ⟨filter.warnings,
      (records ++ [summary count data.length]).filter filter.admits, none, none, 0⟩ := by
  simp only [run, Fuzzer.runOn, target, walked]
  rfl

/-- A walk that stops at a blob is a panic. -/
theorem run_of_stopped {error : RangeError} (stopped : walk data = (records, .error error)) :
    let filter := reader Options.defaultLogLevel value
    run reader value (.bytes data) =
      ⟨filter.warnings, records.filter filter.admits, none, some error, panicCode⟩ := by
  simp only [run, Fuzzer.runOn, target, stopped]
  rfl

end

end Rewind.Demo
