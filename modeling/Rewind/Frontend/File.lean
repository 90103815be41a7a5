/-
# Rewind.Frontend.File -- the file that a program is run on

The program is given the path of a file.  Where the file cannot be read, it tells why in the
words of the system.
-/
import Rewind.Demo.Program

namespace Rewind.Frontend

set_option autoImplicit false

/-- The words of the system for what keeps it from reading a file. -/
def reasons : List (Nat × String) :=
  [(1, "Operation not permitted"), (2, "No such file or directory"), (5, "Input/output error"),
   (6, "No such device or address"), (12, "Cannot allocate memory"), (13, "Permission denied"),
   (19, "No such device"), (20, "Not a directory"), (21, "Is a directory"),
   (22, "Invalid argument"), (23, "Too many open files in system"), (24, "Too many open files"),
   (36, "File name too long"), (40, "Too many levels of symbolic links")]

/-- The number of the system, which may come as that number below zero. -/
def positive (number : UInt32) : Nat := number.toInt32.toInt.natAbs

/-- What is said of a file that could not be read, and the number of the system. -/
def refusalOf : IO.Error → String × Nat
  | .noFileOrDirectory _ number reason | .inappropriateType _ number reason
  | .permissionDenied _ number reason | .otherError number reason
  | .resourceExhausted _ number reason | .invalidArgument _ number reason
  | .alreadyExists _ number reason | .noSuchThing _ number reason
  | .interrupted _ number reason
  | .resourceBusy number reason | .resourceVanished number reason
  | .unsupportedOperation number reason | .hardwareFault number reason
  | .unsatisfiedConstraints number reason | .illegalOperation number reason
  | .protocolError number reason | .timeExpired number reason =>
      ((reasons.lookup (positive number)).getD reason, positive number)
  | .unexpectedEof => ("end of file", 0)
  | .userError reason => (reason, 0)

/-- What the program is given to run on. -/
def sourceOf (arguments : List String) : IO Demo.Source := do
  match arguments with
  | [] => return .missing
  | name :: _ =>
      try
        return .bytes (← IO.FS.readBinFile name).toList
      catch error =>
        let (reason, number) := refusalOf error
        return .unreadable name reason number

end Rewind.Frontend
