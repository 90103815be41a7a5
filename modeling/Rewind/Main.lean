/-
# Rewind.Main -- the command line of the demo harness

The program takes the path of an input file.  The log variable of the environment says
which records are shown.
-/
import Rewind.Frontend.File
import Rewind.Frontend.Setting
import Std.Time.Format

namespace Rewind.Frontend

/-- The time, to the second. -/
def stamp : IO String := do
  let now ← Std.Time.Timestamp.now
  return (Std.Time.DateTime.ofTimestamp now .UTC).format "uuuu-MM-dd'T'HH:mm:ss'Z' "

def runOnFile (arguments : List String) : IO UInt32 := do
  let value ← IO.getEnv Options.logVariable
  let result := Demo.run (Setting.filter demoPath) value (← sourceOf arguments)
  for warning in result.warnings do
    IO.eprintln warning
  for record in result.shown do
    IO.eprintln (line (← stamp) demoPath record)
  if let some complaint := result.complaint then IO.eprintln complaint
  if let some error := result.panic then IO.eprintln error.message
  return UInt32.ofNat result.code

end Rewind.Frontend

def main (arguments : List String) : IO UInt32 := Rewind.Frontend.runOnFile arguments
