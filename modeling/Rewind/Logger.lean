/-
# Rewind.Logger -- log records on the console of the host

There is no terminal in a snapshot; what the guest logs goes to the host, one print
for each record that the threshold lets through.
-/
import Rewind.Call
import Rewind.Log
import Rewind.Text.Buffer

namespace Rewind.Logger

set_option autoImplicit false

def line (record : LogRecord) : String :=
  "[" ++ record.level.name ++ "] " ++ record.text ++ "\n"

/-- The call that a record causes, if it causes one. -/
def call? (threshold : Threshold) (record : LogRecord) : Option Call :=
  if threshold.admits record.level then some (.printf (hostText (line record))) else none

def calls (threshold : Threshold) (records : List LogRecord) : List Call :=
  records.filterMap (call? threshold)

end Rewind.Logger
