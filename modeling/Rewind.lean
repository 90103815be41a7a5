import Rewind.Main
import Rewind.Proofs.Alone
import Rewind.Proofs.CString
import Rewind.Proofs.Console
import Rewind.Proofs.CrashReport
import Rewind.Proofs.Cycle
import Rewind.Proofs.Decoding
import Rewind.Proofs.Delivery
import Rewind.Proofs.Exclusion
import Rewind.Proofs.Formats
import Rewind.Proofs.LastReport
import Rewind.Proofs.LastWord
import Rewind.Proofs.Pinning
import Rewind.Proofs.ReasonCut
import Rewind.Proofs.ReasonLine
import Rewind.Proofs.Records
import Rewind.Proofs.Refusals
import Rewind.Proofs.ReportLayout
import Rewind.Proofs.Settings
import Rewind.Proofs.Takeover
import Rewind.Proofs.TextView
import Rewind.Proofs.TraceBuffer
import Rewind.Proofs.Unwinding
import Rewind.Sink
import Rewind.Text.Hexadecimal
import Rewind.Transcript
