/-
# Rewind.Sink -- a page that keeps the last report of a process

A process that cannot return what it reported leaves it in a page of shared memory:
the opcode of the report in the first eight bytes, then the text up to a NUL.  A later
report is written over an earlier one.

Main statements: `record_of_nonterminal` (other calls leave the page as it is) and
`size_record`.
-/
import Rewind.Call
import Rewind.Text.Buffer

namespace Rewind.Sink

set_option autoImplicit false

/-- Where in the page the text begins. -/
def textStart : Nat := 8

def pageSize : Nat := textStart + hostStringSize

def empty : Buffer := Buffer.zeros pageSize

/-- Keep a report; calls that report nothing are passed over. -/
def record (page : Buffer) (call : Call) : Buffer :=
  if call.isTerminal then
    let text := ((call.text?.getD []).takeWhile (· != 0)).take (pageSize - textStart - 1)
    (page.blit textStart (text ++ [0])).blit 0 (Bytes.ofNat textStart call.op.code.toNat)
  else page

/-- The opcode of the last report, if there was one. -/
def op? (page : Buffer) : Option Hypercall :=
  Hypercall.ofCode? (UInt64.ofNat (Bytes.toNat (page.take textStart)))

def text (page : Buffer) : Bytes :=
  (page.drop textStart).toList.takeWhile (· != 0)

/-- A call that reports nothing leaves the last report in the page. -/
theorem record_of_nonterminal (page : Buffer) {call : Call} (other : call.isTerminal = false) :
    record page call = page := by
  simp [record, other]

@[simp] theorem size_record (page : Buffer) (call : Call) :
    (record page call).size = page.size := by
  unfold record
  split <;> simp

end Rewind.Sink
