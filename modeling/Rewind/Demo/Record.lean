/-
# Rewind.Demo.Record -- the toy target: a list of records

An input is records one behind the other: a tag, a length and as many bytes as the
length says.  The last record may be cut short by the end of the input, and a single
byte behind it is passed over.

The walker trusts the length of a blob.  That is the planted bug: a blob cut short
stops the walk.

Main statements: `length_split_le` and `split_encodeAll` (records that are written can
be read back).
-/
import Rewind.Bytes
import Rewind.Log
import Rewind.Text.Numeral

namespace Rewind.Demo

set_option autoImplicit false

/-- A record: its tag, the length it declares, and the bytes that are there. -/
structure Record where
  tag : UInt8
  declared : UInt8
  payload : Bytes
  deriving DecidableEq, Repr

namespace Record

def blobTag : UInt8 := 0xcc

/-- The input ended before the record did. -/
def isCut (r : Record) : Bool := r.payload.length < r.declared.toNat

def encode (r : Record) : Bytes := r.tag :: r.declared :: r.payload

def encodeAll (records : List Record) : Bytes := records.flatMap encode

def split : Bytes → List Record
  | tag :: declared :: rest =>
      ⟨tag, declared, rest.take declared.toNat⟩ :: split (rest.drop declared.toNat)
  | _ => []
termination_by input => input.length
decreasing_by
  simp only [List.length_drop, List.length_cons]
  omega

end Record

/-- A range that ends behind the bytes it is taken of. -/
structure RangeError where
  stop : Nat
  length : Nat
  deriving DecidableEq, Repr

namespace RangeError

def message (e : RangeError) : String :=
  "range end index " ++ Text.decimal e.stop ++ " out of range for slice of length " ++
    Text.decimal e.length

end RangeError

def Record.logged (tag declared : UInt8) : List LogRecord :=
  if tag = blobTag then [⟨.debug, "blob of " ++ Text.decimal declared.toNat ++ " bytes"⟩] else []

/-- Walk on, with what was logged before, last first, and how many records there were. -/
def walkFrom (before : List LogRecord) (count : Nat) :
    Bytes → List LogRecord × Except RangeError Nat
  | tag :: declared :: rest =>
      if tag = Record.blobTag ∧ (rest.take declared.toNat).length < declared.toNat then
        (before.reverse, .error ⟨declared.toNat, rest.length⟩)
      else
        walkFrom (Record.logged tag declared ++ before) (count + 1) (rest.drop declared.toNat)
  | _ => (before.reverse, .ok count)
termination_by input => input.length
decreasing_by
  simp only [List.length_drop, List.length_cons]
  omega

/-- Walk over the records of an input: what is logged on the way, and how many records
there are, unless the walk stops at a blob that is cut short. -/
def walk (input : Bytes) : List LogRecord × Except RangeError Nat := walkFrom [] 0 input

namespace Record

/-- Each record takes two bytes at least. -/
theorem length_split_le (input : Bytes) : 2 * (split input).length ≤ input.length := by
  fun_induction split input with
  | case1 tag declared rest ih =>
      simp only [List.length_drop] at ih
      simp only [List.length_cons]
      omega
  | case2 input other => simp

/-- Fewer than two bytes are no record. -/
theorem split_of_short {input : Bytes} (short : input.length < 2) : split input = [] := by
  fun_cases split input with
  | case1 tag declared rest =>
      simp only [List.length_cons] at short
      omega
  | case2 input other => rfl

/-- Records that were written are read back, and a single byte behind them is passed over. -/
theorem split_encodeAll (records : List Record) {left : Bytes}
    (whole : ∀ r ∈ records, r.payload.length = r.declared.toNat) (short : left.length < 2) :
    split (encodeAll records ++ left) = records := by
  induction records with
  | nil => exact split_of_short short
  | cons r rest ih =>
      have size := whole r (by simp)
      have later := ih fun other member => whole other (by simp [member])
      have bytes : encodeAll (r :: rest) ++ left =
          r.tag :: r.declared :: (r.payload ++ (encodeAll rest ++ left)) := by
        simp [encodeAll, encode]
      rw [bytes, split, ← size, List.take_left, List.drop_left, later]

end Record

end Rewind.Demo
