/-
# Rewind.Frontend.CharSet -- sets of characters

A set is inclusive ranges of code points in increasing order with gaps between them, so
that equal sets have equal ranges.
-/
import Rewind.Text.Printable

namespace Rewind.Frontend

set_option autoImplicit false

open Text

structure CharSet where
  /-- Inclusive ranges in increasing order, with gaps between them. -/
  ranges : List (Nat × Nat)
  deriving DecidableEq, Repr

namespace CharSet

def contains (s : CharSet) (n : Nat) : Bool := inRanges s.ranges n

def empty : CharSet := ⟨[]⟩

/-- One more range behind ranges, last first, of which none starts later. -/
def extend : List (Nat × Nat) → Nat × Nat → List (Nat × Nat)
  | [], range => [range]
  | (first, last) :: earlier, (start, stop) =>
      if start ≤ last + 1 then (first, max last stop) :: earlier
      else (start, stop) :: (first, last) :: earlier

/-- The members of ranges in any order. -/
def ofRanges (ranges : List (Nat × Nat)) : CharSet :=
  ⟨((ranges.mergeSort fun a b => a.1 ≤ b.1).foldl extend []).reverse⟩

def union (sets : List CharSet) : CharSet := ofRanges (sets.flatMap ranges)

/-- Ranges without what lies in others. -/
def cut : List (Nat × Nat) → List (Nat × Nat) → List (Nat × Nat)
  | [], _ => []
  | kept, [] => kept
  | (first, last) :: rest, (start, stop) :: away =>
      if stop < first then cut ((first, last) :: rest) away
      else if last < start then (first, last) :: cut rest ((start, stop) :: away)
      else
        (if first < start then [(first, start - 1)] else []) ++
          if stop < last then cut ((stop + 1, last) :: rest) away
          else cut rest ((start, stop) :: away)
termination_by kept away => kept.length + away.length

/-- The members of the first set that the second has not. -/
def minus (a b : CharSet) : CharSet := ⟨cut a.ranges b.ranges⟩

/-- The members that two sets have in common. -/
def common (a b : CharSet) : CharSet := a.minus (a.minus b)

/-- The members of one of two sets that are not in both. -/
def either (a b : CharSet) : CharSet := union [a.minus b, b.minus a]

def characters : CharSet := ⟨[(0, 0xD7FF), (0xE000, 0x10FFFF)]⟩

/-- What fits into a byte. -/
def bytes : CharSet := ⟨[(0, 0xFF)]⟩

def between (first last : Char) : CharSet := common ⟨[(first.toNat, last.toNat)]⟩ characters

def single (c : Char) : CharSet := ⟨[(c.toNat, c.toNat)]⟩

/-- The only member of a set, if it has only one. -/
def only? (s : CharSet) : Option Char :=
  match s.ranges with
  | [(first, last)] => if first = last then some (Char.ofNat first) else none
  | _ => none

def isAscii (s : CharSet) : Bool := s.ranges.all fun range => range.2 < 128

def up (n : Nat) (s : CharSet) : CharSet :=
  ⟨s.ranges.map fun range => (range.1 + n, range.2 + n)⟩

/-- The set moved down, where it starts high enough. -/
def down (n : Nat) (s : CharSet) : CharSet :=
  ⟨s.ranges.map fun range => (range.1 - n, range.2 - n)⟩

def capitals : CharSet := between 'A' 'Z'

def smalls : CharSet := between 'a' 'z'

/-- The set with both cases of its letters in ASCII. -/
def bothCases (s : CharSet) : CharSet :=
  union [s, (s.common capitals).up 32, (s.common smalls).down 32]

end CharSet

end Rewind.Frontend
