/-
# Rewind.Frontend.Pattern.Machine -- how much room the machine of a pattern takes

A pattern is looked for by a machine of states, which reads a text forwards or backwards
byte by byte.  Each state takes some room, and so does each of its ways to other states.
A repetition has a copy of its body for each time, so that few characters can write a
machine that is too large.

Only the room is worked out here; the machine itself is never built.
-/
import Rewind.Frontend.Pattern.Plain
import Rewind.Text.Utf8

namespace Rewind.Frontend.Pattern

set_option autoImplicit false

open Text

/-- The room of a state without the ways it chooses from. -/
def stateRoom : Nat := 32

def wayRoom : Nat := 4

/-- The room of a way to another state for bytes in a range. -/
def byteWayRoom : Nat := 8

def total (numbers : List Nat) : Nat := numbers.foldl (· + ·) 0

/-! ## Sets as bytes -/

/-- Bytes one behind the other, each in a range. -/
abbrev ByteRow := List (Nat × Nat)

def bytesOf (n : Nat) : List Nat := (String.utf8EncodeChar (Char.ofNat n)).map UInt8.toNat

/-- Where a range of characters has to be cut so that its ends have equally many bytes. -/
def cutByLength? (first last : Nat) : Option Nat :=
  [0x7F, 0x7FF, 0xFFFF].find? fun bound => first ≤ bound && bound < last

/-- Where a range of characters has to be cut so that all its bytes behind the first that
differs go through all values; each of them holds six bits. -/
def cutByBits? (first last : Nat) : Option Nat :=
  [0x40, 0x1000, 0x40000].findSome? fun unit =>
    if first / unit = last / unit then none
    else if first % unit ≠ 0 then some (first / unit * unit + (unit - 1))
    else if last % unit ≠ unit - 1 then some (last / unit * unit - 1)
    else none

def cut? (first last : Nat) : Option Nat :=
  (cutByLength? first last).or (if last < 128 then none else cutByBits? first last)

/-- A range of characters as rows of bytes in increasing order. -/
def byteRows (first last : Nat) : List ByteRow :=
  match cut? first last with
  | some m =>
      if _ : first ≤ m ∧ m < last then byteRows first m ++ byteRows (m + 1) last
      else []
  | none => [(bytesOf first).zip (bytesOf last)]
termination_by last - first

/-- Rows that start with the same range, without it. -/
def rowGroups (rows : List ByteRow) : List (List ByteRow) :=
  ((rows.filter (!·.isEmpty)).splitBy fun a b => a.head? == b.head?).map (·.map (·.drop 1))

/-- What may follow in rows of so many bytes: for each start of a row the rows behind it. -/
def followers : Nat → List ByteRow → List (List ByteRow)
  | 0, _ => []
  | n + 1, rows =>
      if rows.all (·.isEmpty) then []
      else rows :: (rowGroups rows).flatMap (followers n)

/-- How many different starts rows of so many bytes have. -/
def startCount : Nat → List ByteRow → Nat
  | 0, _ => 0
  | n + 1, rows => total ((rowGroups rows).map fun group => 1 + startCount n group)

/-- How many bytes a character has at most. -/
def widest : Nat := 4

/-- The room of a set: forwards, rows that end alike share their ends; backwards, rows that
start alike share their starts. -/
def setRoom (backwards : Bool) (set : CharSet) : Nat :=
  if set.isAscii then 2 * stateRoom + byteWayRoom * set.ranges.length
  else
    let rows := set.ranges.flatMap fun range => byteRows range.1 range.2
    if backwards then
      2 * stateRoom + stateRoom * startCount widest rows + wayRoom * rows.length
    else
      stateRoom + total ((followers widest rows).eraseDups.map fun rows =>
        stateRoom + byteWayRoom * (rowGroups rows).length)

/-! ## Words to choose from -/

/-- Words in runs, between which words end. -/
def wordRuns (words : List (List UInt8)) : List (List (List UInt8)) :=
  match words.splitOnP (·.isEmpty) with
  | [] :: runs => [] :: runs.dropWhile (·.isEmpty)
  | runs => runs

/-- The words of a run without their first byte, those with the same first byte together. -/
def wordGroups (run : List (List UInt8)) : List (List (List UInt8)) :=
  ((run.filterMap List.head?).eraseDups).map fun byte =>
    run.filterMap fun word => if word.head? = some byte then some (word.drop 1) else none

/-- The room of the states that choose between words of at most so many bytes. -/
def wordsRoom : Nat → List (List UInt8) → Nat
  | 0, _ => 0
  | n + 1, words =>
      if words.all (·.isEmpty) then 0
      else
        let runs := wordRuns words
        stateRoom + wayRoom * (runs.length - 1) + total (runs.map fun run =>
          if run.isEmpty then 0
          else
            let groups := wordGroups run
            wayRoom + stateRoom + (if groups.length = 1 then 0 else byteWayRoom * groups.length) +
              total (groups.map (wordsRoom n)))

def word? : Pattern → Option (List UInt8)
  | word [] => none
  | word letters => some (Utf8.encode letters)
  | _ => none

def choiceOfWordsRoom (backwards : Bool) (words : List (List UInt8)) : Nat :=
  let words := if backwards then words.map List.reverse else words
  stateRoom + wordsRoom ((words.map List.length).foldl max 0 + 1) words

/-! ## Machines -/

/-- The room of a repetition, of whose body one copy takes `room`; `takes` says whether the
body takes text for certain. -/
def repetitionRoom (room : Nat) (takes : Bool) (least : Nat) : (most : Option Nat) → Nat
  | none =>
      if 0 < least then least * room + stateRoom + 2 * wayRoom
      else if takes then room + stateRoom + 2 * wayRoom
      else room + 3 * stateRoom + 4 * wayRoom
  | some most =>
      if least = most then least * room
      else if least = 0 ∧ most = 1 then room + 2 * stateRoom + 2 * wayRoom
      else
        (if least = 0 then stateRoom else least * room) + stateRoom +
          (most - least) * (room + stateRoom + 2 * wayRoom)

mutual

/-- The room of the machine of a pattern without what all machines have. -/
def bodyRoom (backwards : Bool) : Pattern → Nat
  | word letters => stateRoom * max 1 (Utf8.encode letters).length
  | one set => setRoom backwards set
  | place _ => stateRoom
  | times least most _ body =>
      repetitionRoom (bodyRoom backwards body) ((shortest body).any (0 < ·)) least most
  | group _ body => bodyRoom backwards body + if backwards then 0 else 2 * stateRoom
  | sequence items => bodiesRoom backwards items 0
  | choice items =>
      match items.mapM word? with
      | some words => choiceOfWordsRoom backwards words
      | none => bodiesRoom backwards items (2 * stateRoom + wayRoom * items.length)

def bodiesRoom (backwards : Bool) : List Pattern → Nat → Nat
  | [], room => room
  | item :: rest, room => bodiesRoom backwards rest (room + bodyRoom backwards item)

end

mutual

/-- Every piece starts where the text starts. -/
def isFixedAtStart : Pattern → Bool
  | place kind => kind == .textStart
  | times least _ _ body => 0 < least && isFixedAtStart body
  | group _ body => isFixedAtStart body
  | sequence items => isRowFixedAtStart items
  | choice items => areFixedAtStart items
  | _ => false

def isRowFixedAtStart : List Pattern → Bool
  | [] => false
  | item :: rest =>
      if isFixedAtStart item then true
      else if longest item = some 0 then isRowFixedAtStart rest
      else false

def areFixedAtStart : List Pattern → Bool
  | [] => true
  | item :: rest => if isFixedAtStart item then areFixedAtStart rest else false

end

mutual

/-- Every piece ends where the text ends. -/
def isFixedAtEnd : Pattern → Bool
  | place kind => kind == .textEnd
  | times least _ _ body => 0 < least && isFixedAtEnd body
  | group _ body => isFixedAtEnd body
  | sequence items => isRowFixedAtEnd items false
  | choice items => areFixedAtEnd items
  | _ => false

/-- Every piece of patterns in a row ends where the text ends; `fixed` says so of what is in
front of them. -/
def isRowFixedAtEnd : List Pattern → Bool → Bool
  | [], fixed => fixed
  | item :: rest, fixed =>
      isRowFixedAtEnd rest (isFixedAtEnd item || longest item == some 0 && fixed)

def areFixedAtEnd : List Pattern → Bool
  | [] => true
  | item :: rest => if isFixedAtEnd item then areFixedAtEnd rest else false

end

/-- The room of what looks for the start of a piece, if it may start anywhere. -/
def searchRoom (fixed : Bool) : Nat :=
  if fixed then stateRoom else 3 * stateRoom + byteWayRoom + 2 * wayRoom

/-- The room of the machine that reads forwards; it also finds where a piece starts. -/
def forwardRoom (p : Pattern) : Nat :=
  searchRoom (isFixedAtStart p) + 3 * stateRoom + bodyRoom false p

def backwardRoom (p : Pattern) : Nat := searchRoom (isFixedAtEnd p) + stateRoom + bodyRoom true p

mutual

def asksForScripts : Pattern → Bool
  | place (.word allScripts _) => allScripts
  | times _ _ _ body => asksForScripts body
  | group _ body => asksForScripts body
  | sequence items => anyAsksForScripts items
  | choice items => anyAsksForScripts items
  | _ => false

def anyAsksForScripts : List Pattern → Bool
  | [] => false
  | item :: rest => if asksForScripts item then true else anyAsksForScripts rest

end

end Rewind.Frontend.Pattern
