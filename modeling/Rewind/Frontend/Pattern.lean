/-
# Rewind.Frontend.Pattern -- what a piece of a text looks like

A pattern is letters in a row, a character of some set, a place between characters, a
pattern several times, or patterns in a row or one of several.  The text has the pattern
in it if a piece of it fits.

A set of places in a text is a number: its bit `i` says that the place behind `i`
characters is in the set.  From a set of places a pattern leads to the places where a
piece ends that fits and starts in the set.  It is worked out for many sets at a time.
What a repetition leads to follows from where one round leads from each single place, so
that each part of a pattern is looked at once, however deep repetitions stand in others.
-/
import Rewind.Frontend.CharSet

namespace Rewind.Frontend

set_option autoImplicit false

open Text

inductive WordEdge
  /-- A word is on one side. -/
  | boundary
  /-- Words are on both sides or on none. -/
  | noBoundary
  | start
  | stop
  /-- No word is in front. -/
  | startHalf
  /-- No word is behind. -/
  | stopHalf
  deriving DecidableEq, Repr

/-- A kind of places in a text.  Where returns count, a line also ends at a carriage
return, or at one with a line feed behind it. -/
inductive Place
  | textStart
  | textEnd
  | lineStart (returns : Bool)
  | lineEnd (returns : Bool)
  /-- A place at words, which have letters of all scripts in them or only those of ASCII. -/
  | word (allScripts : Bool) (edge : WordEdge)
  deriving DecidableEq, Repr

inductive Pattern
  /-- These letters in a row. -/
  | word (letters : List Char)
  /-- A character of a set. -/
  | one (set : CharSet)
  | place (kind : Place)
  /-- So many pieces in a row, and at most so many: many first, or few first. -/
  | times (least : Nat) (most : Option Nat) (eager : Bool) (body : Pattern)
  /-- A piece that has a number. -/
  | group (number : Nat) (body : Pattern)
  | sequence (items : List Pattern)
  | choice (items : List Pattern)

/-- How many levels a pattern may have. -/
def Pattern.depthLimit : Nat := 250

def isWordChar (c : Char) : Bool := c.isAlphanum || c == '_'

namespace Place

/-- Words of ASCII lie so around a place between two characters. -/
def holdsAtWord (before after : Bool) : WordEdge → Bool
  | .boundary => before != after
  | .noBoundary => before == after
  | .start => !before && after
  | .stop => before && !after
  | .startHalf => !before
  | .stopHalf => !after

/-- The place between two characters, of which the text may have neither, is of a kind. -/
def holds (before after : Option Char) : Place → Bool
  | textStart => before.isNone
  | textEnd => after.isNone
  | lineStart false => before.all (· == '\n')
  | lineEnd false => after.all (· == '\n')
  | lineStart true => before.all (· == '\n') || before == some '\r' && after != some '\n'
  | lineEnd true => after.all (· == '\r') || after == some '\n' && before != some '\r'
  | word _ edge => holdsAtWord (before.any isWordChar) (after.any isWordChar) edge

end Place

namespace Pattern

/-! ## Sets of places -/

/-- The places in front of a character that is accepted. -/
def placesBefore (accepts : Char → Bool) : List Char → Nat
  | [] => 0
  | c :: rest => 2 * placesBefore accepts rest + (accepts c).toNat

/-- The places of a kind; `before` is the character in front of the text. -/
def placesOf (kind : Place) (before : Option Char) : List Char → Nat
  | [] => (kind.holds before none).toNat
  | c :: rest => 2 * placesOf kind (some c) rest + (kind.holds before (some c)).toNat

/-- All places up to the one behind `n` characters. -/
def allPlaces (n : Nat) : Nat := 1 <<< (n + 1) - 1

/-- The sets of the single places up to the one behind `n` characters. -/
def singlePlaces (n : Nat) : List Nat := (List.range (n + 1)).map (1 <<< ·)

/-- The places that a set leads to; a list has those that each single place leads to. -/
def leadTo (places : Nat) : List Nat → Nat
  | [] => 0
  | reached :: rest =>
      if places = 0 then 0
      else (if places % 2 = 1 then reached else 0) ||| leadTo (places / 2) rest

/-- Where any number of rounds lead to from each single place from `place` on, if one
round leads to the places in the list, none of which lies in front of where it starts. -/
def anyRounds (place : Nat) : List Nat → List Nat
  | [] => []
  | reached :: rest =>
      let later := anyRounds (place + 1) rest
      (1 <<< place ||| leadTo (reached >>> (place + 1)) later) :: later

def rounds {α : Type} (round : α → α) : Nat → α → α
  | 0, a => a
  | n + 1, a => rounds round n (round a)

/-- Where repetitions lead to, if one round leads from each single place to the places in
the list.  In a text of `n` characters no more than `n` rounds get any further. -/
def repeated (n least : Nat) (most : Option Nat) (once sets : List Nat) : List Nat :=
  let first := rounds (·.map (leadTo · once)) (min least (n + 1)) sets
  match most with
  | none => first.map (leadTo · (anyRounds 0 once))
  | some most =>
      rounds (·.map fun places => places ||| leadTo places once) (min (most - least) (n + 1)) first

/-! ## Where pieces end -/

mutual

/-- Where the pieces of a text end that fit and start in each set of places. -/
def ends (text : List Char) : Pattern → List Nat → List Nat
  | word letters, sets =>
      letters.foldl (fun sets letter =>
        let before := placesBefore (· == letter) text
        sets.map fun places => 2 * (places &&& before)) sets
  | one set, sets =>
      let before := placesBefore (fun c => set.contains c.toNat) text
      sets.map fun places => 2 * (places &&& before)
  | place kind, sets =>
      let here := placesOf kind none text
      sets.map (· &&& here)
  | times least most _ body, sets =>
      repeated text.length least most (ends text body (singlePlaces text.length)) sets
  | group _ body, sets => ends text body sets
  | sequence items, sets => endsInARow text items sets
  | choice items, sets => endsOfAny text sets items (sets.map fun _ => 0)

def endsInARow (text : List Char) : List Pattern → List Nat → List Nat
  | [], sets => sets
  | item :: rest, sets => endsInARow text rest (ends text item sets)

/-- Where one of several patterns ends, besides the places that are reached. -/
def endsOfAny (text : List Char) (sets : List Nat) : List Pattern → List Nat → List Nat
  | [], reached => reached
  | item :: rest, reached =>
      endsOfAny text sets rest (List.zipWith (· ||| ·) reached (ends text item sets))

end

/-- A piece of the text fits. -/
def isIn (p : Pattern) (text : String) : Bool :=
  let chars := text.toList
  (ends chars p [allPlaces chars.length]).any (· != 0)

end Pattern

end Rewind.Frontend
