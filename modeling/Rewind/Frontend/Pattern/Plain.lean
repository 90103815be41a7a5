/-
# Rewind.Frontend.Pattern.Plain -- patterns put together

Patterns that are put together here stand in their plainest form: letters in a row are one
word, rows in a row are one row, a choice of choices is one choice, a choice of characters
is a set, and what all alternatives start with stands in front of the choice.  A repetition
of what takes no text is done once at most.
-/
import Rewind.Frontend.Pattern

namespace Rewind.Frontend.Pattern

set_option autoImplicit false

open Text

/-! ## How long pieces are -/

mutual

/-- How many characters the shortest piece has that fits; nothing if a set without members
is in the pattern. -/
def shortest : Pattern → Option Nat
  | word letters => some letters.length
  | one set => if set.ranges.isEmpty then none else some 1
  | place _ => some 0
  | times least _ _ body => (shortest body).map (least * ·)
  | group _ body => shortest body
  | sequence items => shortestInARow items 0
  | choice items => shortestOfAny items none

def shortestInARow : List Pattern → Nat → Option Nat
  | [], length => some length
  | item :: rest, length =>
      match shortest item with
      | some more => shortestInARow rest (length + more)
      | none => none

def shortestOfAny : List Pattern → Option Nat → Option Nat
  | [], found => found
  | item :: rest, found =>
      match shortest item with
      | some length => shortestOfAny rest (some (found.elim length (min length)))
      | none => none

end

mutual

/-- How many characters the longest piece has that fits; nothing if there is no longest, or
if a set without members is in the pattern. -/
def longest : Pattern → Option Nat
  | word letters => some letters.length
  | one set => if set.ranges.isEmpty then none else some 1
  | place _ => some 0
  | times _ most _ body =>
      match most with
      | some most => (longest body).map (most * ·)
      | none => none
  | group _ body => longest body
  | sequence items => longestInARow items 0
  | choice items => longestOfAny items 0

def longestInARow : List Pattern → Nat → Option Nat
  | [], length => some length
  | item :: rest, length =>
      match longest item with
      | some more => longestInARow rest (length + more)
      | none => none

def longestOfAny : List Pattern → Nat → Option Nat
  | [], found => some found
  | item :: rest, found =>
      match longest item with
      | some length => longestOfAny rest (max found length)
      | none => none

end

/-! ## Equal patterns -/

mutual

def same : Pattern → Pattern → Bool
  | word a, word b => a == b
  | one a, one b => a == b
  | place a, place b => a == b
  | times least most eager a, times least' most' eager' b =>
      least == least' && most == most' && eager == eager' && same a b
  | group number a, group number' b => number == number' && same a b
  | sequence a, sequence b => sameAll a b
  | choice a, choice b => sameAll a b
  | _, _ => false

def sameAll : List Pattern → List Pattern → Bool
  | [], [] => true
  | a :: as, b :: bs => if same a b then sameAll as bs else false
  | _, _ => false

end

/-! ## Patterns in a row -/

/-- The characters of a set; of a set with one member, this member. -/
def ofSet (set : CharSet) : Pattern :=
  match set.only? with
  | some c => word [c]
  | none => one set

/-- The patterns that a pattern is a row of. -/
def parts : Pattern → List Pattern
  | sequence items => items
  | p => [p]

/-- A row that is put together: letters at its end, last first, and what is in front of
them, last first. -/
structure Row where
  letters : List Char
  items : List Pattern

namespace Row

/-- The row without letters. -/
def flush (r : Row) : List Pattern :=
  if r.letters.isEmpty then r.items else word r.letters.reverse :: r.items

def add (r : Row) : Pattern → Row
  | word letters => ⟨letters.reverse ++ r.letters, r.items⟩
  | p => ⟨[], p :: r.flush⟩

end Row

def inARow (patterns : List Pattern) : Pattern :=
  match ((patterns.flatMap parts).foldl Row.add ⟨[], []⟩).flush.reverse with
  | [] => word []
  | [p] => p
  | items => sequence items

/-! ## One of several -/

def alternatives : Pattern → List Pattern
  | choice items => items
  | p => [p]

def letter? : Pattern → Option Char
  | word [c] => some c
  | _ => none

def set? : Pattern → Option CharSet
  | one set => some set
  | _ => none

def row? : Pattern → Option (List Pattern)
  | sequence items => some items
  | _ => none

/-- How many patterns two rows both start with. -/
def sharedCount : List Pattern → List Pattern → Nat → Nat
  | a :: as, b :: bs, count => if same a b then sharedCount as bs (count + 1) else count
  | _, _, count => count

/-- Rows, and how many patterns all of them start with, if they start with any. -/
def sharing? (patterns : List Pattern) : Option (List (List Pattern) × Nat) :=
  match patterns.mapM row? with
  | some (first :: others) =>
      let count := others.foldl (fun n row => min n (sharedCount first row 0)) first.length
      if count = 0 then none else some (first :: others, count)
  | _ => none

/-- One of several patterns.  In each round what all of them start with goes in front, and
what is left stands a level lower. -/
def oneOfWithin : Nat → List Pattern → Pattern
  | levels, patterns =>
      match patterns.flatMap alternatives with
      | [] => one .empty
      | [p] => p
      | all =>
          match all.mapM letter?, all.mapM set?, levels, sharing? all with
          | some letters, _, _, _ => ofSet (.union (letters.map CharSet.single))
          | _, some sets, _, _ => ofSet (.union sets)
          | _, _, levels + 1, some (rows, count) =>
              inARow ((rows.headD []).take count ++
                [oneOfWithin levels (rows.map fun row => inARow (row.drop count))])
          | _, _, _, _ => choice all

def oneOf (patterns : List Pattern) : Pattern := oneOfWithin depthLimit patterns

/-! ## Repetitions -/

def repetition (least : Nat) (most : Option Nat) (eager : Bool) (body : Pattern) : Pattern :=
  let (least, most) := if longest body = some 0 then (min least 1, some ((most.getD 1).min 1))
    else (least, most)
  if most = some 0 then word []
  else if least = 1 ∧ most = some 1 then body
  else times least most eager body

end Rewind.Frontend.Pattern
