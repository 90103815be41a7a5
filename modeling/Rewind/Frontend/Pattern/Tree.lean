/-
# Rewind.Frontend.Pattern.Tree -- a written pattern taken apart

A tree has the parts of a written pattern as they stand there, with the pieces that they
take.  What a part means hangs on the flags that hold where it stands, so the same tree
can mean different patterns.  A tree that is too deep is not looked at any further.
-/
import Rewind.Frontend.Pattern
import Rewind.Frontend.Pattern.Fault

namespace Rewind.Frontend.Pattern

set_option autoImplicit false

open Text

inductive Kind
  | digit
  | space
  | wordChar
  deriving DecidableEq, Repr

structure Letter where
  span : Span
  char : Char
  /-- It is written as the two digits of a byte. -/
  asByte : Bool
  deriving DecidableEq, Repr

inductive Anchor
  | lineStart
  | lineEnd
  | textStart
  | textEnd
  | word (edge : WordEdge)
  deriving DecidableEq, Repr

/-- How two lists in brackets go together. -/
inductive Join
  | common
  | minus
  | either
  deriving DecidableEq, Repr

inductive Members
  | nothing (span : Span)
  | letter (letter : Letter)
  | range (span : Span) (first last : Letter)
  | named (span : Span) (negated : Bool) (set : CharSet)
  | kind (span : Span) (kind : Kind) (negated : Bool)
  | property (span : Span) (name : List Char)
  | brackets (span : Span) (negated : Bool) (members : Members)
  | list (span : Span) (items : List Members)
  | join (span : Span) (how : Join) (left right : Members)

/-- What the parenthesis of a group says. -/
inductive GroupKind
  | numbered (number : Nat)
  /-- Flags hold inside, if there are any. -/
  | flagged (flags : List Char)
  deriving DecidableEq, Repr

inductive Tree
  | nothing
  /-- Flags that hold for what is left of a group. -/
  | flags (flags : List Char)
  | letter (letter : Letter)
  /-- Any character of a line. -/
  | point (span : Span)
  | anchor (span : Span) (anchor : Anchor)
  | kind (span : Span) (kind : Kind) (negated : Bool)
  | property (span : Span) (name : List Char)
  | brackets (span : Span) (negated : Bool) (members : Members)
  | times (span : Span) (least : Nat) (most : Option Nat) (eager : Bool) (body : Tree)
  | group (span : Span) (kind : GroupKind) (body : Tree)
  | sequence (span : Span) (items : List Tree)
  | choice (span : Span) (items : List Tree)

namespace Members

def span : Members → Span
  | nothing span | range span _ _ | named span _ _ | kind span _ _ | property span _
  | brackets span _ _ | list span _ | join span _ _ _ => span
  | letter l => l.span

end Members

namespace Tree

/-- The piece that a part takes, where it takes any. -/
def span? : Tree → Option Span
  | nothing | flags _ => none
  | letter l => some l.span
  | point span | anchor span _ | kind span _ _ | property span _ | brackets span _ _
  | times span _ _ _ _ | group span _ _ | sequence span _ | choice span _ => some span

end Tree

/-! ## How deep a tree is -/

mutual

/-- The first of the members that lie deeper than `room` levels. -/
def Members.beyond : Members → Nat → Option Span
  | .nothing _, _ | .letter _, _ | .range .., _ | .named .., _ | .kind .., _ | .property .., _ =>
      none
  | .brackets span _ _, 0 | .list span _, 0 | .join span .., 0 => some span
  | .brackets _ _ members, room + 1 => members.beyond room
  | .list _ items, room + 1 => Members.beyondAny items room
  | .join _ _ left right, room + 1 => (left.beyond room).or (right.beyond room)

def Members.beyondAny : List Members → Nat → Option Span
  | [], _ => none
  | item :: rest, room =>
      match item.beyond room with
      | some span => some span
      | none => Members.beyondAny rest room

end

mutual

/-- The first part of a tree that lies deeper than `room` levels. -/
def Tree.beyond : Tree → Nat → Option Span
  | .nothing, _ | .flags _, _ | .letter _, _ | .point _, _ | .anchor .., _ | .kind .., _
  | .property .., _ => none
  | .brackets span .., 0 | .times span .., 0 | .group span .., 0 | .sequence span _, 0
  | .choice span _, 0 => some span
  | .brackets _ _ members, room + 1 => members.beyond room
  | .times _ _ _ _ body, room + 1 | .group _ _ body, room + 1 => body.beyond room
  | .sequence _ items, room + 1 | .choice _ items, room + 1 => Tree.beyondAny items room

def Tree.beyondAny : List Tree → Nat → Option Span
  | [], _ => none
  | item :: rest, room =>
      match item.beyond room with
      | some span => some span
      | none => Tree.beyondAny rest room

end

/-- The tree, unless it has too many levels. -/
def Tree.limited (tree : Tree) : Attempt Tree :=
  match tree.beyond depthLimit with
  | none => .ok tree
  | some span => .error ⟨.tooDeep depthLimit, [span]⟩

end Rewind.Frontend.Pattern
