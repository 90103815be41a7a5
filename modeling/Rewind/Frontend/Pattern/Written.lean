/-
# Rewind.Frontend.Pattern.Written -- texts as patterns

A text is a pattern if it can be read and means something, if its machines are not too
large, and if it asks for no words of all scripts.
-/
import Rewind.Frontend.Pattern.Machine
import Rewind.Frontend.Pattern.Meaning

namespace Rewind.Frontend.Pattern

set_option autoImplicit false

open Text

def roomLimit : Nat := 10 * 1024 * 1024

inductive Refusal
  | faulty (fault : Fault)
  | tooLarge
  | allScripts
  deriving DecidableEq, Repr

def Refusal.lines (text : String) : Refusal → List String
  | faulty fault => fault.lines text
  | tooLarge => ["Compiled regex exceeds size limit of " ++ decimal roomLimit ++ " bytes."]
  | allScripts => ["error building NFA"]

def ofChars (chars : List Char) : Attempt Pattern := do
  let tree ← (← Tree.read chars).limited
  return (← tree.meaning .standard).1

def refusal? (p : Pattern) : Option Refusal :=
  if roomLimit < forwardRoom p then some .tooLarge
  else if asksForScripts p then some .allScripts
  else if roomLimit < backwardRoom p then some .tooLarge
  else none

def ofText (text : String) : Except Refusal Pattern :=
  match ofChars text.toList with
  | .error fault => .error (.faulty fault)
  | .ok p =>
      match refusal? p with
      | some refusal => .error refusal
      | none => .ok p

end Rewind.Frontend.Pattern
