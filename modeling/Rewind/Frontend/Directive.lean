/-
# Rewind.Frontend.Directive -- which records a program shows

Directives stand with commas between them.  A directive is a threshold, which
holds everywhere; or a name, an equals sign and a threshold, which holds for the
places whose path starts with the name; or a name alone, which lets everything through
there.  Of the directives that hold at a place the one with the longest name decides,
and of two with the same name the later.
-/
import Rewind.Log
import Rewind.Text.Blank

namespace Rewind.Frontend

set_option autoImplicit false

/-- A threshold, everywhere or at the places whose path starts with a name. -/
structure Directive where
  name : Option String
  threshold : Threshold
  deriving DecidableEq, Repr

namespace Directive

def everything : Threshold := .upTo .trace

/-- The characters between separators. -/
def pieces (separator : Char) (text : String) : List String :=
  (text.toList.splitOnP (· == separator)).map String.ofList

def trimmed (text : String) : String := String.ofList (Text.trim text.toList)

/-- The directive that a text is, or what is wrong in it. -/
def read (text : String) : Except String Directive :=
  match pieces '=' text with
  | [only] =>
      match Threshold.ofName? only with
      | some threshold => .ok ⟨none, threshold⟩
      | none => .ok ⟨some only, everything⟩
  | [name, level] =>
      if trimmed level = "" then .ok ⟨some name, everything⟩
      else
        match Threshold.ofName? (trimmed level) with
        | some threshold => .ok ⟨some name, threshold⟩
        | none => .error (trimmed level)
  | _ => .error text

def parts (text : String) : List (Except String Directive) :=
  (((pieces ',' text).map trimmed).filter (· != "")).map read

def readAll (text : String) : List Directive := (parts text).filterMap Except.toOption

def faults (text : String) : List String :=
  (parts text).filterMap fun
    | .ok _ => none
    | .error wrong => some wrong

def holdsAt (path : String) (d : Directive) : Bool :=
  match d.name with
  | none => true
  | some name => name.toList.isPrefixOf path.toList

/-- How much of a path a directive names; everything is less than the empty name. -/
def length (d : Directive) : Nat :=
  match d.name with
  | none => 0
  | some name => name.toList.length + 1

/-- Of two directives the one that decides. -/
def prefer (a b : Directive) : Directive := if b.length < a.length then a else b

/-- The threshold at a place, where `standard` holds without a directive. -/
def thresholdAt (standard : Threshold) (directives : List Directive) (path : String) : Threshold :=
  ((directives.filter (holdsAt path)).foldl prefer ⟨none, standard⟩).threshold

end Directive

end Rewind.Frontend
