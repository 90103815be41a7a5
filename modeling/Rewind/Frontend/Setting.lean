/-
# Rewind.Frontend.Setting -- the setting of a program's log variable

The demo harness takes its log library as a parameter; this is the one that it is run with.

A setting is directives, and behind a slash, if there is one, a pattern that the text of
a record must have in it.  What is no directive or no pattern is passed over with a
warning, and so is a setting with more than one slash.
-/
import Rewind.Demo.Program
import Rewind.Frontend.Directive
import Rewind.Frontend.Pattern.Written

namespace Rewind.Frontend

set_option autoImplicit false

structure Setting where
  directives : List Directive
  /-- What the text of a record must have in it. -/
  pattern : Option Pattern
  /-- What is said of what was passed over. -/
  warnings : List String

namespace Setting

def warning (about : String) : String := "warning: " ++ about ++ ", ignoring it"

def empty : Setting := ⟨[], none, []⟩

def ofDirectives (text : String) : Setting :=
  ⟨Directive.readAll text, none, (Directive.faults text).map fun wrong =>
    warning ("invalid logging spec '" ++ wrong ++ "'")⟩

/-- A setting with a pattern behind its directives. -/
def withPattern (s : Setting) (text : String) : Setting :=
  match Pattern.ofText text with
  | .ok pattern => { s with pattern := some pattern }
  | .error refusal =>
      let reason := "\n".intercalate (refusal.lines text)
      { s with warnings := s.warnings ++ [warning ("invalid regex filter - " ++ reason)] }

def read (text : String) : Setting :=
  match Directive.pieces '/' text with
  | [] => empty
  | [directives] => ofDirectives directives
  | [directives, pattern] => (ofDirectives directives).withPattern pattern
  | _ => { empty with
      warnings := [warning ("invalid logging spec '" ++ text ++ "' (too many '/'s)")] }

/-- The record is shown by a program at a path, where `standard` holds without a
directive. -/
def admits (s : Setting) (standard : Threshold) (path : String) (record : LogRecord) : Bool :=
  (Directive.thresholdAt standard s.directives path).admits record.level &&
    s.pattern.all fun pattern => pattern.isIn record.text

/-- What a program at a path shows, where `standard` holds without a directive. -/
def filter (path : String) (standard : Threshold) (value : Option String) : Demo.LogFilter :=
  let setting := (value.map read).getD .empty
  ⟨setting.warnings, setting.admits standard path⟩

end Setting

/-! ## Lines of the log -/

/-- A text filled with blanks to `width` characters. -/
def padded (width : Nat) (text : String) : String :=
  String.ofList (text.toList ++ List.replicate (width - text.toList.length) ' ')

def line (stamp path : String) (record : LogRecord) : String :=
  "[" ++ stamp ++ padded 5 record.level.name ++ " " ++ path ++ "] " ++ record.text

/-- The path of the demo harness in log directives. -/
def demoPath : String := "snapagent_demo"

end Rewind.Frontend
