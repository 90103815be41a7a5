/-
# Rewind.Options -- what the environment sets

An agent is loaded into a target whose command line is not its own, so its options
are four variables: a log threshold and three switches.  A variable that is missing
or malformed leaves its option at the default; a malformed one is warned about.
-/
import Rewind.Log
import Rewind.Text.Blank
import Rewind.Text.Quoted

namespace Rewind

set_option autoImplicit false

structure Options where
  /-- The threshold of the records that go to the host. -/
  logLevel : Threshold
  /-- Hand the instrumentation's dictionary to the host during the handshake. -/
  uploadDictionary : Bool
  /-- Copy the instrumentation's coverage into the trace buffer at each release. -/
  bridgeCoverage : Bool
  /-- Keep the target from replacing the crash handlers. -/
  blockTargetOverrides : Bool
  deriving DecidableEq, Repr

namespace Options

/-- The threshold where nothing sets one. -/
def defaultLogLevel : Threshold := .upTo .info

/-- Everything on, at the default threshold. -/
def standard : Options where
  logLevel := defaultLogLevel
  uploadDictionary := true
  bridgeCoverage := true
  blockTargetOverrides := true

def logVariable : String := "SNAPAGENT_LOG"

def dictionaryVariable : String := "SNAPAGENT_DICTIONARY"

def coverageVariable : String := "SNAPAGENT_COVERAGE_BRIDGE"

def overridesVariable : String := "SNAPAGENT_BLOCK_SIGNAL_OVERRIDES"

/-- The variables, in the order in which they are read. -/
def allVariables : List String :=
  [logVariable, dictionaryVariable, coverageVariable, overridesVariable]

/-- The value of each variable that is set. -/
abbrev Lookup := String → Option String

/-- The spellings of a switch that is on. -/
def onWords : List String := ["1", "true", "yes", "on"]

/-- The spellings of a switch that is off. -/
def offWords : List String := ["0", "false", "no", "off"]

/-- What a text says about a switch, white space around it and the case of its ASCII
letters aside. -/
def switch? (value : String) : Option Bool :=
  let word := String.ofList ((Text.trim value.toList).map Char.toLower)
  if onWords.contains word then some true
  else if offWords.contains word then some false
  else none

/-- What a text says about the log threshold, white space around it aside. -/
def level? (value : String) : Option Threshold :=
  Threshold.ofName? (String.ofList (Text.trim value.toList))

/-- The setting of one variable, and the warning if its value is malformed. -/
def setting {α : Type} (lookup : Lookup) (key : String) (read? : String → Option α)
    (standard : α) (warning : String → String) : α × List LogRecord :=
  match lookup key with
  | none => (standard, [])
  | some value =>
      match read? value with
      | some a => (a, [])
      | none => (standard, [⟨.warn, key ++ ": " ++ warning value⟩])

def switchSetting (lookup : Lookup) (key : String) (standard : Bool) :
    Bool × List LogRecord :=
  setting lookup key switch? standard fun value =>
    "expected a boolean, got " ++ Text.quoted value ++ ", keeping " ++
      (if standard then "true" else "false")

/-- The options that the variables set, and the warnings about the malformed ones. -/
def fromLookup (lookup : Lookup) : Options × List LogRecord :=
  let level := setting lookup logVariable level? standard.logLevel fun value =>
    "unknown log level " ++ Text.quoted value ++ ", keeping " ++ standard.logLevel.name
  let dictionary := switchSetting lookup dictionaryVariable standard.uploadDictionary
  let coverage := switchSetting lookup coverageVariable standard.bridgeCoverage
  let overrides := switchSetting lookup overridesVariable standard.blockTargetOverrides
  (⟨level.1, dictionary.1, coverage.1, overrides.1⟩,
    level.2 ++ dictionary.2 ++ coverage.2 ++ overrides.2)

end Options

end Rewind
