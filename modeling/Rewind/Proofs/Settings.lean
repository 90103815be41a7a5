/-
# Rewind.Proofs.Settings -- each variable sets its own option

A variable sets its option if its value is one of a few words.  White space may stand around
the word, and the case of ASCII letters does not matter (`Spelled`).  What is accepted is said apart
from the reading, by a table of the words with what each stands for (`Says`); `switch?` and
`level?` accept just what is spelled like one of their words (`switch?_eq_some_iff`,
`level?_eq_some_iff`).

`Obeys` says what becomes of one option: what its variable assigns or else the default, and a
warning where the variable is there and assigns nothing.

Main statements: `setting_obeys` and `variables_alone`.
-/
import Mathlib.Logic.Function.Basic
import Rewind.Options
import Rewind.Proofs.Trimming

namespace Rewind

set_option autoImplicit false

open Text

/-! ## Spellings -/

/-- A value that is a word with white space around it, in any mixture of upper and lower case. -/
def Spelled (word value : String) : Prop :=
  ∃ front core back, value.toList = front ++ core ++ back ∧
    core.map Char.toLower = word.toList.map Char.toLower ∧
      (∀ c ∈ front, isBlank c = true) ∧ ∀ c ∈ back, isBlank c = true

/-- Between the upper and the lower case letters there is no white space. -/
theorem not_isBlank_of_letter {c : Char} (low : 65 ≤ c.toNat) (high : c.toNat ≤ 122) :
    isBlank c = false := by
  rw [isBlank, List.any_eq_false]
  intro range member inside
  simp only [blanks, List.mem_cons, List.not_mem_nil, or_false] at member
  simp only [Bool.and_eq_true, decide_eq_true_eq] at inside
  rcases member with rfl | rfl | rfl | rfl | rfl | rfl | rfl | rfl | rfl | rfl <;> omega

/-- The case of a letter does not make it white space. -/
theorem isBlank_toLower (c : Char) : isBlank c.toLower = isBlank c := by
  unfold Char.toLower
  split
  · next upper =>
      have low : 65 ≤ c.val.toNat := upper.1
      have high : c.val.toNat ≤ 90 := upper.2
      have lower : (c.val + ('a'.val - 'A'.val)).toNat = c.val.toNat + 32 := by
        rw [UInt32.toNat_add]
        exact Nat.mod_eq_of_lt (Nat.lt_of_le_of_lt (Nat.add_le_add_right high 32) (by decide))
      rw [not_isBlank_of_letter low (Nat.le_trans high (by decide)), not_isBlank_of_letter]
      · show 65 ≤ (c.val + ('a'.val - 'A'.val)).toNat
        omega
      · show (c.val + ('a'.val - 'A'.val)).toNat ≤ 122
        omega
  · rfl

/-- Letters of the other case are no white space either. -/
theorem solid_of_sameLetters {core word : List Char}
    (same : core.map Char.toLower = word.map Char.toLower) (solid : Solid word) : Solid core := by
  intro c member
  have lower : c.toLower ∈ word.map Char.toLower := by
    rw [← same]
    exact List.mem_map_of_mem member
  obtain ⟨d, inside, eq⟩ := List.mem_map.mp lower
  rw [← isBlank_toLower, ← eq, isBlank_toLower]
  exact solid d inside

theorem spelled_iff {word value : String} (solid : Solid word.toList) :
    Spelled word value ↔
      (trim value.toList).map Char.toLower = word.toList.map Char.toLower := by
  constructor
  · rintro ⟨front, core, back, whole, same, before, behind⟩
    have left : trim value.toList = core :=
      (trim_eq_iff (solid_of_sameLetters same solid)).mpr ⟨front, back, whole, before, behind⟩
    rw [left, same]
  · intro same
    obtain ⟨front, back, whole, before, behind⟩ := exists_trim value.toList
    exact ⟨front, _, back, whole, same, before, behind⟩

namespace Options

/-- A value that is one of the words that stand for `a`. -/
def Says {α : Type} (words : List (String × α)) (value : String) (a : α) : Prop :=
  ∃ word, (word, a) ∈ words ∧ Spelled word value

theorem solid_words : ∀ word ∈ onWords ++ offWords, Solid word.toList ∧
    word.toList.map Char.toLower = word.toList := by decide

/-- No word is both on and off. -/
theorem words_apart : ∀ word ∈ onWords, word ∉ offWords := by decide

/-- A value is spelled like one of the words just if one of them is left when white space and
case are taken off. -/
theorem mem_words_iff {words : List String} (known : ∀ word ∈ words, word ∈ onWords ++ offWords)
    (value : String) :
    String.ofList ((trim value.toList).map Char.toLower) ∈ words ↔
      ∃ word ∈ words, Spelled word value := by
  constructor
  · intro member
    have lower := (solid_words _ (known _ member)).2
    refine ⟨_, member, (spelled_iff (solid_words _ (known _ member)).1).mpr ?_⟩
    rw [lower, String.toList_ofList]
  · rintro ⟨word, member, spelled⟩
    obtain ⟨solid, lower⟩ := solid_words word (known word member)
    rwa [(spelled_iff solid).mp spelled, lower, String.ofList_toList]

/-- A switch is read as on or off just if its value is spelled so. -/
theorem switch?_eq_some_iff {value : String} {on : Bool} :
    switch? value = some on ↔ ∃ word ∈ if on then onWords else offWords, Spelled word value := by
  let left := String.ofList ((trim value.toList).map Char.toLower)
  have isOn : left ∈ onWords ↔ ∃ word ∈ onWords, Spelled word value :=
    mem_words_iff (fun _ => List.mem_append_left _) value
  have isOff : left ∈ offWords ↔ ∃ word ∈ offWords, Spelled word value :=
    mem_words_iff (fun _ => List.mem_append_right _) value
  have read : switch? value =
      if left ∈ onWords then some true else if left ∈ offWords then some false else none := by
    simp only [switch?, List.contains_iff_mem, left]
  have apart : left ∈ onWords → left ∉ offWords := words_apart left
  cases on with
  | true =>
      rw [read, if_pos rfl, ← isOn]
      grind
  | false =>
      rw [read, if_neg Bool.false_ne_true, ← isOff]
      grind

theorem mem_all (threshold : Threshold) : threshold ∈ Threshold.all := by
  cases threshold with
  | off => decide
  | upTo level => cases level <;> decide

/-- The names of two thresholds differ in more than case. -/
theorem names_apart : ∀ one ∈ Threshold.all, ∀ other ∈ Threshold.all,
    one.name.toList.map Char.toLower = other.name.toList.map Char.toLower → one = other := by
  decide

theorem solid_names : ∀ threshold ∈ Threshold.all, Solid threshold.name.toList := by decide

/-- A threshold is read just where its name is spelled. -/
theorem level?_eq_some_iff {value : String} {threshold : Threshold} :
    level? value = some threshold ↔ Spelled threshold.name value := by
  have named (other : Threshold) :
      Threshold.sameLetters other.name (String.ofList (trim value.toList)) = true ↔
        Spelled other.name value := by
    rw [Threshold.sameLetters, beq_iff_eq, String.toList_ofList,
      spelled_iff (solid_names other (mem_all other))]
    exact eq_comm
  rw [level?, Threshold.ofName?]
  constructor
  · intro found
    have same := List.find?_some found
    exact (named threshold).mp same
  · intro means
    have some : (Threshold.all.find? fun other => Threshold.sameLetters other.name
        (String.ofList (trim value.toList))).isSome := by
      rw [List.find?_isSome]
      exact ⟨threshold, mem_all threshold, (named threshold).mpr means⟩
    obtain ⟨other, found⟩ := Option.isSome_iff_exists.mp some
    -- The name that is found is spelled as well, and names differ in more than case.
    have match_ := List.find?_some found
    have spelled := (named other).mp match_
    have solid (t : Threshold) := solid_names t (mem_all t)
    have same := ((spelled_iff (solid other)).mp spelled).symm.trans
      ((spelled_iff (solid threshold)).mp means)
    rw [found, names_apart other (mem_all other) threshold (mem_all threshold) same]

/-! ## One option -/

/-- What becomes of an option, given the value of its variable.  The variable assigns `a` just
if it is there and says `a`; where it assigns nothing the option keeps its default.  There is
one warning where the variable is there and assigns nothing, and none otherwise. -/
structure Obeys {α : Type} (means : String → α → Prop) (standard : α)
    (complaint : String → LogRecord) (given? : Option String) (option : α)
    (warnings : List LogRecord) : Prop where
  assigned : ∃ assigned : Option α,
    (∀ a, assigned = some a ↔ ∃ value, given? = some value ∧ means value a) ∧
      option = assigned.getD standard
  malformed : ∀ value, given? = some value → (∀ a, ¬ means value a) →
    warnings = [complaint value]
  silent : (∀ value, given? = some value → ∃ a, means value a) → warnings = []

namespace Obeys

variable {α : Type} {means : String → α → Prop} {standard option : α}
  {complaint : String → LogRecord} {value : String} {warnings : List LogRecord}

/-- A variable that says `a` sets its option to `a`, and nothing is logged. -/
theorem of_means {a : α} (obeys : Obeys means standard complaint (some value) option warnings)
    (said : means value a) : option = a ∧ warnings = [] := by
  obtain ⟨assigned, assigns, eq⟩ := obeys.assigned
  have same : assigned = some a := (assigns a).mpr ⟨value, rfl, said⟩
  refine ⟨by rw [eq, same]; rfl, obeys.silent ?_⟩
  rintro _ ⟨⟩
  exact ⟨a, said⟩

/-- A variable that says nothing leaves the default, and is warned about. -/
theorem of_senseless (obeys : Obeys means standard complaint (some value) option warnings)
    (senseless : ∀ a, ¬ means value a) : option = standard ∧ warnings = [complaint value] := by
  obtain ⟨assigned, assigns, eq⟩ := obeys.assigned
  have nothing : assigned = none := by
    rw [Option.eq_none_iff_forall_ne_some]
    intro a same
    obtain ⟨_, ⟨⟩, said⟩ := (assigns a).mp same
    exact senseless a said
  exact ⟨by rw [eq, nothing]; rfl, obeys.malformed value rfl senseless⟩

end Obeys

/-- An option that is read as its variable says obeys it. -/
theorem setting_obeys {α : Type} {means : String → α → Prop} {read? : String → Option α}
    (reads : ∀ {value a}, read? value = some a ↔ means value a) (lookup : Lookup) (key : String)
    (standard : α) (warning : String → String) :
    let result := setting lookup key read? standard warning
    Obeys means standard (fun value => ⟨.warn, key ++ ": " ++ warning value⟩) (lookup key) result.1
      result.2 := by
  intro result
  have assigns (a : α) : (lookup key).bind read? = some a ↔
      ∃ value, lookup key = some value ∧ means value a := by
    simp only [Option.bind_eq_some_iff, reads]
  have option : result.1 = ((lookup key).bind read?).getD standard := by
    simp only [result, setting]
    cases lookup key with
    | none => rfl
    | some value => cases read : read? value <;> simp [read]
  refine ⟨⟨_, assigns, option⟩, ?_, ?_⟩
  · intro value there senseless
    have nothing : read? value = none := by
      rw [Option.eq_none_iff_forall_ne_some]
      exact fun a read => senseless a (reads.mp read)
    simp only [result, setting, there, nothing]
  · intro accepted
    cases there : lookup key with
    | none => simp only [result, setting, there]
    | some value =>
        obtain ⟨a, said⟩ := accepted value there
        simp only [result, setting, there, reads.mpr said]

/-- A setting hangs on its own variable alone. -/
theorem setting_congr {α : Type} {lookup other : Lookup} {key : String}
    (same : lookup key = other key) (read? : String → Option α) (standard : α)
    (warning : String → String) :
    setting lookup key read? standard warning = setting other key read? standard warning := by
  rw [setting, same]
  rfl

/-! ## All options -/

def levelSetting (lookup : Lookup) : Threshold × List LogRecord :=
  setting lookup logVariable level? standard.logLevel fun value =>
    "unknown log level " ++ quoted value ++ ", keeping " ++ standard.logLevel.name

/-- What is logged about the variable of an option. -/
def warned (lookup : Lookup) (key : String) : List LogRecord :=
  if key = logVariable then (levelSetting lookup).2 else (switchSetting lookup key true).2

def switchVariables : List String := [dictionaryVariable, coverageVariable, overridesVariable]

/-- The switches of an agent, each with its variable. -/
def switches (options : Options) : List (String × Bool) :=
  [("SNAPAGENT_DICTIONARY", options.uploadDictionary),
   ("SNAPAGENT_COVERAGE_BRIDGE", options.bridgeCoverage),
   ("SNAPAGENT_BLOCK_SIGNAL_OVERRIDES", options.blockTargetOverrides)]

/-- The warning about a value that is not accepted. -/
def complaint (key problem kept value : String) : LogRecord :=
  ⟨.warn, key ++ ": " ++ (problem ++ quoted value ++ ", keeping " ++ kept)⟩

section

variable (lookup : Lookup)

theorem warnings_eq : (fromLookup lookup).2 = allVariables.flatMap (warned lookup) := by
  have warnings : allVariables.flatMap (warned lookup) =
      (levelSetting lookup).2 ++ (switchSetting lookup dictionaryVariable true).2 ++
        (switchSetting lookup coverageVariable true).2 ++
        (switchSetting lookup overridesVariable true).2 := by
    simp [allVariables, warned, logVariable, dictionaryVariable, coverageVariable,
      overridesVariable]
  rw [warnings]
  rfl

theorem logLevel_eq : (fromLookup lookup).1.logLevel = (levelSetting lookup).1 := rfl

theorem switches_eq :
    switches (fromLookup lookup).1 =
      switchVariables.map fun key => (key, (switchSetting lookup key true).1) := rfl

end

/-- What is logged about a variable hangs on that variable alone. -/
theorem warned_congr {lookup other : Lookup} {key : String} (same : lookup key = other key) :
    warned lookup key = warned other key := by
  unfold warned
  split
  · next log =>
      rw [log] at same
      exact congrArg Prod.snd (setting_congr same _ _ _)
  · exact congrArg Prod.snd (setting_congr same _ _ _)

/-- The options that any variables set.  The log threshold and each switch obeys its own
variable, and the warnings come in the order of the variables.  Another value of one variable,
or none, leaves the options of the others as they are, and the warnings about them. -/
theorem variables_alone (lookup : Lookup) :
    let options := (fromLookup lookup).1
    let levels := [("OFF", Threshold.off), ("ERROR", .upTo .error), ("WARN", .upTo .warn),
      ("INFO", .upTo .info), ("DEBUG", .upTo .debug), ("TRACE", .upTo .trace)]
    let words := [("1", true), ("true", true), ("yes", true), ("on", true),
      ("0", false), ("false", false), ("no", false), ("off", false)]
    Obeys (Says levels) (.upTo .info) (complaint "SNAPAGENT_LOG" "unknown log level " "INFO")
        (lookup "SNAPAGENT_LOG") options.logLevel (warned lookup "SNAPAGENT_LOG") ∧
      (∀ switch ∈ switches options,
        Obeys (Says words) true (complaint switch.1 "expected a boolean, got " "true")
          (lookup switch.1) switch.2 (warned lookup switch.1)) ∧
      (fromLookup lookup).2 = ["SNAPAGENT_LOG", "SNAPAGENT_DICTIONARY",
        "SNAPAGENT_COVERAGE_BRIDGE", "SNAPAGENT_BLOCK_SIGNAL_OVERRIDES"].flatMap (warned lookup) ∧
      ∀ key value?,
        let changed := Function.update lookup key value?
        (key ≠ "SNAPAGENT_LOG" → (fromLookup changed).1.logLevel = options.logLevel) ∧
          (∀ switch ∈ switches options, switch.1 ≠ key →
            switch ∈ switches (fromLookup changed).1) ∧
          ∀ other, other ≠ key → warned changed other = warned lookup other := by
  intro options levels words
  have levelRead {value : String} {threshold : Threshold} :
      level? value = some threshold ↔ Says levels value threshold := by
    rw [level?_eq_some_iff]
    cases threshold with
    | off => simp [Says, levels, Threshold.name]
    | upTo level => cases level <;> simp [Says, levels, Threshold.name, Level.name]
  have switchRead {value : String} {on : Bool} :
      switch? value = some on ↔ Says words value on := by
    rw [switch?_eq_some_iff]
    cases on <;> simp [Says, words, onWords, offWords]
  refine ⟨setting_obeys levelRead lookup logVariable _ _, ?_, warnings_eq lookup, ?_⟩
  · intro switch member
    rw [switches_eq, List.mem_map] at member
    obtain ⟨key, known, rfl⟩ := member
    have other : ∀ key ∈ switchVariables, key ≠ logVariable := by decide
    rw [warned, if_neg (other key known)]
    exact setting_obeys switchRead lookup key true _
  · intro key value? changed
    have kept (other : String) (apart : other ≠ key) : changed other = lookup other :=
      Function.update_of_ne apart value? lookup
    refine ⟨?_, ?_, ?_⟩
    · intro apart
      rw [logLevel_eq, levelSetting, setting_congr (kept logVariable apart.symm)]
      rfl
    · intro switch member apart
      rw [switches_eq, List.mem_map] at member ⊢
      obtain ⟨other, known, rfl⟩ := member
      refine ⟨other, known, ?_⟩
      rw [switchSetting, setting_congr (kept other apart)]
      rfl
    · intro other apart
      exact warned_congr (kept other apart)

/-- A level between an ideographic space and a line feed, a switch that is on, one that is off
and one whose value is no word. -/
def mixed : Lookup := fun key =>
  if key = "SNAPAGENT_LOG" then some "\u3000dEbUg\n"
  else if key = "SNAPAGENT_DICTIONARY" then some " On "
  else if key = "SNAPAGENT_COVERAGE_BRIDGE" then some "\u3000oFF\t"
  else if key = "SNAPAGENT_BLOCK_SIGNAL_OVERRIDES" then some "maybe"
  else none

theorem variables_alone_mixed :
    fromLookup mixed =
        (⟨.upTo .debug, true, false, true⟩,
          [⟨.warn, "SNAPAGENT_BLOCK_SIGNAL_OVERRIDES: expected a boolean, got \"maybe\", " ++
            "keeping true"⟩]) ∧
      "SNAPAGENT_COVERAGE_BRIDGE" ≠ "SNAPAGENT_LOG" ∧
      (fromLookup (Function.update mixed "SNAPAGENT_COVERAGE_BRIDGE" none)).1.logLevel =
        .upTo .debug := by
  have apart : "SNAPAGENT_COVERAGE_BRIDGE" ≠ "SNAPAGENT_LOG" := by decide
  obtain ⟨level, switch, warnings, alone⟩ := variables_alone mixed
  simp only [switches, List.forall_mem_cons] at switch
  obtain ⟨dictionary, coverage, overrides, -⟩ := switch
  have spelled {word value : String} (solid : Solid word.toList)
      (same : (trim value.toList).map Char.toLower = word.toList.map Char.toLower) :
      Spelled word value := (spelled_iff solid).mpr same
  obtain ⟨debug, levelQuiet⟩ := level.of_means (a := .upTo .debug)
    ⟨"DEBUG", by decide, spelled (by decide) (by decide)⟩
  obtain ⟨on, dictionaryQuiet⟩ := dictionary.of_means (a := true)
    ⟨"on", by decide, spelled (by decide) (by decide)⟩
  obtain ⟨off, coverageQuiet⟩ := coverage.of_means (a := false)
    ⟨"off", by decide, spelled (by decide) (by decide)⟩
  obtain ⟨kept, warning⟩ := overrides.of_senseless (by
    rintro on ⟨word, member, same⟩
    simp only [List.mem_cons, Prod.mk.injEq, List.not_mem_nil, or_false] at member
    rcases member with ⟨rfl, -⟩ | ⟨rfl, -⟩ | ⟨rfl, -⟩ | ⟨rfl, -⟩ | ⟨rfl, -⟩ | ⟨rfl, -⟩ |
        ⟨rfl, -⟩ | ⟨rfl, -⟩ <;>
      exact absurd ((spelled_iff (by decide)).mp same) (by decide))
  have options : (fromLookup mixed).1 = ⟨.upTo .debug, true, false, true⟩ := by
    show Options.mk _ _ _ _ = _
    rw [Options.mk.injEq]
    exact ⟨debug, on, off, kept⟩
  have logged : (fromLookup mixed).2 = [complaint "SNAPAGENT_BLOCK_SIGNAL_OVERRIDES"
      "expected a boolean, got " "true" "maybe"] := by
    rw [warnings, List.flatMap_cons, levelQuiet, List.flatMap_cons, dictionaryQuiet,
      List.flatMap_cons, coverageQuiet, List.flatMap_cons, warning]
    rfl
  refine ⟨Prod.ext options ?_, apart, ?_⟩
  · rw [logged]
    rfl
  · rw [(alone "SNAPAGENT_COVERAGE_BRIDGE" none).1 apart, debug]

end Options

end Rewind
