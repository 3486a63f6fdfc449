import Mathlib.Tactic
import Mathlib.Data.List.TakeWhile
import Agenda.CommandLine.Run
import Agenda.Proofs.Text.Blank
import Agenda.Proofs.Toml.NumberLine

/-! # The settings in force

Each setting is the one that the last variable for it makes, or else the one in the settings file,
which is the first file that is there of all that may hold settings. If any part of this cannot be
read, no part of it counts.
-/

namespace Agenda

namespace Setting

open Numeral (Decimal digitChar wordBound)

variable {cs : List Char} {n : Nat}

theorem trim_of_decimal (h : Decimal cs n) : Blank.trim cs = cs := by
  have notBlank : ∀ c ∈ cs, Blank.isBlank c = false := by
    intro c member
    obtain ⟨d, lt, rfl⟩ := h.isDigit c member
    exact Blank.isBlank_of_isDigit_or_point (.inl (Numeral.isDigit_digitChar lt))
  simpa using
    Blank.trim_surrounded (List.forall_mem_nil _) (List.forall_mem_nil _) notBlank h.ne_nil

theorem ofWord_of_decimal (h : Decimal cs n) (small : n < wordBound) : ofWord cs = .count n := by
  have whole : isFraction cs = false := by
    rw [isFraction, Numeral.splitSign_of_decimal h]
    have none : cs.dropWhile Char.isDigit = [] :=
      List.dropWhile_eq_nil_iff.mpr (Numeral.decimal_iff.mp h).2.1
    simp [none]
  have read := Numeral.integer?_eq_some_iff.mpr (.plain h)
  simp [ofWord, whole, read, small]

theorem read_digit {d : Nat} (lt : d < 10) (later : List Char) (steps : Nat) :
    let word := (digitChar d :: later).takeWhile fun c => !isSeparator c
    let rest := (digitChar d :: later).dropWhile fun c => !isSeparator c
    read (steps + 1) (digitChar d :: later) = some (ofWord (Blank.trim word), skipGap rest) := by
  interval_cases d <;> (rw [read]; rfl)

theorem read_of_decimal (h : Decimal cs n) (steps : Nat) :
    read (steps + 1) cs = some (ofWord cs, []) := by
  have inWord : ∀ c ∈ cs, !isSeparator c := by
    intro c member
    obtain ⟨d, lt, rfl⟩ := h.isDigit c member
    interval_cases d <;> rfl
  obtain ⟨first, later, rfl⟩ := List.exists_cons_of_ne_nil h.ne_nil
  obtain ⟨d, lt, rfl⟩ := h.isDigit first List.mem_cons_self
  rw [read_digit lt, List.takeWhile_eq_self_iff.mpr inWord, List.dropWhile_eq_nil_iff.mpr inWord,
    trim_of_decimal h]
  rfl

theorem ofVariable_of_decimal {value : String} (h : Decimal value.toList n)
    (small : n < wordBound) : ofVariable value = .count n := by
  rw [ofVariable, read_of_decimal h]
  exact ofWord_of_decimal h small

end Setting

namespace Settings

variable {environment : Environment} {entries : Toml.Entries} {name : String}
  {setting? : Option Setting} {settings : Settings}

/-- Whether a variable is for the setting of this name. -/
def IsFor (name : String) (entry : String × String) : Prop :=
  ∃ setting, ofVariable? entry.1 entry.2 = some (name, setting)

theorem places_nil (environment : Environment) : places environment [] = [path environment] := by
  simp [places]

/-- What is set under a name: the last variable for it counts, then the file. -/
inductive Sets (environment : Environment) (entries : Toml.Entries) (name : String) :
    Option Setting → Prop
  | byVariable {before after : Environment} {key value : String} {setting : Setting}
      (placed : environment = before ++ (key, value) :: after)
      (made : ofVariable? key value = some (name, setting))
      (last : ∀ later ∈ after, ¬IsFor name later) : Sets environment entries name (some setting)
  | byFile {value : Toml.Value} (noVariable : ∀ entry ∈ environment, ¬IsFor name entry)
      (found : entries.get? name = some value) : Sets environment entries name (some (ofToml value))
  | nowhere (noVariable : ∀ entry ∈ environment, ¬IsFor name entry)
      (missing : entries.get? name = none) : Sets environment entries name none

def byVariables (environment : Environment) : List (String × Setting) :=
  (environment.filterMap fun (name, value) => ofVariable? name value).reverse

theorem byVariables_append (before after : Environment) :
    byVariables (before ++ after) = byVariables after ++ byVariables before := by
  rw [byVariables, List.filterMap_append, List.reverse_append, byVariables, byVariables]

theorem lookup_byVariables_eq_none (noVariable : ∀ entry ∈ environment, ¬IsFor name entry) :
    (byVariables environment).lookup name = none := by
  rw [List.lookup_eq_none_iff]
  rintro ⟨key, setting⟩ isMade
  rw [byVariables, List.mem_reverse, List.mem_filterMap] at isMade
  obtain ⟨entry, isIn, made⟩ := isMade
  rw [bne_iff_ne]
  rintro rfl
  exact noVariable entry isIn ⟨setting, made⟩

theorem lookup_byVariables_last {before after : Environment} {key value : String}
    {setting : Setting} (made : ofVariable? key value = some (name, setting))
    (last : ∀ later ∈ after, ¬IsFor name later) :
    (byVariables (before ++ (key, value) :: after)).lookup name = some setting := by
  rw [← List.singleton_append, byVariables_append, byVariables_append, List.lookup_append,
    List.lookup_append, lookup_byVariables_eq_none last]
  simp [byVariables, made]

theorem lookup_ofToml (entries : Toml.Entries) (name : String) :
    (entries.map fun (key, value) => (key, ofToml value)).lookup name =
      (entries.get? name).map ofToml := by
  induction entries with
  | nil => rfl
  | cons entry entries ih =>
    rw [Toml.Entries.get?] at ih ⊢
    rw [List.map_cons, List.lookup_cons, List.lookup_cons, ih]
    cases name == entry.1 <;> rfl

theorem Sets.lookup (h : Sets environment entries name setting?) :
    (layers environment entries).lookup name = setting? := by
  have layered : (layers environment entries).lookup name =
      ((byVariables environment).lookup name).or ((entries.get? name).map ofToml) := by
    rw [layers, List.lookup_append, lookup_ofToml, byVariables]
  cases h with
  | byVariable placed made last =>
    rw [layered, placed, lookup_byVariables_last made last, Option.some_or]
  | byFile noVariable found => rw [layered, lookup_byVariables_eq_none noVariable, found]; rfl
  | nowhere noVariable missing => rw [layered, lookup_byVariables_eq_none noVariable, missing]; rfl

theorem Sets.append_of_not (h : Sets environment entries name setting?) {entry : String × String}
    (notFor : ¬IsFor name entry) : Sets (environment ++ [entry]) entries name setting? := by
  have keep {rest : Environment} (none : ∀ later ∈ rest, ¬IsFor name later) :
      ∀ later ∈ rest ++ [entry], ¬IsFor name later := by
    rw [List.forall_mem_append, List.forall_mem_singleton]
    exact ⟨none, notFor⟩
  cases h with
  | byVariable placed made last =>
    exact .byVariable (by rw [placed, List.append_assoc, List.cons_append]) made (keep last)
  | byFile noVariable found => exact .byFile (keep noVariable) found
  | nowhere noVariable missing => exact .nowhere (keep noVariable) missing

theorem exists_sets (environment : Environment) (entries : Toml.Entries) (name : String) :
    ∃ setting?, Sets environment entries name setting? := by
  induction environment using List.reverseRecOn with
  | nil =>
    cases found : entries.get? name with
    | none => exact ⟨_, .nowhere (List.forall_mem_nil _) found⟩
    | some value => exact ⟨_, .byFile (List.forall_mem_nil _) found⟩
  | append_singleton environment entry ih =>
    by_cases isFor : IsFor name entry
    · obtain ⟨setting, made⟩ := isFor
      exact ⟨_, .byVariable rfl made (List.forall_mem_nil _)⟩
    · obtain ⟨setting?, sets⟩ := ih
      exact ⟨setting?, sets.append_of_not isFor⟩

theorem sets_iff :
    Sets environment entries name setting? ↔
      (layers environment entries).lookup name = setting? := by
  refine ⟨Sets.lookup, ?_⟩
  obtain ⟨found?, sets⟩ := exists_sets environment entries name
  rw [sets.lookup]
  rintro rfl
  exact sets

theorem Sets.unique {left? right? : Option Setting} (left : Sets environment entries name left?)
    (right : Sets environment entries name right?) : left? = right? :=
  left.lookup.symm.trans right.lookup

/-- The limit is the number that is set, or the usual one. -/
def IsLimit : Option Setting → Nat → Prop
  | some setting, limit => setting = .count limit
  | none, limit => limit = 50

/-- The level is the text that is set, or the usual one. -/
def IsLevel : Option Setting → String → Prop
  | some setting, level => setting = .text level
  | none, level => level = "warn"

theorem ofVariable?_listLimit (value : String) :
    ofVariable? "SKED_LIST_LIMIT" value = some ("list_limit", .ofVariable value) := by
  rfl

theorem read_listLimit {n : Nat} (small : n < Numeral.signedBound) :
    Toml.read (Toml.numberLine "list_limit" n) = some [("list_limit", .integer n)] :=
  Toml.read_numberLine (List.all_eq_true.mp (by rfl)) (by decide) small

/-- The settings that variables and a file with these entries make. -/
structure Makes (environment : Environment) (entries : Toml.Entries) (settings : Settings) :
    Prop where
  limit : ∃ setting?, Sets environment entries "list_limit" setting? ∧
    IsLimit setting? settings.listLimit
  level : ∃ setting?, Sets environment entries "log_level" setting? ∧
    IsLevel setting? settings.logLevel

theorem makes_iff :
    Makes environment entries settings ↔
      IsLimit ((layers environment entries).lookup "list_limit") settings.listLimit ∧
        IsLevel ((layers environment entries).lookup "log_level") settings.logLevel := by
  constructor
  · rintro ⟨⟨_, setsLimit, isLimit⟩, ⟨_, setsLevel, isLevel⟩⟩
    exact ⟨setsLimit.lookup ▸ isLimit, setsLevel.lookup ▸ isLevel⟩
  · rintro ⟨isLimit, isLevel⟩
    exact ⟨⟨_, sets_iff.mpr rfl, isLimit⟩, ⟨_, sets_iff.mpr rfl, isLevel⟩⟩

/-- The entries that a settings file has. Without a file there are none. -/
inductive Lists : Option String → Toml.Entries → Prop
  | file {text : String} {entries : Toml.Entries} (decoded : Toml.read text = some entries) :
      Lists (some text) entries
  | nothing : Lists none []

theorem Lists.load?_eq_some_iff {file : Option String} (lists : Lists file entries) :
    load? environment file = some settings ↔ Makes environment entries settings := by
  obtain ⟨listLimit, logLevel⟩ := settings
  rw [makes_iff]
  rcases limit : (layers environment entries).lookup "list_limit" with - | (_ | _ | _) <;>
    rcases level : (layers environment entries).lookup "log_level" with - | (_ | _ | _) <;>
      cases lists <;> simp [load?, *, IsLimit, IsLevel, defaultListLimit, eq_comm]

theorem load?_eq_some_iff {file : Option String} :
    load? environment file = some settings ↔
      ∃ entries, Lists file entries ∧ Makes environment entries settings := by
  constructor
  · intro loaded
    cases file with
    | none => exact ⟨[], .nothing, Lists.nothing.load?_eq_some_iff.mp loaded⟩
    | some text =>
      cases decoded : Toml.read text with
      | none => simp [load?, decoded] at loaded
      | some entries =>
        exact ⟨entries, .file decoded, (Lists.file decoded).load?_eq_some_iff.mp loaded⟩
  · rintro ⟨entries, lists, makes⟩
    exact lists.load?_eq_some_iff.mpr makes

end Settings

namespace CommandLine

open Settings (places Lists Makes load?_eq_some_iff)

variable {around : Surroundings} {entries : Toml.Entries} {settings : Settings}

/-- What the settings file holds: the first file that is there is read, and without any file there
are no entries. -/
inductive FileHolds (around : Surroundings) : Toml.Entries → Prop
  | file {before after : List String} {path text : String} {entries : Toml.Entries}
      (placed : places around.environment around.parents = before ++ path :: after)
      (first : ∀ earlier ∈ before, ¬around.isFile earlier) (isFile : around.isFile path)
      (read : around.read path = .ok text) (decoded : Toml.read text = some entries) :
      FileHolds around entries
  | nothing
      (missing : ∀ path ∈ places around.environment around.parents, ¬around.isFile path) :
      FileHolds around []

/-- The settings that can be read in all their parts. -/
def Configures (around : Surroundings) (settings : Settings) : Prop :=
  ∃ entries, FileHolds around entries ∧ Makes around.environment entries settings

/-- The settings in force. Where a part cannot be read, the usual ones are. -/
inductive InForce (around : Surroundings) : Settings → Prop
  | configured {settings : Settings} (configures : Configures around settings) :
      InForce around settings
  | usual (unreadable : ∀ settings, ¬Configures around settings) :
      InForce around { listLimit := 50, logLevel := "warn" }

theorem readSettingsFile_eq_ok_none_iff :
    readSettingsFile around = .ok none ↔
      ∀ path ∈ places around.environment around.parents, ¬around.isFile path := by
  rw [readSettingsFile, ← List.find?_eq_none]
  cases (places around.environment around.parents).find? around.isFile with
  | none => simp
  | some path => cases read : around.read path <;> simp [Except.map, read]

theorem readSettingsFile_eq_ok_some_iff {text : String} :
    readSettingsFile around = .ok (some text) ↔
      ∃ path, (places around.environment around.parents).find? around.isFile = some path ∧
        around.read path = .ok text := by
  rw [readSettingsFile]
  cases (places around.environment around.parents).find? around.isFile with
  | none => simp
  | some path => cases read : around.read path <;> simp [Except.map, read]

theorem fileHolds_iff :
    FileHolds around entries ↔
      ∃ file, readSettingsFile around = .ok file ∧ Lists file entries := by
  constructor
  · rintro (⟨placed, first, isFile, read, decoded⟩ | missing)
    · have found := List.find?_eq_some_iff_append.mpr ⟨isFile, _, _, placed, by simpa using first⟩
      exact ⟨_, readSettingsFile_eq_ok_some_iff.mpr ⟨_, found, read⟩, .file decoded⟩
    · exact ⟨_, readSettingsFile_eq_ok_none_iff.mpr missing, .nothing⟩
  · rintro ⟨_, found, lists⟩
    cases lists with
    | file decoded =>
      obtain ⟨path, isFirst, read⟩ := readSettingsFile_eq_ok_some_iff.mp found
      obtain ⟨isFile, before, after, placed, first⟩ := List.find?_eq_some_iff_append.mp isFirst
      exact .file placed (by simpa using first) isFile read decoded
    | nothing => exact .nothing (readSettingsFile_eq_ok_none_iff.mp found)

theorem FileHolds.of_read {today : Date} {environment : Environment} {text : String}
    {read : String → Except ReadFailure String}
    (found : read (Settings.path environment) = .ok text)
    (decoded : Toml.read text = some entries) : FileHolds { today, environment, read } entries := by
  have placed : places environment [] = [] ++ [Settings.path environment] :=
    Settings.places_nil environment
  exact .file placed (List.forall_mem_nil _) (by simp [found]) found decoded

theorem FileHolds.unique {left right : Toml.Entries} (holdsLeft : FileHolds around left)
    (holdsRight : FileHolds around right) : left = right := by
  obtain ⟨_, found, lists⟩ := fileHolds_iff.mp holdsLeft
  obtain ⟨_, foundAgain, listsAgain⟩ := fileHolds_iff.mp holdsRight
  cases Except.ok.inj (found.symm.trans foundAgain)
  cases lists with
  | file decoded =>
    cases listsAgain with
    | file decodedAgain => exact Option.some.inj (decoded.symm.trans decodedAgain)
  | nothing =>
    cases listsAgain
    rfl

theorem Configures.isLimit {setting? : Option Setting} (configures : Configures around settings)
    (holds : FileHolds around entries)
    (sets : Settings.Sets around.environment entries "list_limit" setting?) :
    Settings.IsLimit setting? settings.listLimit := by
  obtain ⟨_, holdsAgain, makes⟩ := configures
  obtain ⟨_, setsAgain, isLimit⟩ := makes.limit
  cases holdsAgain.unique holds
  rwa [setsAgain.unique sets] at isLimit

theorem configures_iff :
    Configures around settings ↔
      ∃ file, readSettingsFile around = .ok file ∧
        Settings.load? around.environment file = some settings := by
  simp only [Configures, fileHolds_iff, load?_eq_some_iff]
  constructor
  · rintro ⟨entries, ⟨file, found, lists⟩, makes⟩
    exact ⟨file, found, entries, lists, makes⟩
  · rintro ⟨file, found, entries, lists, makes⟩
    exact ⟨entries, ⟨file, found, lists⟩, makes⟩

theorem loadSettings_of_configures (configures : Configures around settings) :
    loadSettings around = (settings, "") := by
  obtain ⟨file, found, loaded⟩ := configures_iff.mp configures
  rw [loadSettings, found]
  simp [loaded]

theorem loadSettings_of_not_configures (unreadable : ∀ settings, ¬Configures around settings) :
    loadSettings around = ({}, settingsReport) := by
  simp only [configures_iff, not_exists, not_and] at unreadable
  cases found : readSettingsFile around with
  | error cause => rw [loadSettings, found]
  | ok file =>
    have loaded :=
      Option.eq_none_iff_forall_ne_some.mpr fun settings => unreadable settings file found
    rw [loadSettings, found]
    simp [loaded]

/-- The program runs with the settings in force. -/
theorem inForce_iff : InForce around settings ↔ (loadSettings around).1 = settings := by
  constructor
  · intro inForce
    cases inForce with
    | configured configures => rw [loadSettings_of_configures configures]
    | usual unreadable => rw [loadSettings_of_not_configures unreadable]; rfl
  · rintro rfl
    by_cases readable : ∃ settings, Configures around settings
    · obtain ⟨settings, configures⟩ := readable
      rw [loadSettings_of_configures configures]
      exact .configured configures
    · have unreadable := not_exists.mp readable
      rw [loadSettings_of_not_configures unreadable]
      exact .usual unreadable

/-- A settings file that is there but cannot be read leaves the usual settings in force, whatever
    the variables say. -/
theorem InForce.of_unreadable {before after : List String} {path : String} {cause : ReadFailure}
    (placed : places around.environment around.parents = before ++ path :: after)
    (first : ∀ earlier ∈ before, ¬around.isFile earlier) (isFile : around.isFile path)
    (unreadable : around.read path = .error cause) : InForce around {} := by
  have found : (places around.environment around.parents).find? around.isFile = some path :=
    List.find?_eq_some_iff_append.mpr ⟨isFile, _, _, placed, by simpa using first⟩
  have unread : readSettingsFile around = .error cause := by
    rw [readSettingsFile, found]
    simp [unreadable, Except.map]
  refine .usual fun settings configures => ?_
  obtain ⟨file, read, -⟩ := configures_iff.mp configures
  cases unread.symm.trans read

/-- A number in the last variable for it is the limit, whatever the file holds. -/
theorem Configures.listLimit_eq {before after : Environment} {value : String} {n : Nat}
    (configures : Configures around settings) (small : n < Numeral.wordBound)
    (placed : around.environment = before ++ ("SKED_LIST_LIMIT", value) :: after)
    (number : Numeral.Decimal value.toList n)
    (last : ∀ later ∈ after, ¬Settings.IsFor "list_limit" later) : settings.listLimit = n := by
  have ⟨entries, holds, _⟩ := configures
  have made : Settings.ofVariable? "SKED_LIST_LIMIT" value = some ("list_limit", .count n) := by
    rw [Settings.ofVariable?_listLimit, Setting.ofVariable_of_decimal number small]
  exact (Setting.count.inj (configures.isLimit holds (.byVariable placed made last))).symm

/-- A number in the first settings file is the limit if there is no variable for it. -/
theorem Configures.listLimit_eq_of_file {before after : List String} {path : String} {n : Nat}
    (configures : Configures around settings) (small : n < Numeral.signedBound)
    (noVariable : ∀ entry ∈ around.environment, ¬Settings.IsFor "list_limit" entry)
    (placed : places around.environment around.parents = before ++ path :: after)
    (first : ∀ earlier ∈ before, ¬around.isFile earlier) (isFile : around.isFile path)
    (read : around.read path = .ok (Toml.numberLine "list_limit" n)) :
    settings.listLimit = n := by
  have holds : FileHolds around [("list_limit", .integer n)] :=
    .file placed first isFile read (Settings.read_listLimit small)
  have isLimit := configures.isLimit holds (.byFile noVariable rfl)
  simpa [Settings.IsLimit, Settings.ofToml, eq_comm] using isLimit

end CommandLine

end Agenda
