import Agenda.Text.Fields
import Agenda.Text.Numeral

/-! # Arguments

The command line takes one of five commands with options of its own, and an option for the current
day that may stand before or after the command. Reading arguments stops at the first that does not
fit, or at a request for help.
-/

namespace Agenda.CommandLine

/-- A command with its arguments. -/
inductive Command
  /-- Show the next date by a rule. -/
  | next (now date rule : String)
  /-- Prepare a new task. -/
  | add (title : String) (date comment repeatText : Option String)
  /-- Complete the task that a source holds. -/
  | done (source : String)
  /-- Check the edited task that a source holds. -/
  | check (source : String)
  /-- Search a file of tasks. -/
  | search (query input : String) (json : Bool) (limit : Option Nat)
  deriving Repr, DecidableEq

/-- What the program is asked to do. -/
structure Invocation where
  /-- The day to take for today, instead of the current one. -/
  today : Option String
  command : Command
  deriving Repr, DecidableEq

/-- Why reading arguments ends without a command. -/
inductive Stop
  | usage
  | help
  | version
  deriving Repr, DecidableEq

/-- What the value of an option has to be. -/
inductive ValueForm
  /-- No value belongs to the option. -/
  | absent
  | text
  /-- A text that is not empty. -/
  | path
  | limit
  deriving Repr, DecidableEq

/-- The limit that a text stands for: a whole number of 64 bits, with or without a plus sign. -/
def limit? (text : String) : Option Nat :=
  let digits :=
    match text.toList with
    | '+' :: rest => rest
    | digits => digits
  (Numeral.natural? digits).filter (· < Numeral.wordBound)

/-- Whether a text can be a value of this form. -/
def ValueForm.admits (form : ValueForm) (value : String) : Bool :=
  match form with
  | .absent => value.isEmpty
  | .text => true
  | .path => !value.isEmpty
  | .limit => (limit? value).isSome

/-- An option: its name after two dashes, a letter after one dash, and the form of its value. -/
structure Switch where
  name : String
  letter : Option Char := none
  form : ValueForm := .text
  deriving Repr, DecidableEq

/-- What may be given at one place of the command line. -/
structure Grammar where
  switches : List Switch
  /-- The number of arguments that are not options. -/
  operands : Nat := 0
  /-- The commands that may follow. -/
  commands : List String := []
  hasVersion : Bool := false

/-- What was given: options with their values, and the other arguments, last ones first. -/
structure Given where
  values : List (String × String) := []
  operands : List String := []

namespace Given

def value? (given : Given) (name : String) : Option String :=
  given.values.lookup name

def value (given : Given) (name : String) : Except Stop String :=
  match given.value? name with
  | some value => .ok value
  | none => .error .usage

/-- Take an option, which may be given once, with a value of its form. -/
def addValue (given : Given) (switch : Switch) (value : String) : Except Stop Given :=
  if (given.value? switch.name).isSome || !switch.form.admits value then .error .usage
  else .ok { given with values := (switch.name, value) :: given.values }

def addOperand (grammar : Grammar) (given : Given) (operand : String) : Except Stop Given :=
  if given.operands.length < grammar.operands then
    .ok { given with operands := operand :: given.operands }
  else
    .error .usage

def addOperands (grammar : Grammar) (given : Given) : List String → Except Stop Given
  | [] => .ok given
  | operand :: rest => do
    let given ← given.addOperand grammar operand
    given.addOperands grammar rest

end Given

/-- The form of an argument. -/
inductive Shape
  /-- Two dashes, after which no argument is an option. -/
  | dashes
  /-- An option by its name, with the value after an equals sign if there is one. -/
  | long (name : String) (value : Option String)
  /-- An option by its letter, with what follows the letter. -/
  | short (letter : Char) (rest : List Char)
  | plain
  deriving Repr, DecidableEq

namespace Shape

/-- The form of an argument. A dash alone is no option. -/
def ofArgument (argument : String) : Shape :=
  match argument.toList with
  | ['-', '-'] => dashes
  | '-' :: '-' :: rest =>
    let name := String.ofList (rest.takeWhile (· != '='))
    match rest.dropWhile (· != '=') with
    | [] => long name none
    | _ :: value => long name (some (String.ofList value))
  | '-' :: letter :: rest => short letter rest
  | _ => plain

end Shape

/-- What an argument means where some grammar holds. -/
inductive Reading
  /-- No option follows. -/
  | onlyOperands
  /-- An option with its value, or with an empty one if it takes none. -/
  | option (switch : Switch) (value : String)
  /-- An option whose value is the next argument. -/
  | awaiting (switch : Switch)
  | operand
  | command
  | stop (cause : Stop)
  deriving Repr, DecidableEq

namespace Grammar

/-- What an option means with the value that comes in the same argument, if one does. -/
def readSwitch (switch : Switch) (value : Option String) : Reading :=
  match switch.form, value with
  | .absent, none => .option switch ""
  | .absent, some _ => .stop .usage
  | _, some value => .option switch value
  | _, none => .awaiting switch

/-- What an option by its name means. The requests for help and version take no value. -/
def readLong (grammar : Grammar) (name : String) (value : Option String) : Reading :=
  match grammar.switches.find? (·.name == name) with
  | some switch => readSwitch switch value
  | none =>
    if value.isSome then .stop .usage
    else if name == "help" then .stop .help
    else if name == "version" && grammar.hasVersion then .stop .version
    else .stop .usage

/-- What an option by its letter means. Letters after it are its value, before which an equals sign
may come. -/
def readShort (grammar : Grammar) (letter : Char) (rest : List Char) : Reading :=
  match grammar.switches.find? (·.letter == some letter) with
  | some switch =>
    readSwitch switch
      (match rest with
        | [] => none
        | '=' :: value => some (String.ofList value)
        | value => some (String.ofList value))
  | none =>
    if letter == 'h' then .stop .help
    else if letter == 'V' && grammar.hasVersion then .stop .version
    else .stop .usage

def read (grammar : Grammar) (argument : String) : Reading :=
  match Shape.ofArgument argument with
  | .dashes => .onlyOperands
  | .long name value => grammar.readLong name value
  | .short letter rest => grammar.readShort letter rest
  | .plain => if grammar.commands.contains argument then .command else .operand

/-- Read the arguments of one place of the command line, up to a command that may follow. The value
of an option may not look like an option itself. -/
def scan (grammar : Grammar) (given : Given) :
    List String → Except Stop (Given × Option (String × List String))
  | [] => .ok (given, none)
  | argument :: rest =>
    match grammar.read argument with
    | .onlyOperands => (given.addOperands grammar rest).map (·, none)
    | .option switch value =>
      match given.addValue switch value with
      | .ok given => grammar.scan given rest
      | .error stop => .error stop
    | .awaiting switch =>
      match rest with
      | [] => .error .usage
      | value :: rest =>
        if Shape.ofArgument value = .plain then
          match given.addValue switch value with
          | .ok given => grammar.scan given rest
          | .error stop => .error stop
        else
          .error .usage
    | .operand =>
      match given.addOperand grammar argument with
      | .ok given => grammar.scan given rest
      | .error stop => .error stop
    | .command => .ok (given, some (argument, rest))
    | .stop cause => .error cause

end Grammar

def todaySwitch : Switch := { name := "today" }

def commandNames : List String := ["next", "add", "done", "check", "search"]

def programGrammar : Grammar where
  switches := [todaySwitch]
  commands := commandNames ++ ["help"]
  hasVersion := true

def commandGrammar : String → Grammar
  | "next" =>
    { switches := [todaySwitch, { name := "now" }, { name := "date" }, { name := "repeat" }] }
  | "add" =>
    { switches := [todaySwitch, { name := "title" }, { name := "date" }, { name := "comment" },
        { name := "repeat" }] }
  | "search" =>
    { switches := [todaySwitch, { name := "input", letter := some 'i', form := .path },
        { name := "json", form := .absent }, { name := "limit", form := .limit }]
      operands := 1 }
  | _ => { switches := [todaySwitch], operands := 1 }

def Given.operand (given : Given) : Except Stop String :=
  match given.operands with
  | operand :: _ => .ok operand
  | [] => .error .usage

/-- The command with a name and what was given after it. -/
def Command.ofGiven (name : String) (given : Given) : Except Stop Command :=
  match name with
  | "next" => return .next (← given.value "now") (← given.value "date") (← given.value "repeat")
  | "add" =>
    return .add (← given.value "title") (given.value? "date") (given.value? "comment")
      (given.value? "repeat")
  | "done" => return .done (← given.operand)
  | "check" => return .check (← given.operand)
  | "search" =>
    return .search (given.operands.headD "") (← given.value "input")
      (given.value? "json").isSome ((given.value? "limit").bind limit?)
  | _ => .error .usage

/-- The end of a request for help on some command. -/
def helpOn : List String → Stop
  | [] => .help
  | "help" :: rest => helpOn rest
  | [name] => if commandNames.contains name then .help else .usage
  | _ => .usage

namespace Invocation

/-- Read the arguments of the program. The current day after the command comes before that in front
of it. -/
def ofArguments (arguments : List String) : Except Stop Invocation := do
  let (before, found) ← programGrammar.scan {} arguments
  match found with
  | none => throw .usage
  | some ("help", topics) => throw (helpOn topics)
  | some (name, rest) =>
    let (given, _) ← (commandGrammar name).scan {} rest
    let command ← Command.ofGiven name given
    return ⟨(given.value? "today").or (before.value? "today"), command⟩

end Invocation

end Agenda.CommandLine
