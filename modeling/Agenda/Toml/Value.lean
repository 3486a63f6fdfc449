/-! # TOML values

The values of the configuration format, and the tables that a document builds up line by line. How
a table came about decides which later lines may still add to it.
-/

namespace Agenda.Toml

/-- How a table came about. -/
inductive Origin
  /-- Written between braces; nothing can be added. -/
  | inline
  /-- Named by a heading of its own. -/
  | headed
  /-- On the way to a table named by a heading. -/
  | implied
  /-- On the way to a dotted key. -/
  | dotted
  deriving Repr, DecidableEq

/-- A TOML value. Of the values that no setting uses only the kind is kept. -/
inductive Value
  | string (value : String)
  | integer (value : Int)
  | boolean
  | float
  | moment
  | array
  | table (origin : Origin) (entries : List (String × Value))
  | tables (elements : List (List (String × Value)))
  deriving Repr

/-- Keys with their values, in the order in which they came up. -/
abbrev Entries := List (String × Value)

namespace Entries

def get? (entries : Entries) (key : String) : Option Value :=
  List.lookup key entries

/-- The entries with a key's value replaced, or added at the end. -/
def put (entries : Entries) (key : String) (value : Value) : Entries :=
  if (entries.get? key).isSome then
    entries.map fun entry => if entry.1 == key then (key, value) else entry
  else
    entries ++ [(key, value)]

/-- Change the table at the end of a path. Tables on the way that do not exist yet come about; with
`dotted` the path belongs to a dotted key, which may not lead into a table that a heading names. -/
def change (dotted : Bool) (update : Entries → Option Entries) :
    List String → Entries → Option Entries
  | [], entries => update entries
  | key :: path, entries =>
    match entries.get? key with
    | none => do
      let inner ← change dotted update path []
      return entries.put key (.table (if dotted then .dotted else .implied) inner)
    | some (.table origin inner) =>
      let closed :=
        match origin with
        | .inline => true
        | .headed => dotted
        | .implied => dotted && path.isEmpty
        | .dotted => false
      if closed then none
      else do
        let inner ← change dotted update path inner
        return entries.put key (.table origin inner)
    | some (.tables elements) =>
      match elements.reverse with
      | [] => none
      | last :: before =>
        if dotted && path.isEmpty then none
        else do
          let last ← change dotted update path last
          return entries.put key (.tables (before.reverse ++ [last]))
    | some _ => none

def addNew (key : String) (value : Value) (entries : Entries) : Option Entries :=
  if (entries.get? key).isSome then none else some (entries.put key value)

def addPair (entries : Entries) (key : List String) (value : Value) : Option Entries :=
  match key.reverse with
  | [] => none
  | last :: before => change true (addNew last value) before.reverse entries

/-- Let a heading name a table. It may have been on the way to another one before. -/
def addTable (entries : Entries) (path : List String) : Option Entries :=
  match path.reverse with
  | [] => none
  | last :: before =>
    change false
      (fun inner =>
        match inner.get? last with
        | none => some (inner.put last (.table .headed []))
        | some (.table .implied found) => some (inner.put last (.table .headed found))
        | some _ => none)
      before.reverse entries

/-- Let a heading name one more table of an array. -/
def addElement (entries : Entries) (path : List String) : Option Entries :=
  match path.reverse with
  | [] => none
  | last :: before =>
    change false
      (fun inner =>
        match inner.get? last with
        | none => some (inner.put last (.tables [[]]))
        | some (.tables elements) => some (inner.put last (.tables (elements ++ [[]])))
        | some _ => none)
      before.reverse entries

end Entries

end Agenda.Toml
