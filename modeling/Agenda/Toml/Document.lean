import Agenda.Toml.Quoted

/-! # TOML documents

A document is a list of lines: keys with their values, and headings that name the table to which
the following keys belong. Reading first finds the lines and then puts their tables together.
-/

namespace Agenda.Toml

/-- One line of a document. -/
inductive Line
  | pair (key : List String) (value : Value)
  /-- The heading of a table. -/
  | table (path : List String)
  /-- The heading of one more table of an array. -/
  | element (path : List String)

/-- The number of arrays and tables that may stand inside one another, and of the parts of a dotted
key. -/
def depthLimit : Nat := 79

def isKeyChar (c : Char) : Bool :=
  c.isAlphanum || c == '_' || c == '-'

/-- One part of a dotted key, and what follows it. -/
def readKeyPart (s : List Char) : Option (String × List Char) :=
  match s with
  | '"' :: rest => (readBasic rest).map fun (cs, rest) => (String.ofList cs, rest)
  | '\'' :: rest => (readLiteral rest).map fun (cs, rest) => (String.ofList cs, rest)
  | s =>
    match s.takeWhile isKeyChar with
    | [] => none
    | part => some (String.ofList part, s.dropWhile isKeyChar)

/-- A key of at most `limit` parts with points between them, and what follows it and the spaces
behind it. -/
def readKey : (limit : Nat) → List Char → Option (List String × List Char)
  | 0, _ => none
  | limit + 1, s => do
    let (part, rest) ← readKeyPart (skipSpaces s)
    match skipSpaces rest with
    | '.' :: rest =>
      let (parts, rest) ← readKey limit rest
      return (part :: parts, rest)
    | rest => return ([part], rest)

def skipComment : List Char → List Char
  | '#' :: rest => rest.dropWhile isPlain
  | s => s

/-- What follows the end of a line, before which only spaces and a comment may stand. -/
def readLineEnd (s : List Char) : Option (List Char) :=
  match skipComment (skipSpaces s) with
  | [] => some []
  | rest => afterBreak? rest

/-- A text without the spaces, comments and line breaks that it starts with; at most `limit` lines
are looked at. -/
def skipGap : (limit : Nat) → List Char → List Char
  | 0, s => s
  | limit + 1, s =>
    let rest := skipComment (skipSpaces s)
    match afterBreak? rest with
    | some rest => skipGap limit rest
    | none => rest

def isScalarChar (c : Char) : Bool :=
  c.isAlphanum || c == '+' || c == '-' || c == '_' || c == '.' || c == ':'

/-- A value without quotes, and what follows it. A date may be followed by a time after a space. -/
def readScalar (s : List Char) : Option (Value × List Char) :=
  let token := s.takeWhile isScalarChar
  let rest := s.dropWhile isScalarChar
  match afterDate? token, rest with
  | some [], ' ' :: later =>
    let time := later.takeWhile isScalarChar
    if isTimeWithOffset time then some (.moment, later.dropWhile isScalarChar)
    else some (.moment, rest)
  | _, _ => (scalar? token).map (·, rest)

mutual

/-- A value, and what follows it. `steps` bounds the values and marks that are looked at, and
`depth` the containers inside one another. -/
def readValue : (steps depth : Nat) → List Char → Option (Value × List Char)
  | 0, _, _ => none
  | steps + 1, depth, s =>
    match s with
    | '[' :: rest =>
      if depth = 0 then none
      else (readItems steps (depth - 1) rest).map fun rest => (.array, rest)
    | '\x7b' :: rest =>
      if depth = 0 then none
      else
        match skipSpaces rest with
        | '\x7d' :: rest => some (.table .inline [], rest)
        | rest =>
          (readMembers steps (depth - 1) [] rest).map fun (entries, rest) =>
            (.table .inline entries, rest)
    | '"' :: _ | '\'' :: _ =>
      (readQuoted s).map fun (cs, rest) => (.string (String.ofList cs), rest)
    | s => readScalar s

/-- What follows an array whose items are still to come. -/
def readItems : (steps depth : Nat) → List Char → Option (List Char)
  | 0, _, _ => none
  | steps + 1, depth, s =>
    match skipGap s.length s with
    | ']' :: rest => some rest
    | start => do
      let (_, rest) ← readValue steps depth start
      match skipGap rest.length rest with
      | ']' :: rest => return rest
      | ',' :: rest => readItems steps depth rest
      | _ => none

/-- The entries of a table between braces, after those that came before, and what follows it. -/
def readMembers : (steps depth : Nat) → Entries → List Char → Option (Entries × List Char)
  | 0, _, _, _ => none
  | steps + 1, depth, entries, s => do
    let (key, rest) ← readKey depthLimit s
    match rest with
    | '=' :: rest =>
      let (value, rest) ← readValue steps depth (skipSpaces rest)
      let entries ← entries.addPair key value
      match skipSpaces rest with
      | '\x7d' :: rest => return (entries, rest)
      | ',' :: rest => readMembers steps depth entries rest
      | _ => none
    | _ => none

end

/-- A line that holds more than a comment, and what follows it. -/
def readLine (s : List Char) : Option (Line × List Char) :=
  match s with
  | '[' :: '[' :: rest => do
    let (path, rest) ← readKey depthLimit rest
    match rest with
    | ']' :: ']' :: rest => return (.element path, ← readLineEnd rest)
    | _ => none
  | '[' :: rest => do
    let (path, rest) ← readKey depthLimit rest
    match rest with
    | ']' :: rest => return (.table path, ← readLineEnd rest)
    | _ => none
  | s => do
    let (key, rest) ← readKey depthLimit s
    match rest with
    | '=' :: rest =>
      let (value, rest) ← readValue (2 * rest.length + 2) depthLimit (skipSpaces rest)
      return (.pair key value, ← readLineEnd rest)
    | _ => none

/-- The lines of a text, of which there are at most `limit`. -/
def readLines : (limit : Nat) → List Char → Option (List Line)
  | 0, s => if (skipGap s.length s).isEmpty then some [] else none
  | limit + 1, s =>
    match skipGap s.length s with
    | [] => some []
    | start => do
      let (line, rest) ← readLine start
      return line :: (← readLines limit rest)

/-- The tables that lines put together. Keys belong to the table that `path` leads to. -/
def build (path : List String) (entries : Entries) : List Line → Option Entries
  | [] => some entries
  | .pair key value :: rest => do
    let entries ← entries.change false (fun inner => inner.addPair key value) path
    build path entries rest
  | .table path :: rest => do
    build path (← entries.addTable path) rest
  | .element path :: rest => do
    build path (← entries.addElement path) rest

/-- A text without a byte order mark. -/
def skipMark : List Char → List Char
  | '\ufeff' :: rest => rest
  | s => s

def read (text : String) : Option Entries := do
  let s := skipMark text.toList
  build [] [] (← readLines s.length s)

end Agenda.Toml
