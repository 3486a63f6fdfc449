import Std.Time.Zoned
import Agenda.CommandLine.Run

/-! # The program

Gathers what a run needs, namely the current day, the environment, the standard input and the files
that the arguments name, and prints what the run leaves behind.
-/

namespace Agenda.Program

open CommandLine

/-- Why a file cannot be read. A path that leads below a file fails on opening, with its name; a
directory fails only on reading. -/
def readFailure : IO.Error → ReadFailure
  | .permissionDenied .. => .denied
  | .inappropriateType (some _) .. => .notDirectory
  | .inappropriateType none .. => .isDirectory
  | .invalidArgument .. => .nameTooLong
  | _ => .missing

def decode (bytes : ByteArray) : Except ReadFailure String :=
  (String.fromUTF8? bytes).elim (.error .notText) .ok

def readFile (path : String) : IO (Except ReadFailure String) := do
  try
    return decode (← IO.FS.readBinFile path)
  catch error =>
    return .error (readFailure error)

partial def readAll (stream : IO.FS.Stream) (before : ByteArray) : IO ByteArray := do
  let bytes ← stream.read 65536
  if bytes.isEmpty then return before
  readAll stream (before ++ bytes)

/-- A text from bytes. Bytes that belong to no character are replaced. -/
partial def decodeLossily (bytes : List UInt8) : List Char :=
  match bytes with
  | [] => []
  | _ :: rest =>
    let read? (width : Nat) : Option (Char × List UInt8) := do
      let text ← String.fromUTF8? ⟨(bytes.take width).toArray⟩
      return (← text.toList.head?, bytes.drop width)
    let (c, rest) := ([1, 2, 3, 4].findSome? read?).getD ('\ufffd', rest)
    c :: decodeLossily rest

/-- The variable that an entry of the environment stands for. A path to the settings is text as it
stands, or it is none. -/
def ofEntry? (entry : List UInt8) : Option (String × String) := do
  let equals := '='.toUInt8
  let name := entry.take 1 ++ (entry.drop 1).takeWhile (· != equals)
  let value ← ((entry.drop 1).dropWhile (· != equals)).tail?
  let name := String.ofList (decodeLossily name)
  if name == Settings.pathVariable && (String.fromUTF8? ⟨value.toArray⟩).isNone then none
  else some (name, String.ofList (decodeLossily value))

def readEnvironment : IO Environment := do
  let bytes ←
    try IO.FS.readBinFile "/proc/self/environ"
    catch _ => pure .empty
  let entries := bytes.toList.foldr
    (fun byte entries =>
      match byte, entries with
      | 0, entries => [] :: entries
      | byte, [] => [[byte]]
      | byte, entry :: rest => (byte :: entry) :: rest)
    []
  return entries.filterMap ofEntry?

def parentsOf (directory : String) : List String :=
  let parts := (Fields.split '/' directory.toList).filter (!·.isEmpty)
  (List.range parts.length).reverse.map fun depth =>
    "/" ++ "/".intercalate ((parts.take depth).map String.ofList)

def leadsToFile (path : String) : IO Bool := do
  try return (← ((← IO.currentDir) / path).metadata).type == .file
  catch _ => return false

def currentDay : IO Date := do
  let day ← Std.Time.PlainDate.now
  match Date.ofYmd? day.year.toInt day.month.val.toNat day.day.val.toNat with
  | some date => return date
  | none => throw (.userError "the current day lies outside the calendar")

def start (arguments : List String) : IO UInt32 := do
  let environment ← readEnvironment
  let parents := parentsOf (← IO.currentDir).toString
  let stdin ←
    match taskSource? arguments with
    | some .stdin => decode <$> readAll (← IO.getStdin) .empty
    | _ => pure (.ok "")
  let paths := paths environment parents arguments
  let files ← paths.mapM fun path => return (path, ← readFile path)
  let isFile ← paths.mapM fun path => return (path, ← leadsToFile path)
  let outcome := run
    { today := ← currentDay
      environment
      stdin
      parents
      read := fun path => (files.lookup path).getD (.error .missing)
      isFile := fun path => (isFile.lookup path).getD false }
    arguments
  (← IO.getStdout).putStr outcome.stdout
  (← IO.getStderr).putStr outcome.stderr
  return outcome.status.toUInt32

end Agenda.Program

def main (arguments : List String) : IO UInt32 :=
  Agenda.Program.start arguments
