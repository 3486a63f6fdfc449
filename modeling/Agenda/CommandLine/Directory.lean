import Agenda.Text.Fields

/-! # The working directory

Files that the program may read, by their paths. Reading can fail for the reasons that a file system
has. A `Directory` is a working directory without further directories, held in memory.
-/

namespace Agenda.CommandLine

/-- Why a file cannot be read. -/
inductive ReadFailure
  | missing
  | denied
  | notDirectory
  | isDirectory
  | nameTooLong
  | notText
  deriving Repr, DecidableEq

namespace ReadFailure

def message : ReadFailure → String
  | missing => "No such file or directory (os error 2)"
  | denied => "Permission denied (os error 13)"
  | notDirectory => "Not a directory (os error 20)"
  | isDirectory => "Is a directory (os error 21)"
  | nameTooLong => "File name too long (os error 36)"
  | notText => "stream did not contain valid UTF-8"

end ReadFailure

abbrev Directory := List (String × String)

namespace Directory

def nameLimit : Nat := 255

/-- The number of bytes that a path has to stay below. -/
def pathLimit : Nat := 4096

/-- Follow the parts of a path. Empty parts and single points stay in the directory, and nothing
lies below a file. -/
def follow (files : Directory) : List (List Char) → Except ReadFailure String
  | [] => .error .isDirectory
  | [] :: rest => follow files rest
  | ['.'] :: rest => follow files rest
  | part :: rest =>
    let name := String.ofList part
    if nameLimit < name.utf8ByteSize then .error .nameTooLong
    else
      match files.lookup name with
      | some content => if rest.isEmpty then .ok content else .error .notDirectory
      | none =>
        if name == ".." && rest.all (·.isEmpty) then .error .isDirectory else .error .missing

/-- The content of the file that a path leads to. A path from the root leads out of the directory,
where there is nothing. -/
def read (files : Directory) (path : String) : Except ReadFailure String :=
  if path.isEmpty then .error .missing
  else if pathLimit ≤ path.utf8ByteSize then .error .nameTooLong
  else
    let parts := Fields.split '/' path.toList
    if path.toList.head? == some '/' then follow [] parts else follow files parts

end Directory

end Agenda.CommandLine
