import Phrasebook.Text.Split

/-!
# Reading files

The program sees files through two questions: what is the text of the file at a
path, and is there anything at a path. A file that can not be read gives one of a
few reasons.
-/

namespace Phrasebook

/-- Why a file can not be read or opened. -/
inductive FileFailure where
  /-- Nothing is at the path. -/
  | notFound
  /-- A directory is at the path. -/
  | isDirectory
  /-- The path goes through a file as if it were a directory. -/
  | notDirectory
  /-- The bytes of the file are not UTF-8. -/
  | notText
  /-- A name of the path or the path itself is too long. -/
  | nameTooLong
  /-- The path holds the null character. -/
  | nullInName
  /-- Reading or opening is not allowed. -/
  | denied
  /-- Any other reason. -/
  | other (description : String)
deriving DecidableEq, Repr

/-- The wording of the report. -/
def FileFailure.message : FileFailure → String
  | .notFound => "No such file or directory (os error 2)"
  | .isDirectory => "Is a directory (os error 21)"
  | .notDirectory => "Not a directory (os error 20)"
  | .notText => "stream did not contain valid UTF-8"
  | .nameTooLong => "File name too long (os error 36)"
  | .nullInName => "file name contained an unexpected NUL byte"
  | .denied => "Permission denied (os error 13)"
  | .other description => description

/-- What can be asked about files. -/
structure FileAccess where
  /-- The text of the file at a path. -/
  read : String → Except FileFailure String
  /-- Whether there is a file or a directory at a path. -/
  isPresent : String → Bool

/-- Whether a failed reading shows that nothing is at the path. -/
def FileFailure.meansAbsent : FileFailure → Bool
  | .notFound | .notDirectory | .nameTooLong | .nullInName => true
  | _ => false

/-- Answers from readings that have been made beforehand. What has not been read is
not there. -/
def FileAccess.ofReadings (readings : List (String × Except FileFailure String)) : FileAccess where
  read path := (readings.lookup path).getD (.error .notFound)
  isPresent path :=
    match readings.lookup path with
    | some (.ok _) => true
    | some (.error reason) => !reason.meansAbsent
    | none => false

/-- The path of a name below a directory. A name that starts with a slash is a
path of its own, and an empty directory adds nothing. -/
def joinPath (directory name : String) : String :=
  if name.toList.head? == some '/' || directory.isEmpty then name
  else if directory.toList.getLast? == some '/' then directory ++ name
  else directory ++ "/" ++ name

end Phrasebook
