/-!
# File — reading texts from files
-/

namespace Rowscript

/-- Why a file cannot be read as a text. -/
inductive ReadFault where
  | notFound
  | denied
  | isDirectory
  /-- Something on the way to the file is no directory. -/
  | notDirectory
  /-- Its bytes are no text. -/
  | notText
  deriving DecidableEq, Repr

/-- What the user reads. -/
def ReadFault.message : ReadFault → String
  | notFound => "No such file or directory (os error 2)"
  | denied => "Permission denied (os error 13)"
  | isDirectory => "Is a directory (os error 21)"
  | notDirectory => "Not a directory (os error 20)"
  | notText => "stream did not contain valid UTF-8"

/-- What the files hold, by their paths. -/
abbrev Files := String → Except ReadFault String

end Rowscript
