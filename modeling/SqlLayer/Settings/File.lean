import SqlLayer.Settings

/-!
# Settings from files

Reading a file is the caller's business. What is known here is how a failure to read one is
reported.
-/

namespace SqlLayer

/-- Why a file cannot be read as text. -/
inductive FileFault where
  | missing
  /-- The path goes on behind a file. -/
  | notDirectory
  | isDirectory
  | nameTooLong
  /-- The name holds a NUL. -/
  | invalidName
  | notText
  deriving DecidableEq

/-- The wording of a failure. -/
def FileFault.message : FileFault → String
  | .missing => "No such file or directory (os error 2)"
  | .notDirectory => "Not a directory (os error 20)"
  | .isDirectory => "Is a directory (os error 21)"
  | .nameTooLong => "File name too long (os error 36)"
  | .invalidName => "file name contained an unexpected NUL byte"
  | .notText => "stream did not contain valid UTF-8"

/-- The error of a file that cannot be read. -/
def SqlError.unreadable (path : String) (fault : FileFault) : SqlError :=
  .config ("Cannot read " ++ path ++ ": " ++ fault.message)

end SqlLayer
