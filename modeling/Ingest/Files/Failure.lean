/-!
# Why an operation on files fails
-/

namespace Ingest.Files

/-- The causes for which a file cannot be read, written or run. -/
inductive Failure where
  | missing
  | argumentTooLong
  | badFormat
  | notPermitted
  | exists
  | notFolder
  | isFolder
  | nameTooLong
  | tooManyLinks
  | notUtf8
  /-- The path holds a zero character. -/
  | zeroInPath
  /-- The program or an argument holds a zero character. -/
  | zeroInCommand
  /-- Any other cause, in words. -/
  | described (text : String)
  deriving DecidableEq, Repr

def Failure.message : Failure → String
  | .missing => "No such file or directory (os error 2)"
  | .argumentTooLong => "Argument list too long (os error 7)"
  | .badFormat => "Exec format error (os error 8)"
  | .notPermitted => "Permission denied (os error 13)"
  | .exists => "File exists (os error 17)"
  | .notFolder => "Not a directory (os error 20)"
  | .isFolder => "Is a directory (os error 21)"
  | .nameTooLong => "File name too long (os error 36)"
  | .tooManyLinks => "Too many levels of symbolic links (os error 40)"
  | .notUtf8 => "stream did not contain valid UTF-8"
  | .zeroInPath => "file name contained an unexpected NUL byte"
  | .zeroInCommand => "nul byte found in provided data"
  | .described text => text

end Ingest.Files
