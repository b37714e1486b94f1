set_option autoImplicit false

/-! # Input and output errors

The causes for which a file or a stream cannot be read or written, with the wording that the
operating system gives them. -/

namespace VisitorGen

/-- Why an input or output operation fails. -/
inductive IoError where
  | notFound
  | alreadyExists
  | notADirectory
  | isADirectory
  | nameTooLong
  /-- A path that holds a NUL character. -/
  | nulInPath
  /-- A file whose bytes are not UTF-8. -/
  | notUtf8
  /-- A stream that takes no more bytes. -/
  | full
  deriving DecidableEq, Repr

/-- The wording of an error. -/
def IoError.message : IoError → String
  | .notFound => "No such file or directory (os error 2)"
  | .alreadyExists => "File exists (os error 17)"
  | .notADirectory => "Not a directory (os error 20)"
  | .isADirectory => "Is a directory (os error 21)"
  | .nameTooLong => "File name too long (os error 36)"
  | .nulInPath => "file name contained an unexpected NUL byte"
  | .notUtf8 => "stream did not contain valid UTF-8"
  | .full => "disk full"

end VisitorGen
