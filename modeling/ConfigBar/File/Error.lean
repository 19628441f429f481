/-!
# Errors of files

Why a file cannot be read or written, with the texts in which an operating system says so.
-/

namespace ConfigBar

/-- Why a file cannot be read or written. -/
inductive FileError where
  | notFound
  | isDirectory
  | notDirectory
  /-- A part of the path, or the path as a whole, is longer than the system takes. -/
  | nameTooLong
  /-- The path holds a character that ends it for the system. -/
  | zeroInName
  /-- The bytes of the file are no text. -/
  | invalidText
  /-- Any other error, by its text. -/
  | other (text : String)
  deriving DecidableEq, Repr

/-- The text of an error. -/
def FileError.message : FileError → String
  | notFound => "No such file or directory (os error 2)"
  | isDirectory => "Is a directory (os error 21)"
  | notDirectory => "Not a directory (os error 20)"
  | nameTooLong => "File name too long (os error 36)"
  | zeroInName => "file name contained an unexpected NUL byte"
  | invalidText => "stream did not contain valid UTF-8"
  | other text => text

end ConfigBar
