/-! # Failed file operations

    Why an operation on files fails, with the wording and the number that the
    operating system gives to the cause. -/

namespace ChassisRegistry

/-- Why an operation on files fails. -/
inductive FileError where
  | missing
  | alreadyThere
  | notDirectory
  | isDirectory
  | nameTooLong
  /-- A name with a zero byte in it. -/
  | zeroInName
  /-- The content of a file is no text. -/
  | notText
  | other (text : String)
  deriving DecidableEq, Repr

namespace FileError

/-- The wording. -/
def message : FileError → String
  | missing      => "No such file or directory (os error 2)"
  | alreadyThere => "File exists (os error 17)"
  | notDirectory => "Not a directory (os error 20)"
  | isDirectory  => "Is a directory (os error 21)"
  | nameTooLong  => "File name too long (os error 36)"
  | zeroInName   => "file name contained an unexpected NUL byte"
  | notText      => "stream did not contain valid UTF-8"
  | other text   => text

end FileError

end ChassisRegistry
