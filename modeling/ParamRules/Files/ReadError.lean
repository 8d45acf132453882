/-!
# Why a file cannot be read

The causes for which files and directories cannot be read, and how the system words them.
-/

namespace ParamRules

/-- Why a file or a directory cannot be read. -/
inductive ReadError where
  | notFound
  | notADirectory
  | isADirectory
  /-- A name has more than 255 bytes, or a path more than 4095. -/
  | nameTooLong
  /-- A path holds the character that ends paths. -/
  | invalidName
  | notUtf8
  /-- Anything else, in the words of the system. -/
  | other (message : String)
deriving DecidableEq

def ReadError.message : ReadError → String
  | notFound => "No such file or directory (os error 2)"
  | notADirectory => "Not a directory (os error 20)"
  | isADirectory => "Is a directory (os error 21)"
  | nameTooLong => "File name too long (os error 36)"
  | invalidName => "file name contained an unexpected NUL byte"
  | notUtf8 => "stream did not contain valid UTF-8"
  | other message => message

end ParamRules
