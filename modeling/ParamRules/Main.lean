import ParamRules.CommandLine.Basic

/-!
# The program

The command line on the real file system. The one file that a command needs is read before the
command is run.
-/

namespace ParamRules.CommandLine

/-- The cause of an error of the file system, whose code may come negated. -/
def readErrorOf : IO.Error → ReadError
  | .noFileOrDirectory _ _ _ => .notFound
  | .inappropriateType _ code _ => if code = 21 then .isADirectory else .notADirectory
  | error@(.invalidArgument _ code _) =>
      if code = 36 ∨ code = -36 then .nameTooLong else .other (toString error)
  | error => .other (toString error)

def readFile (path : String) : IO (Except ReadError String) := do
  try
    let content ← IO.FS.readBinFile path
    match String.fromUTF8? content with
    | some text => return .ok text
    | none => return .error .notUtf8
  catch error => return .error (readErrorOf error)

end ParamRules.CommandLine

open ParamRules.CommandLine in
def main (arguments : List String) : IO UInt32 := do
  let content ← match configPath? arguments with
    | some path => readFile path
    | none => pure (.error .notFound)
  let ending := run (fun _ => content) decodeConfig arguments
  IO.print ending.output
  IO.eprint ending.messages
  return ending.status.toUInt32
