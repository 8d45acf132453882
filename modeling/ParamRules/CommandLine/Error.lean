import ParamRules.Failure
import ParamRules.Files.ReadError

/-!
# Why a command fails

Every way in which a command can fail, and the message that it fails with.
-/

namespace ParamRules.CommandLine

inductive Format where
  | json
  | yaml
deriving DecidableEq

def Format.name : Format → String
  | json => "JSON"
  | yaml => "YAML"

inductive Error where
  | unknownCommand (name : String)
  | missingPath (command : String)
  /-- A request parameter is not written as a name and a value. -/
  | invalidPair (argument : String)
  /-- An argument stands where none is expected. -/
  | unexpectedArgument (argument : String)
  | unreadable (path : String) (cause : ReadError)
  /-- A text is no configuration, in the words of the decoder. -/
  | undecodable (format : Format) (cause : String)
  | badRequest (failure : Failure)
  /-- The configured rules cannot be read. -/
  | invalidRules (failure : Failure)
  /-- The bound of a configured threshold is not an integer. -/
  | invalidBound (param bound : String)
deriving DecidableEq

def Error.message : Error → String
  | unknownCommand name => "unknown command \"" ++ name ++ "\""
  | missingPath command => command ++ " requires a config file path"
  | invalidPair argument => "invalid param pair \"" ++ argument ++ "\", expected key=value"
  | unexpectedArgument argument => "unexpected argument \"" ++ argument ++ "\""
  | unreadable path cause => "failed to read \"" ++ path ++ "\": " ++ cause.message
  | undecodable format cause => format.name ++ " parse error: " ++ cause
  | badRequest failure => "bad request: " ++ failure.message
  | invalidRules failure => "config invalid: " ++ failure.message
  | invalidBound param bound =>
      "config invalid: threshold \"" ++ bound ++ "\" for param " ++ param ++ " is not an integer"

end ParamRules.CommandLine
