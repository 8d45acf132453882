import ParamRules.CommandLine.Error
import ParamRules.Request.Params
import ParamRules.Text

/-!
# Command-line arguments

A command is followed by the path of a configuration file and, where it works on a request, by the
parameters of the request: the word `--param` and after it any number of pairs `name=value`, and so
on. A repeated name gives a parameter several values. Only `eval` knows the option `--json`, and
only right after the path.
-/

namespace ParamRules.CommandLine

/-- Reads request parameters and adds them to others. `expectsPairs` says whether a pair may stand
here, which is so after the first `--param`. -/
def readParams (params : Params) (expectsPairs : Bool) : List String → Except Error Params
  | [] => .ok params
  | argument :: rest =>
      if argument = "--param" then readParams params true rest
      else if expectsPairs && !Text.startsWith "--" argument then
        match Text.cut? '=' argument with
        | some (name, value) => readParams (params.add name value) true rest
        | none => .error (.invalidPair argument)
      else .error (.unexpectedArgument argument)

def paramsOf (arguments : List String) : Except Error Params :=
  readParams ∅ false arguments

inductive Command where
  | help
  /-- Show the parameters to go on with, or only the replaced ones as JSON. -/
  | evaluate (path : String) (asJson : Bool) (params : Params)
  /-- Show what each rule decided. -/
  | explain (path : String) (params : Params)
  | check (path : String)

namespace Command

def ofArguments (name : String) (arguments : List String) : Except Error Command :=
  match name, arguments with
  | "help", _ | "--help", _ | "-h", _ => .ok .help
  | "eval", path :: "--json" :: rest => (paramsOf rest).map (.evaluate path true)
  | "eval", path :: rest => (paramsOf rest).map (.evaluate path false)
  | "explain", path :: rest => (paramsOf rest).map (.explain path)
  | "check", path :: _ => .ok (.check path)
  | "eval", [] | "explain", [] | "check", [] => .error (.missingPath name)
  | _, _ => .error (.unknownCommand name)

/-- The path of the configuration file that a command needs. -/
def configPath? : Command → Option String
  | help => none
  | evaluate path _ _ | explain path _ | check path => some path

end Command

/-- The path of the configuration file that is read for some arguments, if one is. -/
def configPath? : List String → Option String
  | [] => none
  | name :: arguments => (Command.ofArguments name arguments).toOption.bind Command.configPath?

end ParamRules.CommandLine
