import ParamRules.CommandLine.Arguments
import ParamRules.CommandLine.Report
import ParamRules.Config.Decode
import ParamRules.Files.Name

/-!
# The command line

`run` gives everything that a command does: what it prints and the status with which it ends. It
works on the arguments alone and on two given functions, of which one reads files and the other
understands configurations.

A command that fails prints nothing but its message, and the first thing at fault decides the
message: the arguments, the configuration file, its content, and last the request.
-/

namespace ParamRules.CommandLine

/-- What a program leaves behind. -/
structure Ending where
  status : UInt8 := 0
  /-- What was printed as the result. -/
  output : String := ""
  /-- What was printed as messages. -/
  messages : String := ""
deriving DecidableEq

def usage : String :=
  Text.lines [
    "Usage: reqsan <command> [options]",
    "",
    "Commands:",
    "  eval <config> [--json] [--param key=value...]",
    "                                            Print effective request parameters",
    "                                            (--json: replaced ones as JSON)",
    "  explain <config> [--param key=value...]   Show what each rule decided",
    "  check <config>                            Validate config and rules",
    "  help                                      Show this help",
    "",
    "Rules in a request are passed as --param sanitize=<param>=<body>."]

/-- The format of a configuration file: JSON if its extension says so, in any mixture of upper and
lower case, and YAML otherwise. -/
def Format.ofPath (path : String) : Format :=
  match (FileName.ofPath? path).bind fun name => FileName.extension? '.' name.toList with
  | some extension =>
      if Text.lowerAscii (String.ofList extension) = "json" then .json else .yaml
  | none => .yaml

/-- Understands a configuration, and says no more of any other text than that it is none. -/
def decodeConfig (format : Format) (text : String) : Except String Config :=
  let config? := match format with
    | .json => Config.readJson? text
    | .yaml => Config.readYaml? text
  match config? with
  | some config => .ok config
  | none => .error "not a configuration"

section

variable (read : String → Except ReadError String)
variable (decode : Format → String → Except String Config)

def configAt (path : String) : Except Error Config := do
  let text ← (read path).mapError (.unreadable path)
  let format := Format.ofPath path
  (decode format text).mapError (.undecodable format)

/-- What a command ends with if nothing is at fault. -/
def perform : Command → Except Error Ending
  | .help => return { messages := usage }
  | .evaluate path true params => do
      let config ← configAt read decode path
      return { output := Text.lines [← Report.replaced config params] }
  | .evaluate path false params => do
      let config ← configAt read decode path
      return { output := Text.lines (← Report.effective config params) }
  | .explain path params => do
      let config ← configAt read decode path
      return { output := Text.lines (← Report.explanation config params) }
  | .check path => do
      let count ← Report.ruleCount (← configAt read decode path)
      return { output := Text.lines ["Config valid (" ++ Text.Integer.writeNat count ++ " rules)"] }

/-- What a program ends with that fails. Where no command is named that it knows, it also shows how
to use it. -/
def fail (error : Error) : Ending :=
  let hint := match error with
    | .unknownCommand _ => usage
    | _ => ""
  { status := 1, messages := Text.lines ["error: " ++ error.message] ++ hint }

def run : List String → Ending
  | [] => { status := 1, messages := usage }
  | name :: arguments =>
      match Command.ofArguments name arguments >>= perform read decode with
      | .ok ending => ending
      | .error error => fail error

end

end ParamRules.CommandLine
