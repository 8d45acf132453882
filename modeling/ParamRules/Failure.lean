/-!
# Why a request is refused

Each way in which rules or switches can be at fault is a cause of its own, and `Failure.message` is
the one place that words it. A host answers every one of them as a mistake of the client: a
malformed rule is never applied in part.
-/

namespace ParamRules

/-- The name of the parameter that carries rules in a request. -/
def ruleParam : String :=
  "sanitize"

/-- The name of the parameter that switches the rules on or off for a request. -/
def switchParam : String :=
  "request_sanitizer"

/-- Why a request is refused. -/
inductive Failure where
  /-- A rule has no `=` after the name of its parameter. -/
  | missingSeparator (line : String)
  /-- A piece of a rule is not a key and a replacement. -/
  | malformedEntry (param token : String)
  /-- A value met a threshold whose bound is not an integer; the entry is given as it is written. -/
  | invalidThreshold (param entry : String)
  /-- A switch is neither on nor off. -/
  | invalidFlag (param value : String)
deriving DecidableEq

namespace Failure

/-- Whether a rule is at fault, and not a switch. -/
def concernsRule : Failure → Bool
  | invalidFlag _ _ => false
  | _ => true

def message : Failure → String
  | missingSeparator line =>
      "rule \"" ++ line ++ "\" has no parameter name; parameter " ++ ruleParam
        ++ " must be on the format sanitize=param=<value>"
  | malformedEntry param token =>
      "invalid condition \"" ++ token ++ "\" in rule for param " ++ param ++ "; parameter "
        ++ ruleParam
        ++ " must be on the format sanitize=param=from:to from:to default:val >num:num2"
  | invalidThreshold param entry =>
      "wrong format of replace rule for param " ++ param ++ ":" ++ entry
        ++ " (threshold must be an integer)"
  | invalidFlag param value => "invalid boolean value \"" ++ value ++ "\" for param " ++ param

end Failure

end ParamRules
