import ParamRules.CommandLine.Error
import ParamRules.Json.Writer
import ParamRules.Config.Basic

/-!
# What commands print

Each report on a request is made from the request and the configuration and either comes out whole
or not at all, with the reason why the request is refused.
-/

namespace ParamRules

def Overlay.toJson (overlay : Overlay) : Json.Value :=
  .object (overlay.toList.map fun pair => (pair.1, .string pair.2))

/-- What a rule decided, as an explanation shows it. -/
def Step.text (step : Step) : String :=
  let skipped := step.decision.skipped
  let note :=
    if skipped.isEmpty then ""
    else " (skipped non-numeric at ["
      ++ ", ".intercalate (skipped.map Text.Integer.writeNat) ++ "])"
  step.param ++ " [" ++ step.original.getD "(absent)" ++ "]: " ++ step.decision.outcome.text
    ++ note

namespace CommandLine.Report

/-- A result that is the reason to refuse a request if it is a failure. -/
def ofRequest {α : Type} (result : Except Failure α) : Except Error α :=
  result.mapError .badRequest

/-- One line for each value of each parameter to go on with, in order of name. -/
def effective (config : Config) (params : Params) : Except Error (List String) := do
  let sanitized ← ofRequest (config.sanitize (.request params)).result
  let view := sanitized.view
  let names := view.names.mergeSort fun left right => decide (left ≤ right)
  return names.flatMap fun name =>
    ((view.all? name).getD []).map fun value => name ++ "=" ++ value

def replaced (config : Config) (params : Params) : Except Error String := do
  let sanitized ← ofRequest (config.sanitize (.request params)).result
  return sanitized.overlay.toJson.write

/-- One line for each rule in force. -/
def explanation (config : Config) (params : Params) : Except Error (List String) := do
  let request := Source.request params
  if ← ofRequest (config.isOnFor request) then
    let rules ← ofRequest (RuleSet.read (config.rulesFor request)).result
    let trace ← ofRequest (rules.trace request).result
    return if trace.steps.isEmpty then ["(no rules)"] else trace.steps.map Step.text
  else return ["(sanitizer disabled)"]

/-- The number of parameters with a configured rule, if no configured rule that counts has a bound
that is not an integer. -/
def ruleCount (config : Config) : Except Error Nat := do
  let rules ← (RuleSet.read config.rules).result.mapError .invalidRules
  let bad := rules.toList.findSome? fun entry =>
    (entry.2.entries.findSome? (·.condition.badBound?)).map fun bound => (entry.1, bound)
  match bad with
  | some (param, bound) => .error (.invalidBound param bound)
  | none => return rules.size

end CommandLine.Report

end ParamRules
