import ParamRules.RuleSet.Basic
import ParamRules.Rule.Decision
import ParamRules.Request.Source

/-!
# Evaluating a rule set

The rules are applied in order of parameter, each to the first value that the source has for its
own parameter, and the first failure ends the evaluation. `evaluate` gives the replacements alone.
`trace` also gives what every rule decided, one step for each rule.
-/

namespace ParamRules

structure Step where
  param : String
  /-- The value that the rule looked at, if the source has one. -/
  original : Option String
  decision : Decision
deriving DecidableEq

/-- What every rule of a set decided, in order of parameter. -/
structure Trace where
  overlay : Overlay
  steps : List Step
deriving DecidableEq

namespace Trace

def step? (trace : Trace) (param : String) : Option Step :=
  trace.steps.find? (·.param == param)

end Trace

namespace RuleSet

/-- Applies the rule for one parameter and adds its replacement, if it fired, to an overlay. -/
def applyRule (source : Source) (overlay : Overlay) (entry : String × Rule) : Run Overlay := do
  let decision ← entry.2.decision entry.1 (source.first? entry.1)
  return match decision.outcome.replacement? with
    | some value => overlay.insert entry.1 value
    | none => overlay

/-- The replacements that the rules give for a source. -/
def evaluate (rules : RuleSet) (source : Source) : Run Overlay :=
  rules.toList.foldlM (applyRule source) ∅

/-- Applies the rule for one parameter, adds its replacement, if it fired, to the overlay of a
trace, and notes what it decided. -/
def traceRule (source : Source) (trace : Trace) (entry : String × Rule) : Run Trace := do
  let original := source.first? entry.1
  let decision ← entry.2.decision entry.1 original
  let overlay := match decision.outcome.replacement? with
    | some value => trace.overlay.insert entry.1 value
    | none => trace.overlay
  return { overlay, steps := trace.steps ++ [{ param := entry.1, original, decision }] }

/-- The replacements that the rules give for a source, and how they came about. -/
def trace (rules : RuleSet) (source : Source) : Run Trace :=
  rules.toList.foldlM (traceRule source) { overlay := ∅, steps := [] }

end RuleSet

end ParamRules
