import ParamRules.Rule.Basic
import ParamRules.Run

/-!
# What one rule decides

`Rule.decision` looks at the first value that a request has for the rule's parameter, or at its
absence. An invariant entry decides before everything else. An absent parameter takes the default,
if the rule has one. For a present value the other entries are tried in order and the first one
that holds decides; a threshold is passed over when the value is not an integer, and the rule fails
when a threshold is reached whose bound is not an integer.
-/

namespace ParamRules

inductive Outcome where
  /-- The invariant entry applied. -/
  | invariant (replacement : String)
  /-- The parameter was absent and the default entry applied. -/
  | default (replacement : String)
  /-- The entry at this position held of the value. -/
  | matched (index : Nat) (entry : Entry)
  /-- The parameter was present and no entry held of its value. -/
  | noMatch
  /-- The parameter was absent and there is no default. -/
  | absent
deriving DecidableEq

namespace Outcome

/-- The value that the parameter takes, if the rule fired. -/
def replacement? : Outcome → Option String
  | invariant replacement | default replacement => some replacement
  | matched _ entry => some entry.replacement
  | noMatch | absent => none

def fired (outcome : Outcome) : Bool :=
  outcome.replacement?.isSome

def text : Outcome → String
  | invariant replacement => "invariant -> " ++ replacement
  | default replacement => "default -> " ++ replacement
  | matched index entry =>
      "matched [" ++ Text.Integer.writeNat index ++ "] " ++ entry.key ++ " -> "
        ++ entry.replacement
  | noMatch => "no match"
  | absent => "absent"

end Outcome

/-- An outcome, with the positions of the thresholds passed over on the way to it. -/
structure Decision where
  outcome : Outcome
  /-- Where thresholds stand that were passed over because the value is not an integer. -/
  skipped : List Nat := []
deriving DecidableEq

namespace Rule

/-- Tries entries in order on a present value; `index` is the position of the first of them. -/
def firstMatch (param original : String) (index : Nat) : List Entry → Run Decision
  | [] => pure { outcome := .noMatch }
  | entry :: later =>
      match entry.condition.judge original with
      | .holds => do
          Run.log (.ruleHit param original entry)
          return { outcome := .matched index entry }
      | .fails => firstMatch param original (index + 1) later
      | .notNumeric => do
          Run.log (.valueNotNumeric param original entry)
          let decision ← firstMatch param original (index + 1) later
          return { decision with skipped := index :: decision.skipped }
      | .badBound => do
          Run.log (.boundNotNumeric param entry)
          Run.fail (.invalidThreshold param entry.text)

/-- What a rule decides about its parameter, given the first value of it in the request. -/
def decision (rule : Rule) (param : String) (original : Option String) : Run Decision :=
  match rule.replacement? .invariant, original with
  | some value, _ => do
      Run.log (.invariantApplied param value)
      return { outcome := .invariant value }
  | none, some value => firstMatch param value 0 rule.entries
  | none, none =>
      match rule.replacement? .default with
      | some value => do
          Run.log (.defaultApplied param value)
          return { outcome := .default value }
      | none => pure { outcome := .absent }

end Rule

end ParamRules
