import ParamRules.Request.Overlay
import ParamRules.Rule.Condition

/-!
# Log events

Whatever is decided about a request is also logged. An event is kept as what happened;
`Event.level`, `Event.message` and `Event.fields` say how the log shows it.
-/

namespace ParamRules

inductive Level where
  | debug
  | info
  | warn
deriving DecidableEq

inductive Field where
  | text (value : String)
  | count (value : Nat)
  | flag (value : Bool)
deriving DecidableEq

/-- What can happen while a request is sanitized. -/
inductive Event where
  /-- Sanitizing was set up with this many configured rules. -/
  | started (enabled : Bool) (rules : Nat)
  /-- The request is passed on as it is. -/
  | disabled
  /-- A rule names no parameter. -/
  | separatorMissing (line : String)
  /-- A piece of a rule is not a key and a replacement. -/
  | tokenMalformed (param token : String)
  /-- All rules were read; so many parameters have one. -/
  | rulesRead (rules : Nat)
  | invariantApplied (param value : String)
  /-- The parameter was absent and a default entry applied. -/
  | defaultApplied (param value : String)
  /-- A value met a threshold whose bound is not an integer. -/
  | boundNotNumeric (param : String) (entry : Entry)
  /-- A threshold was passed over because the value is not an integer. -/
  | valueNotNumeric (param original : String) (entry : Entry)
  | ruleHit (param original : String) (entry : Entry)
  | modified (overlay : Overlay)
deriving DecidableEq

namespace Event

def level : Event → Level
  | started _ _ | modified _ => .info
  | separatorMissing _ | tokenMalformed _ _ | boundNotNumeric _ _ => .warn
  | _ => .debug

def message : Event → String
  | started _ _ => "initialized request sanitizer"
  | disabled => "request sanitizer disabled for this request"
  | separatorMissing _ => "rule has no parameter separator"
  | tokenMalformed _ _ => "malformed rule token"
  | rulesRead _ => "parsed sanitize rules"
  | invariantApplied _ _ => "applying invariant"
  | defaultApplied _ _ => "parameter absent, applying default"
  | boundNotNumeric _ _ => "non-numeric threshold"
  | valueNotNumeric _ _ _ => "value is not a number, skipping threshold"
  | ruleHit _ _ _ => "rule hit"
  | modified _ => "request parameters modified by sanitizer"

def fields : Event → List (String × Field)
  | started enabled rules => [("enabled", .flag enabled), ("configured_rules", .count rules)]
  | disabled => []
  | separatorMissing line => [("rule", .text line)]
  | tokenMalformed param token => [("param", .text param), ("token", .text token)]
  | rulesRead rules => [("rules", .count rules)]
  | invariantApplied param value => [("param", .text param), ("value", .text value)]
  | defaultApplied param value => [("param", .text param), ("value", .text value)]
  | boundNotNumeric param entry => [("param", .text param), ("condition", .text entry.text)]
  | valueNotNumeric param original entry =>
      [("param", .text param), ("original", .text original), ("condition", .text entry.text)]
  | ruleHit param original entry =>
      [("param", .text param), ("original", .text original), ("condition", .text entry.text)]
  | modified overlay => [("modified", .text overlay.text)]

end Event

end ParamRules
