import ParamRules.RuleSet.Evaluation

/-!
# Sanitizing requests

A host configures rules and asks for every request which parameters to go on with. A request may
bring rules of its own in the parameter `sanitize` and may switch sanitizing off with the parameter
`request_sanitizer`. The rules in force are those of the request followed by the configured ones,
so a configured rule takes the place of any rule of the request for the same parameter.

`Config.sanitize` never changes the request: it answers with the replacements and with the view in
which they lie over the request.
-/

namespace ParamRules

/-- How a host wants requests sanitized. -/
structure Config where
  enabled : Bool := true
  /-- The configured rules, one line each. -/
  rules : List String := []
deriving DecidableEq

/-- A request together with the replacements for it. -/
structure Sanitized where
  overlay : Overlay
  request : Source

namespace Sanitized

/-- The parameters to go on with: the replacements over the request. -/
def view (sanitized : Sanitized) : Source :=
  .layered (.overlay sanitized.overlay) sanitized.request

def isChanged (sanitized : Sanitized) : Bool :=
  !sanitized.overlay.isEmpty

end Sanitized

/-- Reads rules and puts the replacements that they give for a source over it. -/
def sanitizeWith (lines : List String) (source : Source) : Run Sanitized := do
  let rules ← RuleSet.read lines
  let overlay ← rules.evaluate source
  return { overlay, request := source }

namespace Config

/-- Whether a request is to be sanitized: the configuration can forbid it, and the request can
switch it off. -/
def isOnFor (config : Config) (request : Source) : Except Failure Bool :=
  if config.enabled then request.flag switchParam true else .ok false

/-- The rules in force for a request: its own and then the configured ones. -/
def rulesFor (config : Config) (request : Source) : List String :=
  (request.all? ruleParam).getD [] ++ config.rules

/-- The replacements for a request, or why it is refused. -/
def sanitize (config : Config) (request : Source) : Run Sanitized := do
  if ← Run.ofExcept (config.isOnFor request) then
    let rules ← RuleSet.read (config.rulesFor request)
    Run.log (.rulesRead rules.size)
    let overlay ← rules.evaluate request
    unless overlay.isEmpty do
      Run.log (.modified overlay)
    return { overlay, request }
  else
    Run.log .disabled
    return { overlay := ∅, request }

/-- Sets sanitizing up and sanitizes one request. -/
def serve (config : Config) (request : Source) : Run Sanitized := do
  Run.log (.started config.enabled config.rules.length)
  config.sanitize request

end Config

end ParamRules
