import ParamRules.Rule.Basic
import ParamRules.Run
import ParamRules.Text

/-!
# The rule language

A rule is one line, the name of a parameter and a body with `=` between them:

* a body without `:` is the value that the parameter always takes, spaces and all;
* any other body is a list of tokens with one space between them, each a key and a non-empty
  replacement with `:` between them. Spaces at the end of the body are ignored.

Nothing can be escaped, so a replacement in a list of tokens holds neither a space nor a colon. The
name ends at the first `=`; later ones belong to the body.
-/

namespace ParamRules

namespace Entry

/-- The entry that a token stands for: exactly two parts at a colon, the second not empty. -/
def ofToken? (token : String) : Option Entry :=
  match Text.split ':' token with
  | [key, replacement] => if replacement = "" then none else some (ofKey key replacement)
  | _ => none

end Entry

namespace Rule

def readToken (param token : String) : Run Entry :=
  match Entry.ofToken? token with
  | some entry => pure entry
  | none => do
      Run.log (.tokenMalformed param token)
      Run.fail (.malformedEntry param token)

def readBody (param body : String) : Run Rule :=
  if ':' ∈ body.toList then do
    let entries ← (Text.split ' ' (Text.dropTrailing ' ' body)).mapM (readToken param)
    return ofEntries entries
  else pure (invariant body)

/-- Reads a line: the parameter that it is about and the rule for it. -/
def readLine (line : String) : Run (String × Rule) :=
  match Text.cut? '=' line with
  | some (param, body) => do
      let rule ← readBody param body
      return (param, rule)
  | none => do
      Run.log (.separatorMissing line)
      Run.fail (.missingSeparator line)

end Rule

end ParamRules
