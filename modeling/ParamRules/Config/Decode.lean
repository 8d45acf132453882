import ParamRules.Json.Reader
import ParamRules.Config.Basic
import ParamRules.Yaml.Schema

/-!
# Configurations as text

A configuration is written in JSON or in YAML as a collection of two members, `enabled` and `rules`.
Each may be left out and then has its default. A member of any other name is refused, and so is a
member that occurs twice or is not of its type, so that a mistyped configuration never takes effect
in part. In JSON a configuration may also be an array of the two members in order, the last ones
left out.
-/

namespace ParamRules.Config

variable {α : Type}

/-- The configuration that a list of members gives, where `bool?` and `texts?` read a value. -/
def ofMembers? (bool? : α → Option Bool) (texts? : α → Option (List String))
    (members : List (String × α)) : Option Config := do
  let names := members.map Prod.fst
  guard (names.all ["enabled", "rules"].contains)
  guard names.Nodup
  let enabled ← match members.lookup "enabled" with
    | some value => bool? value
    | none => some true
  let rules ← match members.lookup "rules" with
    | some value => texts? value
    | none => some []
  return { enabled, rules }

def ofJson? : Json.Value → Option Config
  | .object members => ofMembers? Json.Value.bool? Json.Value.strings? members
  | .array [] => some {}
  | .array [enabled] => do
      return { enabled := ← enabled.bool? }
  | .array [enabled, rules] => do
      return { enabled := ← enabled.bool?, rules := ← rules.strings? }
  | _ => none

def ofYaml? (document : Yaml.Node) : Option Config := do
  ofMembers? Yaml.Node.bool? Yaml.Node.texts? (← document.members?)

def readJson? (text : String) : Option Config := do
  ofJson? (← Json.read? text)

/-- The configuration that a YAML text of one document is. -/
def readYaml? (text : String) : Option Config := do
  ofYaml? (← Yaml.Node.document text)

end ParamRules.Config
