import ParamRules.Fixture.Basic
import ParamRules.Yaml.Schema

/-!
# Fixtures as YAML

A fixture is a mapping with the members `name`, `description`, `rules`, `expect_parse_error` and
`cases`, of which the name and the rules are required. A case is a mapping with the members `name`,
`params`, `expect`, `effective` and `expect_error`, of which the name is required. Members of other
names are passed over, but none of these may occur twice. A name that occurs twice inside `params`,
`expect` or `effective` has its last value.

The values of `params` must be texts or sequences of texts, and a plain scalar that spells a number,
a truth value or null is no text there.
-/

namespace ParamRules.Fixture

open Yaml (Node requiredMember? optionalMember?)

/-- The map that a mapping gives when `read` reads its values. -/
def readMap? {α : Type} (read : Node → Option α) (node : Node) : Option (SortedMap α) := do
  let pairs ← (← node.members?).mapM fun member =>
    (read member.2).map fun value => (member.1, value)
  return SortedMap.ofList pairs

/-- The values of a parameter: a text, or a sequence of texts. -/
def paramValues? : Node → Option (List String)
  | .sequence items => items.mapM Node.properText?
  | node => node.properText?.map fun text => [text]

def Case.ofYaml? (node : Node) : Option Case := do
  let members ← node.members?
  return {
    name := ← requiredMember? members "name" Node.text?
    params := ← optionalMember? members "params" (readMap? paramValues?) ∅
    expect := ← optionalMember? members "expect" (readMap? Node.text?) ∅
    effective := ← optionalMember? members "effective" (readMap? Node.optionalText?) ∅
    expectError := ← optionalMember? members "expect_error" Node.bool? false }

def ofYaml? (document : Node) : Option Fixture := do
  let members ← document.members?
  return {
    name := ← requiredMember? members "name" Node.text?
    description := ← optionalMember? members "description" Node.text? ""
    rules := ← requiredMember? members "rules" Node.texts?
    expectParseError := ← optionalMember? members "expect_parse_error" Node.bool? false
    cases := ← optionalMember? members "cases" (fun node => do
      (← node.items?).mapM Case.ofYaml?) [] }

/-- The fixture of a text of one document. -/
def read? (text : String) : Option Fixture := do
  ofYaml? (← Node.document text)

/-- The documents of a text. A text that is no YAML counts as one document, which nothing is. -/
def documents (text : String) : List (Option Node) :=
  match Node.documents text with
  | some nodes => nodes.map some
  | none => [none]

def ofDocument (document : Option Node) : Except String Fixture :=
  match document.bind ofYaml? with
  | some fixture => .ok fixture
  | none => .error "not a fixture"

end ParamRules.Fixture
