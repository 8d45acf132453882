import ParamRules.Config.Basic
import ParamRules.Text.Quoted

/-!
# Fixtures

A fixture is a rule set with requests to try it on. Each case says which replacements the rules must
give for its request, and may say which first values the request must have afterwards. A fixture may
also demand that its rules cannot be read, and a case that they fail on its request.

`Fixture.run` gives one result for each case, or a single result about reading the rules.
-/

namespace ParamRules

/-- One request and what the rules must make of it. -/
structure Fixture.Case where
  name : String
  /-- The values of each parameter of the request. -/
  params : SortedMap (List String) := ∅
  /-- The replacements that must come out, neither more nor fewer. -/
  expect : SortedMap String := ∅
  /-- First values of the request afterwards; none for a parameter that must be absent. -/
  effective : SortedMap (Option String) := ∅
  /-- Whether the rules must fail on the request. -/
  expectError : Bool := false

/-- A rule set and the cases to try it on. -/
structure Fixture where
  name : String
  description : String := ""
  rules : List String
  /-- Whether the lines must be unreadable. -/
  expectParseError : Bool := false
  cases : List Fixture.Case := []

structure Fixture.Result where
  name : String
  passed : Bool
  expected : String
  actual : String
deriving DecidableEq

namespace Fixture.Case

/-- The parameters of the request of a case. A parameter with no value is absent. -/
def request (case : Fixture.Case) : Params :=
  Params.ofList (case.params.entries.flatMap fun entry => entry.2.map fun value => (entry.1, value))

/-- The replacements that must come out, as reports show them. -/
def expectText (case : Fixture.Case) : String :=
  Text.quotePairs Text.quote case.expect.entries

def run (case : Fixture.Case) (rules : RuleSet) : Fixture.Result :=
  let request := Source.request case.request
  match (rules.evaluate request).result with
  | .error failure =>
      { name := case.name
        passed := case.expectError && failure.concernsRule
        expected := if case.expectError then "error" else case.expectText
        actual := failure.message }
  | .ok overlay =>
      if case.expectError then
        { name := case.name, passed := false, expected := "error", actual := overlay.text }
      else
        let view := Source.layered (.overlay overlay) request
        let effective := case.effective.entries.all fun entry => view.first? entry.1 == entry.2
        { name := case.name
          passed := overlay.replacements == case.expect && effective
          expected :=
            case.expectText ++ " effective "
              ++ Text.quotePairs Text.quoteOption case.effective.entries
          actual :=
            Text.quotePairs Text.quote overlay.toList ++ " names " ++ Text.quoteList view.names }

end Fixture.Case

namespace Fixture

/-- The name under which a result about reading the rules is reported. -/
def parseCase : String :=
  "<parse>"

/-- Reads the rules of a fixture and tries them on its cases. -/
def run (fixture : Fixture) : List Fixture.Result :=
  match (RuleSet.read fixture.rules).result with
  | .ok rules =>
      if fixture.expectParseError then
        [{ name := parseCase
           passed := false
           expected := "parse error"
           actual := Text.Integer.writeNat rules.size ++ " rules" }]
      else fixture.cases.map (·.run rules)
  | .error failure =>
      [{ name := parseCase
         passed := fixture.expectParseError && failure.concernsRule
         expected := if fixture.expectParseError then "parse error" else "rules"
         actual := failure.message }]

/-- What is wrong with a fixture: its first case that did not come out as it must, if any. -/
def complaint? (fixture : Fixture) : Option String :=
  (fixture.run.find? (!·.passed)).map fun result =>
    "Fixture '" ++ fixture.name ++ "' case '" ++ result.name ++ "' failed: expected "
      ++ result.expected ++ ", got " ++ result.actual

end Fixture

end ParamRules
