import ParamRules.Rule.Grammar
import ParamRules.SortedMap

/-!
# Rule sets

A rule set has at most one rule for each parameter and keeps the rules in order of parameter. It is
read from lines all or nothing: the first line at fault refuses the whole set. Of several lines
about one parameter the last one counts.
-/

namespace ParamRules

/-- At most one rule for each parameter. -/
@[ext]
structure RuleSet where
  rules : SortedMap Rule := ∅
deriving DecidableEq

namespace RuleSet

instance : EmptyCollection RuleSet := ⟨{}⟩

instance : Inhabited RuleSet := ⟨∅⟩

/-- The rule set with a rule for a parameter, in place of any earlier one. -/
def insert (rules : RuleSet) (param : String) (rule : Rule) : RuleSet where
  rules := rules.rules.insert param rule

/-- The rule set of a list of pairs; the last rule for a parameter is kept. -/
def ofList (pairs : List (String × Rule)) : RuleSet :=
  pairs.foldl (fun rules pair => rules.insert pair.1 pair.2) ∅

def toList (rules : RuleSet) : List (String × Rule) :=
  rules.rules.entries

def find? (rules : RuleSet) (param : String) : Option Rule :=
  rules.rules.find? param

def size (rules : RuleSet) : Nat :=
  rules.rules.size

def isEmpty (rules : RuleSet) : Bool :=
  rules.rules.isEmpty

def readLine (rules : RuleSet) (line : String) : Run RuleSet := do
  let (param, rule) ← Rule.readLine line
  return rules.insert param rule

def read (lines : List String) : Run RuleSet :=
  lines.foldlM readLine ∅

end RuleSet

end ParamRules
