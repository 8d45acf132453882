import ParamRules.Text.Integer

/-!
# Conditions

A rule is made of entries, each a condition and the replacement it stands for. In the rule language
an entry is written `key:replacement`, and the key alone says which condition is meant:

* `invariant` holds of every request, and of an absent parameter too;
* `default` holds only of an absent parameter;
* `>N` and `<N` hold of a present value that is an integer at or above, at or below `N`;
* any other key holds of exactly that value.

`Condition.key` writes the key and `Condition.ofKey` reads it. A condition that was not read from a
key may have the key of another one: the condition "equals `default`" is written `default`.
-/

namespace ParamRules

/-- The side of its bound on which a threshold holds; the bound itself counts for both. -/
inductive Direction where
  | atLeast
  | atMost
deriving DecidableEq

namespace Direction

def sign : Direction → Char
  | atLeast => '>'
  | atMost => '<'

/-- Whether a value lies on this side of a bound. -/
def admits : Direction → (value bound : Int) → Bool
  | atLeast, value, bound => bound ≤ value
  | atMost, value, bound => value ≤ bound

end Direction

/-- When an entry of a rule applies. -/
inductive Condition where
  /-- Always, before every other entry. -/
  | invariant
  /-- When the parameter is absent. -/
  | default
  /-- When the value is an integer on one side of a bound. The bound is kept as it was written and
  read as an integer only when a value meets it. -/
  | threshold (direction : Direction) (bound : String)
  /-- When the value is exactly this text. -/
  | equals (text : String)
deriving DecidableEq

/-- What a condition says about a present value. -/
inductive Verdict where
  | holds
  | fails
  /-- It is a threshold, and the value is not an integer. -/
  | notNumeric
  /-- It is a threshold whose bound is not an integer. -/
  | badBound
deriving DecidableEq

namespace Condition

/-- The key under which the rule language knows a condition. -/
def key : Condition → String
  | invariant => "invariant"
  | default => "default"
  | threshold direction bound => String.ofList (direction.sign :: bound.toList)
  | equals text => text

/-- The condition that a key stands for. -/
def ofKey (key : String) : Condition :=
  if key = "invariant" then invariant
  else if key = "default" then default
  else match key.toList with
    | '>' :: bound => threshold .atLeast (String.ofList bound)
    | '<' :: bound => threshold .atMost (String.ofList bound)
    | _ => equals key

/-- The bound of a threshold, if it is not a 64-bit integer. -/
def badBound? : Condition → Option String
  | threshold _ bound => if (Text.Integer.read? bound).isNone then some bound else none
  | _ => none

/-- What a condition says about a present value. A bound that is not an integer is reported before
the value is looked at. -/
def judge (condition : Condition) (value : String) : Verdict :=
  match condition with
  | invariant | default => .fails
  | equals text => if text = value then .holds else .fails
  | threshold direction bound =>
      match Text.Integer.read? bound, Text.Integer.read? value with
      | none, _ => .badBound
      | some _, none => .notNumeric
      | some limit, some number => if direction.admits number limit then .holds else .fails

end Condition

/-- A condition and the replacement for the values it holds of. -/
structure Entry where
  condition : Condition
  replacement : String
deriving DecidableEq

namespace Entry

def ofKey (key replacement : String) : Entry :=
  ⟨.ofKey key, replacement⟩

def key (entry : Entry) : String :=
  entry.condition.key

def text (entry : Entry) : String :=
  entry.key ++ ":" ++ entry.replacement

/-- Whether two entries have one condition, so that a rule keeps only one of them. -/
def sameCondition (left right : Entry) : Bool :=
  left.condition == right.condition

end Entry

end ParamRules
