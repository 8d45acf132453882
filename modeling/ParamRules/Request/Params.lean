import ParamRules.SortedMap

/-!
# Request parameters

A request gives each of its parameters one or more values, in order. Only the first value of a
parameter takes part in matching; the others are passed on with it. `Values` is never empty, so a
parameter with a name always has a first value.
-/

namespace ParamRules

/-- The values of one parameter: at least one, in order of arrival. -/
structure Values where
  first : String
  rest : List String := []
deriving DecidableEq

namespace Values

def toList (values : Values) : List String :=
  values.first :: values.rest

/-- The values with one more at the end. -/
def push (values : Values) (value : String) : Values :=
  { values with rest := values.rest ++ [value] }

end Values

/-- The parameters of a request: names in order, each with its values. -/
@[ext]
structure Params where
  values : SortedMap Values := ∅
deriving DecidableEq

namespace Params

instance : EmptyCollection Params := ⟨{}⟩

instance : Inhabited Params := ⟨∅⟩

/-- The parameters with one more value for a name, after the values that it has. -/
def add (params : Params) (name value : String) : Params where
  values := params.values.alter name fun
    | none => ⟨value, []⟩
    | some present => present.push value

/-- The parameters of a list of pairs: the values of a repeated name accumulate in order. -/
def ofList (pairs : List (String × String)) : Params :=
  pairs.foldl (fun params pair => params.add pair.1 pair.2) ∅

def size (params : Params) : Nat :=
  params.values.size

def isEmpty (params : Params) : Bool :=
  params.values.isEmpty

end Params

end ParamRules
