/-!
# JSON values

The values of RFC 8259. An object keeps its members as a list, in the order in which they were
written and with repeated names, so that a reader of objects can refuse what it does not expect.
A number is kept as it was written.
-/

namespace ParamRules.Json

inductive Value where
  | null
  | bool (value : Bool)
  | number (text : String)
  | string (text : String)
  | array (items : List Value)
  | object (members : List (String × Value))

namespace Value

instance : Inhabited Value := ⟨.null⟩

def bool? : Value → Option Bool
  | bool value => some value
  | _ => none

def string? : Value → Option String
  | string text => some text
  | _ => none

def strings? : Value → Option (List String)
  | array items => items.mapM string?
  | _ => none

end Value

end ParamRules.Json
