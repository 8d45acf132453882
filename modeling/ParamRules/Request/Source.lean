import ParamRules.Request.Params
import ParamRules.Request.Overlay
import ParamRules.Failure
import ParamRules.Text

/-!
# Parameter sources

Rules read parameters from a source: the parameters of a request, an overlay, or one source put
over another. In a layered source the top layer decides about every name that it knows, whole and
unmixed, and the layer below about the rest. The first value of a name, all its values and the list
of names are each asked of the layers on their own.
-/

namespace ParamRules

inductive Source where
  | request (params : Params)
  | overlay (overlay : Overlay)
  | layered (top below : Source)

namespace Source

instance : Inhabited Source := ⟨.request ∅⟩

/-- The value of a name that rules look at, from the topmost layer that knows the name. -/
def first? : Source → String → Option String
  | request params, name => (params.values.find? name).map Values.first
  | overlay replacements, name => replacements.find? name
  | layered top below, name => (top.first? name).or (below.first? name)

/-- All values of a name, from the topmost layer that knows the name. -/
def all? : Source → String → Option (List String)
  | request params, name => (params.values.find? name).map Values.toList
  | overlay replacements, name => (replacements.find? name).map fun value => [value]
  | layered top below, name => (top.all? name).or (below.all? name)

def contains (source : Source) (name : String) : Bool :=
  (source.first? name).isSome

/-- The names that have a value, each once: those of the top layer before the others. -/
def names : Source → List String
  | request params => params.values.keys
  | overlay replacements => replacements.replacements.keys
  | layered top below => (top.names ++ below.names).eraseDups

/-- A parameter as a switch: `true`, `on` and `yes` turn it on and `false`, `off` and `no` turn it
off, in any mixture of upper and lower case; when it is absent the given state holds. -/
def flag (source : Source) (name : String) (absent : Bool) : Except Failure Bool :=
  match source.first? name with
  | none => .ok absent
  | some value =>
      let word := Text.lowerAscii value
      if word ∈ ["true", "on", "yes"] then .ok true
      else if word ∈ ["false", "off", "no"] then .ok false
      else .error (.invalidFlag name value)

end Source

end ParamRules
