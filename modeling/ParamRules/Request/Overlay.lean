import ParamRules.SortedMap

/-!
# Overlays

An overlay holds the replacement values that the rules gave for one request: one value for each
parameter whose rule fired and nothing for any other. It is put over the request, which itself is
never changed.
-/

namespace ParamRules

/-- One replacement value for each of some parameters. -/
@[ext]
structure Overlay where
  replacements : SortedMap String := ∅
deriving DecidableEq

namespace Overlay

instance : EmptyCollection Overlay := ⟨{}⟩

instance : Inhabited Overlay := ⟨∅⟩

/-- The overlay with a replacement for a name, in place of any earlier one. -/
def insert (overlay : Overlay) (name value : String) : Overlay where
  replacements := overlay.replacements.insert name value

/-- The overlay of a list of pairs; the last value of a repeated name is kept. -/
def ofList (pairs : List (String × String)) : Overlay :=
  pairs.foldl (fun overlay pair => overlay.insert pair.1 pair.2) ∅

def toList (overlay : Overlay) : List (String × String) :=
  overlay.replacements.entries

def find? (overlay : Overlay) (name : String) : Option String :=
  overlay.replacements.find? name

def contains (overlay : Overlay) (name : String) : Bool :=
  overlay.replacements.contains name

def size (overlay : Overlay) : Nat :=
  overlay.replacements.size

def isEmpty (overlay : Overlay) : Bool :=
  overlay.replacements.isEmpty

/-- An overlay as messages show it: pairs such as `a=1, b=2` between curly braces. -/
def text (overlay : Overlay) : String :=
  "\x7b" ++ ", ".intercalate (overlay.toList.map fun pair => pair.1 ++ "=" ++ pair.2) ++ "\x7d"

end Overlay

end ParamRules
