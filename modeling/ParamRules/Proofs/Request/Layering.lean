import ParamRules.Proofs.Request.Layers
import ParamRules.Proofs.Request.Overlay

/-!
# Regrouping and flattening layers

How layers are grouped does not matter, a layer without names adds nothing and a source put over
itself stays as it is. In all these cases the sources are `Indistinct`: they also list their names
in the same order. A stack of overlays has the values of one overlay, in which a later pair prevails
over an earlier one as an upper overlay does over a lower one (`values?_stacked`).
-/

namespace ParamRules

namespace Source

/-- Sources that nothing tells apart: they give the same values and list the same names in the same
order. -/
structure Indistinct (left right : Source) : Prop where
  firsts : ∀ name, left.first? name = right.first? name
  alls : ∀ name, left.all? name = right.all? name
  contains : ∀ name, left.contains name = right.contains name
  names : left.names = right.names

theorem indistinct_of_values? {left right : Source}
    (values : ∀ name, left.values? name = right.values? name)
    (names : left.names = right.names) : left.Indistinct right where
  firsts := by
    intro name
    simp only [first?_eq_values?, values]
  alls := by
    intro name
    simp only [all?_eq_values?, values]
  contains := by
    intro name
    simp only [contains_eq_values?, values]
  names := names

theorem names_layered_assoc (top middle below : Source) :
    (layered top (layered middle below)).names = (layered (layered top middle) below).names := by
  simp only [names_layered, List.filter_append, List.filter_filter, List.append_assoc]
  congr 2
  -- What the lowest layer adds is new to both layers above it, however these are grouped.
  apply List.filter_congr
  intro name _
  by_cases upper : name ∈ top.names
  · simp [upper]
  · simp [upper]

theorem indistinct_layered_assoc (top middle below : Source) :
    (layered top (layered middle below)).Indistinct (layered (layered top middle) below) := by
  apply indistinct_of_values?
  · intro name
    simp only [values?, Option.or_assoc]
  · exact names_layered_assoc top middle below

theorem indistinct_empty_layered (source : Source) :
    (layered (.overlay ∅) source).Indistinct source := by
  apply indistinct_of_values?
  · intro name
    exact Option.none_or
  · have nameless : (overlay ∅).names = [] := rfl
    rw [names_layered, nameless]
    simp

theorem indistinct_layered_empty (source : Source) :
    (layered source (.request ∅)).Indistinct source := by
  apply indistinct_of_values?
  · intro name
    exact Option.or_none
  · have nameless : (request ∅).names = [] := rfl
    rw [names_layered, nameless]
    simp

theorem indistinct_layered_self (source : Source) : (layered source source).Indistinct source := by
  apply indistinct_of_values?
  · intro name
    exact Option.or_self
  · rw [names_layered]
    simp

/-- Overlays put one after another over a source, the first of them lowest. -/
def stacked (overlays : List Overlay) (source : Source) : Source :=
  overlays.foldl (fun below overlay => layered (.overlay overlay) below) source

end Source

/-- The overlay of the pairs of several overlays; of a repeated name the last value is kept. -/
def Overlay.collected (overlays : List Overlay) : Overlay :=
  .ofList (overlays.flatMap Overlay.toList)

theorem Overlay.find?_collected_cons (lowest : Overlay) (others : List Overlay) (name : String) :
    (collected (lowest :: others)).find? name =
      ((collected others).find? name).or (lowest.find? name) := by
  simp only [collected, find?, replacements_ofList, SortedMap.find?_ofList, List.flatMap_cons,
    List.reverse_append, List.lookup_append]
  rw [← SortedMap.lookup_reverse_entries lowest.replacements, toList]

namespace Source

theorem values?_stacked (overlays : List Overlay) (source : Source) (name : String) :
    (stacked overlays source).values? name =
      (layered (.overlay (.collected overlays)) source).values? name := by
  induction overlays generalizing source with
  | nil => exact Option.none_or.symm
  | cons lowest others ih =>
      -- The lowest overlay belongs to the source under the others, and there its pairs come first.
      rw [stacked, List.foldl_cons, ← stacked, ih]
      simp only [values?, Overlay.find?_collected_cons, Option.map_or, Option.or_assoc]

/-- Layers can be regrouped, a layer without names and a second copy of a source change nothing, and
a stack of overlays gives the values of one overlay of all their pairs from bottom to top. -/
theorem layers_regroup_and_flatten :
    (∀ top middle below : Source,
      (layered top (layered middle below)).Indistinct (layered (layered top middle) below)) ∧
    (∀ source : Source,
      (layered (.overlay ∅) source).Indistinct source ∧
      (layered source (.request ∅)).Indistinct source ∧
      (layered source source).Indistinct source) ∧
    ∀ (overlays : List Overlay) (source : Source),
      (stacked overlays source).Alike (layered (.overlay (.collected overlays)) source) := by
  refine ⟨indistinct_layered_assoc, ?_, ?_⟩
  · intro source
    exact ⟨indistinct_empty_layered source, indistinct_layered_empty source,
      indistinct_layered_self source⟩
  · intro overlays source
    apply alike_of_values?
    exact values?_stacked overlays source

/-- The names of a stack begin with those of its topmost overlay, those of the one overlay are in
order. -/
example :
    (stacked [.ofList [("a", "1"), ("c", "1")], .ofList [("b", "2"), ("c", "2")]]
        (.request ∅)).names = ["b", "c", "a"] ∧
      (layered (.overlay (.collected [.ofList [("a", "1"), ("c", "1")],
        .ofList [("b", "2"), ("c", "2")]])) (.request ∅)).names = ["a", "b", "c"] := by
  constructor
  · cbv
  · cbv

end Source

end ParamRules
