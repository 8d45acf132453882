import ParamRules.Proofs.SortedMap
import ParamRules.Request.Params

/-!
# The values that a list of pairs gives

The parameters of a list of pairs have, for each name, exactly the values that are paired with it,
in the order of the pairs (`valuesOf_ofList`). A name that is paired with nothing is absent.
-/

namespace ParamRules.Params

/-- The values that are paired with a name. -/
def paired (pairs : List (String × String)) (name : String) : List String :=
  (pairs.filter fun pair => pair.1 = name).map Prod.snd

/-- The values of a name, none if it is absent. -/
def valuesOf (params : Params) (name : String) : List String :=
  (params.values.find? name).elim [] Values.toList

theorem valuesOf_add (params : Params) (name value other : String) :
    (params.add name value).valuesOf other =
      if other = name then params.valuesOf other ++ [value] else params.valuesOf other := by
  simp only [valuesOf, add, SortedMap.find?_alter]
  split
  · rename_i same
    subst same
    cases params.values.find? other with
    | none => rfl
    | some present => rfl
  · rfl

theorem valuesOf_foldl_add (pairs : List (String × String)) (params : Params) (name : String) :
    (pairs.foldl (fun params pair => params.add pair.1 pair.2) params).valuesOf name =
      params.valuesOf name ++ paired pairs name := by
  induction pairs generalizing params with
  | nil => simp [paired]
  | cons pair rest ih =>
      rw [List.foldl_cons, ih, valuesOf_add]
      by_cases same : pair.1 = name
      · simp [paired, same]
      · simp [paired, same, Ne.symm same]

/-- Each name has the values that are paired with it, first to last. -/
theorem valuesOf_ofList (pairs : List (String × String)) (name : String) :
    (ofList pairs).valuesOf name = paired pairs name :=
  valuesOf_foldl_add pairs ∅ name

theorem find?_eq_none_iff {params : Params} {name : String} :
    params.values.find? name = none ↔ params.valuesOf name = [] := by
  rw [valuesOf]
  cases params.values.find? name with
  | none => simp
  | some values => simp [Values.toList]

theorem paired_append (front back : List (String × String)) (name : String) :
    paired (front ++ back) name = paired front name ++ paired back name := by
  rw [paired, List.filter_append, List.map_append]
  rfl

theorem paired_map (other : String) (values : List String) (name : String) :
    paired (values.map fun value => (other, value)) name = if other = name then values else [] := by
  by_cases same : other = name
  · simp [paired, List.filter_map, Function.comp_def, same]
  · simp [paired, List.filter_map, Function.comp_def, same]

/-- Where each name stands once, the values of a name are all the values paired with it. -/
theorem paired_flatMap {names : List String} (distinct : names.Nodup)
    (values : String → List String) (name : String) :
    paired (names.flatMap fun other => (values other).map fun value => (other, value)) name =
      if name ∈ names then values name else [] := by
  induction names with
  | nil => rfl
  | cons first rest ih =>
      rcases List.nodup_cons.1 distinct with ⟨fresh, restDistinct⟩
      rw [List.flatMap_cons, paired_append, paired_map, ih restDistinct]
      by_cases same : first = name
      · subst same
        rw [if_pos rfl, if_neg fresh, if_pos List.mem_cons_self, List.append_nil]
      · simp only [if_neg same, List.nil_append, List.mem_cons, Ne.symm same, false_or]

end ParamRules.Params
