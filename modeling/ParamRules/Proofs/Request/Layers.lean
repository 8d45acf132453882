import ParamRules.Proofs.SortedMap
import ParamRules.Request.Source

/-!
# What every source keeps to

However many layers a source has, its names are distinct and are those that have a value, and all
values of a name come from the topmost layer that knows the name. `Lawful` collects these laws and
`views_are_lawful` proves them of every source. The three look-ups of a source agree because each of
them goes down the same layers to the same `Values` (`first?_eq_values?`, `all?_eq_values?`).

Sources that have the same values are `Alike`: they may differ in the order of their names only.
-/

namespace ParamRules

namespace Source

/-- The values of a name, from the topmost layer that knows the name. -/
def values? : Source → String → Option Values
  | request params, name => params.values.find? name
  | overlay replacements, name => (replacements.find? name).map fun value => ⟨value, []⟩
  | layered top below, name => (top.values? name).or (below.values? name)

/-- The layers of a source that are no layered sources themselves, topmost first. -/
def layers : Source → List Source
  | request params => [request params]
  | overlay replacements => [overlay replacements]
  | layered top below => top.layers ++ below.layers

variable {source : Source} {name : String}

theorem first?_eq_values? (source : Source) (name : String) :
    source.first? name = (source.values? name).map Values.first := by
  induction source with
  | request params => rfl
  | overlay replacements => simp [first?, values?, Function.comp_def]
  | layered top below ihTop ihBelow => rw [first?, values?, Option.map_or, ihTop, ihBelow]

theorem all?_eq_values? (source : Source) (name : String) :
    source.all? name = (source.values? name).map Values.toList := by
  induction source with
  | request params => rfl
  | overlay replacements => simp [all?, values?, Values.toList, Function.comp_def]
  | layered top below ihTop ihBelow => rw [all?, values?, Option.map_or, ihTop, ihBelow]

theorem contains_eq_values? (source : Source) (name : String) :
    source.contains name = (source.values? name).isSome := by
  rw [contains, first?_eq_values?, Option.isSome_map]

theorem nodup_names (source : Source) : source.names.Nodup := by
  induction source with
  | request params => exact params.values.nodup_keys
  | overlay replacements => exact replacements.replacements.nodup_keys
  | layered top below ihTop ihBelow =>
      rw [names, Occurrence.eraseDups_append_of_nodup ihTop ihBelow, List.nodup_append]
      refine ⟨ihTop, ihBelow.filter _, ?_⟩
      intro upper upperMem lower lowerMem same
      subst same
      simp [upperMem] at lowerMem

theorem names_layered (top below : Source) :
    (layered top below).names =
      top.names ++ below.names.filter fun name => !top.names.contains name :=
  Occurrence.eraseDups_append_of_nodup top.nodup_names below.nodup_names

theorem mem_names_iff : name ∈ source.names ↔ ∃ values, source.values? name = some values := by
  induction source with
  | request params => exact SortedMap.mem_keys_iff
  | overlay replacements =>
      simp only [names, values?, Option.map_eq_some_iff, SortedMap.mem_keys_iff, Overlay.find?]
      constructor
      · rintro ⟨value, found⟩
        exact ⟨_, value, found, rfl⟩
      · rintro ⟨_, value, found, rfl⟩
        exact ⟨value, found⟩
  | layered top below ihTop ihBelow =>
      simp only [names, List.mem_eraseDups, List.mem_append, ihTop, ihBelow, values?]
      cases top.values? name with
      | none => simp
      | some values => simp

theorem values?_eq_findSome? (source : Source) (name : String) :
    source.values? name = source.layers.findSome? fun layer => layer.values? name := by
  induction source with
  | request params => simp [layers]
  | overlay replacements => simp [layers]
  | layered top below ihTop ihBelow => rw [values?, layers, List.findSome?_append, ihTop, ihBelow]

theorem single_of_mem_layers {layer : Source} (mem : layer ∈ source.layers) :
    (∃ params, layer = .request params) ∨ ∃ replacements, layer = .overlay replacements := by
  induction source with
  | request params => exact Or.inl ⟨params, by simpa [layers] using mem⟩
  | overlay replacements => exact Or.inr ⟨replacements, by simpa [layers] using mem⟩
  | layered top below ihTop ihBelow =>
      rw [layers, List.mem_append] at mem
      rcases mem with mem | mem
      · exact ihTop mem
      · exact ihBelow mem

theorem all?_eq_some_iff {values : List String} :
    source.all? name = some values ↔
      ∃ above layer below, source.layers = above ++ layer :: below ∧
        layer.all? name = some values ∧ ∀ upper ∈ above, upper.contains name = false := by
  simp only [all?_eq_values?, contains_eq_values?, Option.map_eq_some_iff,
    values?_eq_findSome? source, List.findSome?_eq_some_iff, Option.isSome_eq_false_iff,
    Option.isNone_iff_eq_none]
  constructor
  · rintro ⟨found, ⟨above, layer, below, shape, known, unknown⟩, rfl⟩
    exact ⟨above, layer, below, shape, ⟨found, known, rfl⟩, unknown⟩
  · rintro ⟨above, layer, below, shape, ⟨found, known, rfl⟩, unknown⟩
    exact ⟨found, ⟨above, layer, below, shape, known, unknown⟩, rfl⟩

theorem mem_names_iff_all? : name ∈ source.names ↔ (source.all? name).getD [] ≠ [] := by
  rw [mem_names_iff, all?_eq_values?]
  cases source.values? name with
  | none => simp
  | some values => simp [Values.toList]

/-- No name has an empty list of values. -/
theorem all?_eq_ite_getD (source : Source) (name : String) :
    source.all? name =
      if (source.all? name).getD [] = [] then none else some ((source.all? name).getD []) := by
  rw [all?_eq_values?]
  cases source.values? name with
  | none => rfl
  | some values => simp [Values.toList]

/-- What a source of parameters keeps to. -/
structure Lawful (source : Source) : Prop where
  nodup : source.names.Nodup
  mem_iff_contains : ∀ name, name ∈ source.names ↔ source.contains name = true
  contains_iff_first : ∀ name, source.contains name = true ↔
    ∃ value, source.first? name = some value
  contains_iff_all : ∀ name, source.contains name = true ↔
    ∃ values, source.all? name = some values
  head : ∀ name values, source.all? name = some values →
    ∃ value rest, values = value :: rest ∧ source.first? name = some value
  /-- All values of a name are those of one layer, and no layer above it knows the name. -/
  topmost : ∀ name values, source.all? name = some values ↔
    ∃ above layer below, source.layers = above ++ layer :: below ∧
      layer.all? name = some values ∧ ∀ upper ∈ above, upper.contains name = false
  single : ∀ layer ∈ source.layers,
    (∃ params, layer = .request params) ∨ ∃ replacements, layer = .overlay replacements

theorem lawful (source : Source) : source.Lawful where
  nodup := source.nodup_names
  mem_iff_contains := by
    intro name
    rw [mem_names_iff, contains_eq_values?, Option.isSome_iff_exists]
  contains_iff_first := by
    intro name
    rw [contains, Option.isSome_iff_exists]
  contains_iff_all := by
    intro name
    rw [contains_eq_values?, all?_eq_values?, ← Option.isSome_iff_exists, Option.isSome_map]
  head := by
    intro name values found
    rw [all?_eq_values?, Option.map_eq_some_iff] at found
    rcases found with ⟨present, known, rfl⟩
    exact ⟨present.first, present.rest, rfl, by simp [first?_eq_values?, known]⟩
  topmost := fun _ _ => all?_eq_some_iff
  single := fun _ mem => single_of_mem_layers mem

/-- Every source is lawful, and a layer put on top adds its names before the others and takes none
away. -/
theorem views_are_lawful :
    (∀ source : Source, source.Lawful) ∧
      ∀ top below : Source,
        (layered top below).names =
            top.names ++ below.names.filter (fun name => !top.names.contains name) ∧
          below.names ⊆ (layered top below).names := by
  refine ⟨lawful, fun top below => ⟨names_layered top below, ?_⟩⟩
  intro name mem
  rw [names, List.mem_eraseDups]
  exact List.mem_append_right _ mem

/-- A name that both layers know stands where the top layer has it, and a name that only the request
knows keeps all its values. -/
theorem views_are_lawful_of_rows :
    (layered (.overlay (.ofList [("rows", "100"), ("start", "0")]))
        (.request (.ofList [("fq", "a"), ("rows", "5000"), ("fq", "b")]))).names =
        ["rows", "start", "fq"] ∧
      ∃ value rest, ["a", "b"] = value :: rest ∧
        (layered (.overlay (.ofList [("rows", "100"), ("start", "0")]))
          (.request (.ofList [("fq", "a"), ("rows", "5000"), ("fq", "b")]))).first? "fq" =
          some value := by
  constructor
  · rw [(views_are_lawful.2 _ _).1]
    cbv
  · exact (views_are_lawful.1 _).head "fq" ["a", "b"] (by cbv)

/-- Sources that give the same values of every name and know the same names. -/
structure Alike (left right : Source) : Prop where
  firsts : ∀ name, left.first? name = right.first? name
  alls : ∀ name, left.all? name = right.all? name
  names : ∀ name, name ∈ left.names ↔ name ∈ right.names

theorem alike_of_values? {left right : Source}
    (same : ∀ name, left.values? name = right.values? name) : left.Alike right where
  firsts := by
    intro name
    rw [first?_eq_values?, first?_eq_values?, same]
  alls := by
    intro name
    rw [all?_eq_values?, all?_eq_values?, same]
  names := by
    intro name
    rw [mem_names_iff, mem_names_iff, same]

theorem Alike.refl (source : Source) : source.Alike source :=
  alike_of_values? fun _ => rfl

theorem Alike.symm {left right : Source} (alike : left.Alike right) : right.Alike left where
  firsts := fun name => (alike.firsts name).symm
  alls := fun name => (alike.alls name).symm
  names := fun name => (alike.names name).symm

theorem Alike.trans {left middle right : Source} (first : left.Alike middle)
    (second : middle.Alike right) : left.Alike right where
  firsts := fun name => (first.firsts name).trans (second.firsts name)
  alls := fun name => (first.alls name).trans (second.alls name)
  names := fun name => (first.names name).trans (second.names name)

/-- An overlay that replaces nothing changes nothing. -/
theorem alike_layered_empty (source : Source) : (layered (.overlay ∅) source).Alike source := by
  apply alike_of_values?
  intro name
  exact Option.none_or

end Source

end ParamRules
