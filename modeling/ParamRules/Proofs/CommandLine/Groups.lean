import ParamRules.Proofs.CommandLine.Arguments

/-!
# Arguments as groups of pairs

The arguments that give a request its parameters are groups, each the word `--param` and the pairs
after it. Reading them with a loop over the groups and another one over the pairs of a group ends
and comes to the same as one pass over all arguments (`paramsOf_eq_readGroups`): the inner loop ends
at anything that looks like an option, and the outer one goes on only at `--param`. So it does not
matter how the pairs are put into groups (`paramsOf_cons_congr`).
-/

namespace ParamRules.CommandLine

variable {params result : Params} {argument : String} {arguments : List String}

/-! ## Group by group -/

/-- Reads the pairs ahead and adds them to parameters, up to the first argument that looks like an
option. Gives the arguments from that one on as well. -/
def readPairs (params : Params) : List String → Except Error (Params × List String)
  | [] => .ok (params, [])
  | argument :: rest =>
      if Text.startsWith "--" argument then .ok (params, argument :: rest)
      else
        match Text.cut? '=' argument with
        | some (name, value) => readPairs (params.add name value) rest
        | none => .error (.invalidPair argument)

theorem length_le_of_readPairs {after : List String}
    (read : readPairs params arguments = .ok (result, after)) :
    after.length ≤ arguments.length := by
  fun_induction readPairs params arguments with
  | case1 => simp_all
  | case2 => simp_all
  | case3 _ _ _ _ _ _ _ ih => exact Nat.le_succ_of_le (ih read)
  | case4 => cases read

/-- Reads any number of groups and adds their pairs to parameters. A group is the word `--param` and
the pairs after it. -/
def readGroups (params : Params) : List String → Except Error Params
  | [] => .ok params
  | argument :: rest =>
      if argument = "--param" then
        match _ : readPairs params rest with
        | .ok (result, after) => readGroups result after
        | .error error => .error error
      else .error (.unexpectedArgument argument)
termination_by arguments => arguments.length
decreasing_by exact Nat.lt_succ_of_le (length_le_of_readPairs ‹_›)

/-- The rest of a group and the groups after it. -/
def readGroupOn (params : Params) (arguments : List String) : Except Error Params :=
  match readPairs params arguments with
  | .ok (result, after) => readGroups result after
  | .error error => .error error

theorem readGroups_cons_flag (params : Params) (arguments : List String) :
    readGroups params ("--param" :: arguments) = readGroupOn params arguments := by
  rw [readGroups, if_pos rfl, readGroupOn]
  split
  · rename_i read
    rw [read]
  · rename_i read
    rw [read]

theorem readGroupOn_cons_of_dashes (dashes : "--".toList <+: argument.toList) :
    readGroupOn params (argument :: arguments) = readGroups params (argument :: arguments) := by
  have starts := Text.startsWith_iff.2 dashes
  simp [readGroupOn, readPairs, starts]

/-- Inside a group, one pass and the two loops take every argument alike. -/
theorem readParams_eq_readGroupOn (params : Params) (arguments : List String) :
    readParams params true arguments = readGroupOn params arguments := by
  induction arguments generalizing params with
  | nil => simp [readParams, readGroupOn, readPairs, readGroups]
  | cons argument rest ih =>
      by_cases dashes : "--".toList <+: argument.toList
      · rw [readGroupOn_cons_of_dashes dashes]
        by_cases word : argument = "--param"
        · subst word
          rw [readGroups_cons_flag, ← ih, readParams, if_pos rfl]
        · rw [readParams_cons_of_unexpected (.option word dashes), readGroups, if_neg word]
      · have other := ne_param_of_noDashes dashes
        have starts := startsWith_of_noDashes dashes
        cases cut : Text.cut? '=' argument with
        | none => simp [readParams, readGroupOn, readPairs, other, starts, cut]
        | some pair => simp [readParams, readGroupOn, readPairs, other, starts, cut, ih]

theorem paramsOf_eq_readGroups (arguments : List String) :
    paramsOf arguments = readGroups ∅ arguments := by
  rcases arguments with _ | ⟨first, rest⟩
  · rw [paramsOf, readParams, readGroups]
  · by_cases word : first = "--param"
    · subst word
      rw [readGroups_cons_flag, ← readParams_eq_readGroupOn, paramsOf, readParams, if_pos rfl]
    · rw [paramsOf_of_firstUnexpected (.first word), readGroups, if_neg word]

/-! ## One group or many -/

theorem readParams_filter (params : Params) (arguments : List String) :
    readParams params true (arguments.filter (· ≠ "--param")) =
      readParams params true arguments := by
  induction arguments generalizing params with
  | nil => rfl
  | cons argument rest ih =>
      by_cases word : argument = "--param"
      · rw [List.filter_cons_of_neg (by simpa using word), ih, readParams, if_pos word]
      · rw [List.filter_cons_of_pos (by simpa using word)]
        rcases expected_or_unexpected argument with expected | ⟨error, unexpected⟩
        · rw [readParams_cons_of_expected expected, readParams_cons_of_expected expected, ih]
        · rw [readParams_cons_of_unexpected unexpected, readParams_cons_of_unexpected unexpected]

theorem paramsOf_cons_congr {left right : List String}
    (same : left.filter (· ≠ "--param") = right.filter (· ≠ "--param")) (first : String) :
    paramsOf (first :: left) = paramsOf (first :: right) := by
  by_cases word : first = "--param"
  · simp only [paramsOf, readParams, if_pos word]
    rw [← readParams_filter ∅ left, same, readParams_filter ∅ right]
  · rw [paramsOf_of_firstUnexpected (.first word), paramsOf_of_firstUnexpected (.first word)]

/-! ## The accepted arguments and what they mean -/

/-- A pair as an argument spells it, the name before the first `=` and the value after it. -/
structure SpellsPair (argument : String) (pair : String × String) : Prop where
  spelled : argument = pair.1 ++ "=" ++ pair.2
  plain : '=' ∉ pair.1.toList

theorem spellsPair_iff {pair : String × String} :
    SpellsPair argument pair ↔ Text.cut? '=' argument = some pair := by
  rw [Text.cut?_eq_some_iff]
  constructor
  · rintro ⟨rfl, plain⟩
    exact ⟨by simp, plain⟩
  · rintro ⟨shape, plain⟩
    exact ⟨String.toList_inj.1 (by simpa using shape), plain⟩

theorem spelled_pairs_iff {pairs : List (String × String)}
    (expected : ∀ argument ∈ arguments, Expected argument) :
    List.Forall₂ SpellsPair (arguments.filter (· ≠ "--param")) pairs ↔
      arguments.filterMap (Text.cut? '=') = pairs := by
  induction arguments generalizing pairs with
  | nil => simp [eq_comm]
  | cons argument rest ih =>
      rcases List.forall_mem_cons.1 expected with ⟨here, later⟩
      rcases here with rfl | ⟨noDashes, paired⟩
      · rw [List.filter_cons_of_neg (by simp), List.filterMap_cons_none cut?_flag, ih later]
      · have other := ne_param_of_noDashes noDashes
        cases cut : Text.cut? '=' argument with
        | none => exact absurd paired (Text.cut?_eq_none_iff.1 cut)
        | some pair =>
            rw [List.filter_cons_of_pos (by simpa using other), List.filterMap_cons_some cut,
              List.forall₂_cons_left_iff]
            simp only [spellsPair_iff, cut, ih later, Option.some.injEq]
            constructor
            · rintro ⟨_, _, rfl, rfl, rfl⟩
              rfl
            · rintro rfl
              exact ⟨pair, _, rfl, rfl, rfl⟩

theorem WellPlaced.expected (placed : WellPlaced arguments) :
    ∀ argument ∈ arguments, Expected argument := by
  rcases placed with rfl | ⟨rest, rfl, expected⟩
  · simp
  · exact List.forall_mem_cons.2 ⟨Or.inl rfl, expected⟩

theorem paramsOf_eq_ok_iff_spelled :
    paramsOf arguments = .ok params ↔
      WellPlaced arguments ∧ ∃ pairs,
        List.Forall₂ SpellsPair (arguments.filter (· ≠ "--param")) pairs ∧
          params = .ofList pairs := by
  rw [paramsOf_eq_ok_iff]
  apply and_congr_right
  intro placed
  simp only [spelled_pairs_iff placed.expected]
  simp

/-- Arguments are accepted exactly if they are groups of pairs, each after the word `--param`, and
then the parameters have all these pairs in order; otherwise the first argument out of place is to
blame. Reading group by group comes to the same, and apart from the first argument the words
`--param` do not matter. -/
theorem arguments_are_groups_of_pairs :
    (∀ arguments : List String,
      ((∃ params, paramsOf arguments = .ok params) ↔ WellPlaced arguments) ∧
      (∀ params, paramsOf arguments = .ok params ↔
        WellPlaced arguments ∧ ∃ pairs,
          List.Forall₂ SpellsPair (arguments.filter (· ≠ "--param")) pairs ∧
            params = .ofList pairs) ∧
      (∀ error, paramsOf arguments = .error error ↔ FirstUnexpected arguments error) ∧
      paramsOf arguments = readGroups ∅ arguments) ∧
    ∀ left right : List String, left.filter (· ≠ "--param") = right.filter (· ≠ "--param") →
      ∀ first, paramsOf (first :: left) = paramsOf (first :: right) := by
  constructor
  · intro arguments
    refine ⟨⟨?_, ?_⟩, fun _ => paramsOf_eq_ok_iff_spelled, fun _ => paramsOf_eq_error_iff,
      paramsOf_eq_readGroups arguments⟩
    · rintro ⟨params, parsed⟩
      exact (paramsOf_eq_ok_iff.1 parsed).1
    · intro placed
      exact ⟨_, paramsOf_of_wellPlaced placed⟩
  · intro left right same first
    exact paramsOf_cons_congr same first

/-- Words `--param` between the pairs and after them change nothing, and neither do they in front of
an argument that is out of place. -/
theorem arguments_are_groups_of_pairs_of_rows :
    paramsOf ["--param", "fq=a=1", "--param", "--param", "rows=", "fq=b", "--param"] =
        .ok (.ofList [("fq", "a=1"), ("rows", ""), ("fq", "b")]) ∧
      paramsOf ["--param", "rows=5", "--param", "--json", "start"] =
        .error (.unexpectedArgument "--json") := by
  constructor
  · rw [arguments_are_groups_of_pairs.2 ["fq=a=1", "--param", "--param", "rows=", "fq=b", "--param"]
      ["fq=a=1", "rows=", "fq=b"] (by decide)]
    cbv
  · rw [arguments_are_groups_of_pairs.2 ["rows=5", "--param", "--json", "start"]
      ["rows=5", "--json", "start"] (by decide)]
    cbv

end ParamRules.CommandLine
