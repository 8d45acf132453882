import ParamRules.CommandLine.Arguments
import ParamRules.Proofs.Text

/-!
# Which arguments are parameters of a request

The arguments after a path either are none, or begin with the word `--param` and hold nothing but
pairs and that word again (`paramsOf_eq_ok_iff`). Every other list is refused for its first argument
that does not belong there (`paramsOf_eq_error_iff`).
-/

namespace ParamRules.CommandLine

/-- An argument that may stand after the first `--param`: the same word or a pair. A pair does not
look like an option. -/
def Expected (argument : String) : Prop :=
  argument = "--param" ∨ ¬"--".toList <+: argument.toList ∧ '=' ∈ argument.toList

/-- Why an argument may not stand after the first `--param`. -/
inductive Unexpected : String → Error → Prop where
  | option {argument : String} (other : argument ≠ "--param")
      (dashes : "--".toList <+: argument.toList) :
      Unexpected argument (.unexpectedArgument argument)
  | invalidPair {argument : String} (noDashes : ¬"--".toList <+: argument.toList)
      (unpaired : '=' ∉ argument.toList) :
      Unexpected argument (.invalidPair argument)

variable {params result : Params} {argument : String} {arguments : List String} {error : Error}

theorem cut?_flag : Text.cut? '=' "--param" = none :=
  Text.cut?_eq_none_iff.2 (by decide)

theorem ne_param_of_noDashes (noDashes : ¬"--".toList <+: argument.toList) :
    argument ≠ "--param" := by
  rintro rfl
  exact noDashes (by decide)

theorem startsWith_of_noDashes (noDashes : ¬"--".toList <+: argument.toList) :
    Text.startsWith "--" argument = false := by
  rw [← Bool.not_eq_true, Text.startsWith_iff]
  exact noDashes

theorem Unexpected.not_expected (unexpected : Unexpected argument error) :
    ¬Expected argument := by
  rintro (word | ⟨plain, paired⟩)
  · cases unexpected with
    | option other _ => exact other word
    | invalidPair noDashes _ => exact ne_param_of_noDashes noDashes word
  · cases unexpected with
    | option _ dashes => exact plain dashes
    | invalidPair _ unpaired => exact unpaired paired

theorem expected_or_unexpected (argument : String) :
    Expected argument ∨ ∃ error, Unexpected argument error := by
  by_cases word : argument = "--param"
  · exact Or.inl (Or.inl word)
  · by_cases dashes : "--".toList <+: argument.toList
    · exact Or.inr ⟨_, .option word dashes⟩
    · by_cases paired : '=' ∈ argument.toList
      · exact Or.inl (Or.inr ⟨dashes, paired⟩)
      · exact Or.inr ⟨_, .invalidPair dashes paired⟩

/-- The parameters with those of some pairs after them. The word `--param` is no pair. -/
def addPairs (params : Params) (arguments : List String) : Params :=
  (arguments.filterMap (Text.cut? '=')).foldl (fun params pair => params.add pair.1 pair.2) params

theorem readParams_cons_of_expected (expected : Expected argument) :
    readParams params true (argument :: arguments) =
      readParams (addPairs params [argument]) true arguments := by
  rcases expected with rfl | ⟨noDashes, paired⟩
  · simp [readParams, addPairs, cut?_flag]
  · have other := ne_param_of_noDashes noDashes
    have starts := startsWith_of_noDashes noDashes
    cases cut : Text.cut? '=' argument with
    | none => exact absurd paired (Text.cut?_eq_none_iff.1 cut)
    | some pair => simp [readParams, addPairs, other, starts, cut]

theorem readParams_cons_of_unexpected (unexpected : Unexpected argument error) :
    readParams params true (argument :: arguments) = .error error := by
  cases unexpected with
  | option other dashes =>
      have starts := Text.startsWith_iff.2 dashes
      simp [readParams, other, starts]
  | invalidPair noDashes unpaired =>
      have other := ne_param_of_noDashes noDashes
      have starts := startsWith_of_noDashes noDashes
      simp [readParams, other, starts, Text.cut?_eq_none_iff.2 unpaired]

theorem addPairs_cons (params : Params) (argument : String) (arguments : List String) :
    addPairs params (argument :: arguments) = addPairs (addPairs params [argument]) arguments := by
  simp only [addPairs, ← List.foldl_append, ← List.filterMap_append, List.singleton_append]

theorem readParams_of_expected (expected : ∀ argument ∈ arguments, Expected argument) :
    readParams params true arguments = .ok (addPairs params arguments) := by
  induction arguments generalizing params with
  | nil => rfl
  | cons argument rest ih =>
      rw [readParams_cons_of_expected (expected argument List.mem_cons_self),
        addPairs_cons params argument rest]
      exact ih fun later mem => expected later (List.mem_cons_of_mem argument mem)

theorem readParams_of_unexpected {before after : List String}
    (expected : ∀ earlier ∈ before, Expected earlier) (unexpected : Unexpected argument error) :
    readParams params true (before ++ argument :: after) = .error error := by
  induction before generalizing params with
  | nil => exact readParams_cons_of_unexpected unexpected
  | cons first before ih =>
      rw [List.cons_append, readParams_cons_of_expected (expected first List.mem_cons_self)]
      exact ih fun earlier mem => expected earlier (List.mem_cons_of_mem first mem)

theorem all_expected_or_unexpected (arguments : List String) :
    (∀ argument ∈ arguments, Expected argument) ∨
      ∃ before argument after error, arguments = before ++ argument :: after ∧
        (∀ earlier ∈ before, Expected earlier) ∧ Unexpected argument error := by
  induction arguments with
  | nil => exact Or.inl (by simp)
  | cons first rest ih =>
      rcases expected_or_unexpected first with expected | ⟨error, unexpected⟩
      · rcases ih with all | ⟨before, argument, after, error, rfl, good, unexpected⟩
        · exact Or.inl (List.forall_mem_cons.2 ⟨expected, all⟩)
        · exact Or.inr ⟨first :: before, argument, after, error, rfl,
            List.forall_mem_cons.2 ⟨expected, good⟩, unexpected⟩
      · exact Or.inr ⟨[], first, rest, error, rfl, by simp, unexpected⟩

/-- Parameters are none, or `--param` and then what is expected after it. -/
def WellPlaced (arguments : List String) : Prop :=
  arguments = [] ∨ ∃ rest, arguments = "--param" :: rest ∧ ∀ argument ∈ rest, Expected argument

/-- The first argument that does not belong among the parameters of a request. -/
inductive FirstUnexpected : List String → Error → Prop where
  /-- Nothing but `--param` may stand first. -/
  | first {argument : String} {rest : List String} (other : argument ≠ "--param") :
      FirstUnexpected (argument :: rest) (.unexpectedArgument argument)
  | later {before after : List String} {argument : String} {error : Error}
      (expected : ∀ earlier ∈ before, Expected earlier) (unexpected : Unexpected argument error) :
      FirstUnexpected ("--param" :: (before ++ argument :: after)) error

theorem paramsOf_of_wellPlaced (placed : WellPlaced arguments) :
    paramsOf arguments = .ok (.ofList (arguments.filterMap (Text.cut? '='))) := by
  rcases placed with rfl | ⟨rest, rfl, expected⟩
  · rfl
  · rw [paramsOf, readParams, if_pos rfl, readParams_of_expected expected,
      List.filterMap_cons_none cut?_flag]
    rfl

theorem paramsOf_of_firstUnexpected (first : FirstUnexpected arguments error) :
    paramsOf arguments = .error error := by
  cases first with
  | first other => simp [paramsOf, readParams, other]
  | later expected unexpected =>
      rw [paramsOf, readParams, if_pos rfl, readParams_of_unexpected expected unexpected]

theorem wellPlaced_or_firstUnexpected (arguments : List String) :
    WellPlaced arguments ∨ ∃ error, FirstUnexpected arguments error := by
  rcases arguments with _ | ⟨first, rest⟩
  · exact Or.inl (Or.inl rfl)
  · by_cases word : first = "--param"
    · subst word
      rcases all_expected_or_unexpected rest with
        all | ⟨before, argument, after, error, rfl, good, unexpected⟩
      · exact Or.inl (Or.inr ⟨rest, rfl, all⟩)
      · exact Or.inr ⟨error, .later good unexpected⟩
    · exact Or.inr ⟨_, .first word⟩

/-- The parameters of a request are its pairs, and the values of a repeated name accumulate. -/
theorem paramsOf_eq_ok_iff :
    paramsOf arguments = .ok result ↔
      WellPlaced arguments ∧ result = .ofList (arguments.filterMap (Text.cut? '=')) := by
  constructor
  · intro parsed
    rcases wellPlaced_or_firstUnexpected arguments with placed | ⟨error, first⟩
    · rw [paramsOf_of_wellPlaced placed, Except.ok.injEq] at parsed
      exact ⟨placed, parsed.symm⟩
    · rw [paramsOf_of_firstUnexpected first] at parsed
      cases parsed
  · rintro ⟨placed, rfl⟩
    exact paramsOf_of_wellPlaced placed

/-- The first argument that does not belong there is blamed. -/
theorem paramsOf_eq_error_iff :
    paramsOf arguments = .error error ↔ FirstUnexpected arguments error := by
  constructor
  · intro refused
    rcases wellPlaced_or_firstUnexpected arguments with placed | ⟨other, first⟩
    · rw [paramsOf_of_wellPlaced placed] at refused
      cases refused
    · rw [paramsOf_of_firstUnexpected first, Except.error.injEq] at refused
      rw [← refused]
      exact first
  · exact paramsOf_of_firstUnexpected

end ParamRules.CommandLine
