import ParamRules.Proofs.Request.Layers
import ParamRules.Proofs.Request.Params
import ParamRules.Proofs.Text.Bytes

/-!
# Building the parameters of a request

Parameters are collected from a list of pairs, or pairs are added one by one, or both (`Built`).
However that is mixed, the parameters are the only ones that `Hold` the pairs: for each name exactly
the values that were paired with it, in order of arrival. Pairs of different names are independent
of one another (`built_eq_iff`).
-/

namespace ParamRules

theorem Source.getD_all?_request (params : Params) (name : String) :
    ((request params).all? name).getD [] = params.valuesOf name := by
  rw [all?, Params.valuesOf]
  cases params.values.find? name <;> rfl

theorem Source.all?_request (params : Params) (name : String) :
    (request params).all? name =
      if params.valuesOf name = [] then none else some (params.valuesOf name) := by
  rw [← getD_all?_request]
  exact all?_eq_ite_getD (request params) name

theorem Source.first?_request (params : Params) (name : String) :
    (request params).first? name = (params.valuesOf name).head? := by
  rw [first?, Params.valuesOf]
  cases params.values.find? name <;> rfl

namespace Params

/-- The parameters that can be built, with the pairs that were given on the way. -/
inductive Built : List (String × String) → Params → Prop where
  | empty : Built [] ∅
  | collect (pairs : List (String × String)) : Built pairs (.ofList pairs)
  | add {given : List (String × String)} {params : Params} (built : Built given params)
      (name value : String) : Built (given ++ [(name, value)]) (params.add name value)

/-- Parameters hold some pairs if each name has the values that are paired with it, first to last,
and none other. -/
structure Hold (params : Params) (given : List (String × String)) : Prop where
  alls : ∀ name, (Source.request params).all? name =
    if paired given name = [] then none else some (paired given name)
  firsts : ∀ name, (Source.request params).first? name = (paired given name).head?
  names : ∀ name, name ∈ (Source.request params).names ↔ ∃ value, (name, value) ∈ given
  increasing : (Source.request params).names.Pairwise fun earlier later =>
    Text.bytes earlier < Text.bytes later
  size : params.size = (given.map Prod.fst).toFinset.card

variable {given left right : List (String × String)} {params leftParams rightParams : Params}

theorem mem_paired_iff {name value : String} :
    value ∈ paired given name ↔ (name, value) ∈ given := by
  simp [paired]

theorem mem_names_ofList_iff {name : String} :
    name ∈ (Source.request (.ofList given)).names ↔ ∃ value, (name, value) ∈ given := by
  rw [Source.mem_names_iff_all?, Source.getD_all?_request, valuesOf_ofList]
  constructor
  · intro nonempty
    rcases List.exists_mem_of_ne_nil _ nonempty with ⟨value, mem⟩
    exact ⟨value, mem_paired_iff.1 mem⟩
  · rintro ⟨value, mem⟩
    exact List.ne_nil_of_mem (mem_paired_iff.2 mem)

theorem increasing_names (params : Params) :
    (Source.request params).names.Pairwise fun earlier later =>
      Text.bytes earlier < Text.bytes later := by
  apply List.pairwise_map.2
  apply params.values.increasing.imp
  intro earlier later less
  exact Text.lt_iff_bytes_lt.1 less

theorem size_ofList (given : List (String × String)) :
    (ofList given).size = (given.map Prod.fst).toFinset.card := by
  have distinct := (Source.request (.ofList given)).nodup_names
  have counted : (ofList given).size = (Source.request (.ofList given)).names.length :=
    (List.length_map Prod.fst).symm
  rw [counted, ← List.toFinset_card_of_nodup distinct]
  congr 1
  ext name
  simp [mem_names_ofList_iff]

theorem hold_ofList (given : List (String × String)) : (ofList given).Hold given where
  alls := by
    intro name
    rw [Source.all?_request, valuesOf_ofList]
  firsts := by
    intro name
    rw [Source.first?_request, valuesOf_ofList]
  names := fun _ => mem_names_ofList_iff
  increasing := increasing_names _
  size := size_ofList given

theorem ext_valuesOf (agree : ∀ name, leftParams.valuesOf name = rightParams.valuesOf name) :
    leftParams = rightParams := by
  ext1
  apply SortedMap.ext_find?
  intro name
  have same := agree name
  simp only [valuesOf] at same
  -- Values are never empty, so the list tells whether there are any and which.
  cases leftFound : leftParams.values.find? name with
  | none =>
      cases rightFound : rightParams.values.find? name with
      | none => rfl
      | some present => simp [leftFound, rightFound, Values.toList] at same
  | some values =>
      cases rightFound : rightParams.values.find? name with
      | none => simp [leftFound, rightFound, Values.toList] at same
      | some present =>
          simp only [leftFound, rightFound, Option.elim_some, Values.toList, List.cons.injEq]
            at same
          rcases values with ⟨first, rest⟩
          rcases same with ⟨rfl, rfl⟩
          rfl

theorem Hold.valuesOf_eq (hold : params.Hold given) (name : String) :
    params.valuesOf name = paired given name := by
  rw [← Source.getD_all?_request, hold.alls]
  split
  · rename_i unpaired
    exact unpaired.symm
  · rfl

theorem ofList_append (front back : List (String × String)) :
    ofList (front ++ back) =
      back.foldl (fun params pair => params.add pair.1 pair.2) (ofList front) :=
  List.foldl_append

theorem Built.eq_ofList (built : Built given params) : params = ofList given := by
  induction built with
  | empty => rfl
  | collect pairs => rfl
  | add _ name value ih => rw [ofList_append, ← ih, List.foldl_cons, List.foldl_nil]

theorem built_iff_hold : Built given params ↔ params.Hold given := by
  constructor
  · intro built
    rw [built.eq_ofList]
    exact hold_ofList given
  · intro hold
    have equal : params = ofList given := by
      apply ext_valuesOf
      intro name
      rw [hold.valuesOf_eq, valuesOf_ofList]
    rw [equal]
    exact .collect given

theorem built_eq_iff (leftBuilt : Built left leftParams) (rightBuilt : Built right rightParams) :
    leftParams = rightParams ↔ ∀ name, paired left name = paired right name := by
  have leftHold := built_iff_hold.1 leftBuilt
  have rightHold := built_iff_hold.1 rightBuilt
  constructor
  · intro same name
    rw [← leftHold.valuesOf_eq, ← rightHold.valuesOf_eq, same]
  · intro same
    apply ext_valuesOf
    intro name
    rw [leftHold.valuesOf_eq, rightHold.valuesOf_eq, same]

theorem paired_swap {first second : String × String} (different : first.1 ≠ second.1)
    (front back : List (String × String)) (name : String) :
    paired (front ++ first :: second :: back) name =
      paired (front ++ second :: first :: back) name := by
  by_cases isFirst : first.1 = name
  · have notSecond : second.1 ≠ name := by
      rw [← isFirst]
      exact different.symm
    simp [paired, isFirst, notSecond]
  · simp [paired, List.filter_cons, isFirst]

/-- Parameters hold exactly the pairs that they were built from, and are equal when they were built
from the same values for each name. So pairs of different names may change places. -/
theorem parameters_hold_pairs :
    (∀ given params, Built given params ↔ params.Hold given) ∧
    (∀ left right leftParams rightParams, Built left leftParams → Built right rightParams →
      (leftParams = rightParams ↔ ∀ name, paired left name = paired right name)) ∧
    ∀ (front back : List (String × String)) (first second : String × String),
      first.1 ≠ second.1 →
      ofList (front ++ first :: second :: back) = ofList (front ++ second :: first :: back) := by
  refine ⟨fun _ _ => built_iff_hold, ?_, ?_⟩
  · intro left right leftParams rightParams leftBuilt rightBuilt
    exact built_eq_iff leftBuilt rightBuilt
  · intro front back first second different
    rw [built_eq_iff (.collect _) (.collect _)]
    exact paired_swap different front back

/-- A value added last stands behind the collected ones of its name. It may come before a value of
another name, and not before one of the same name. -/
theorem parameters_hold_pairs_of_rows :
    ((ofList [("fq", "a"), ("rows", "1")]).add "fq" "b").Hold
        [("fq", "a"), ("rows", "1"), ("fq", "b")] ∧
      ofList ([("fq", "a")] ++ ("rows", "1") :: [("fq", "b")]) =
        ofList ([("fq", "a")] ++ ("fq", "b") :: [("rows", "1")]) ∧
      ofList [("fq", "a"), ("fq", "b")] ≠ ofList [("fq", "b"), ("fq", "a")] := by
  have built : Built [("fq", "a"), ("rows", "1"), ("fq", "b")]
      ((ofList [("fq", "a"), ("rows", "1")]).add "fq" "b") :=
    .add (.collect [("fq", "a"), ("rows", "1")]) "fq" "b"
  refine ⟨(parameters_hold_pairs.1 _ _).1 built, ?_, ?_⟩
  · apply parameters_hold_pairs.2.2
    decide
  · intro same
    have values := (parameters_hold_pairs.2.1 _ _ _ _ (.collect _) (.collect _)).1 same "fq"
    revert values
    decide

end Params

end ParamRules
