import ParamRules.Proofs.Rule.Decision
import ParamRules.Proofs.RuleSet.Evaluation

/-!
# A trace explains the evaluation

Tracing a rule set takes the same steps as evaluating it, so the two succeed together, with one
overlay, and fail together, with one failure (`trace_agrees_with_evaluation`). The steps of a trace
belong to the rules of the set one by one, and they are enough to rebuild the overlay and to find
the entry that decided (`Trace.Explains`).
-/

namespace ParamRules

/-- A trace says what each rule of a set decided about a source, and what came of it. -/
structure Trace.Explains (trace : Trace) (rules : RuleSet) (source : Source) : Prop where
  params : trace.steps.map Step.param = rules.toList.map Prod.fst
  increasing : trace.steps.Pairwise fun left right => left.param < right.param
  original : ∀ step ∈ trace.steps, step.original = source.first? step.param
  decided : ∀ step ∈ trace.steps, ∃ rule, rules.find? step.param = some rule ∧
    (rule.decision step.param step.original).result = .ok step.decision
  replaced : ∀ param value, (param, value) ∈ trace.overlay.toList ↔
    ∃ step ∈ trace.steps, step.param = param ∧ step.decision.outcome.fired = true ∧
      step.decision.outcome.replacement? = some value
  matched : ∀ step ∈ trace.steps, ∀ index entry, step.decision.outcome = .matched index entry →
    ∃ rule, rules.find? step.param = some rule ∧
      ∃ inRange : index < rule.entries.length, rule.entries[index] = entry
  ruled : ∀ param, (∃ step, trace.step? param = some step) ↔
    ∃ rule, rules.find? param = some rule
  found : ∀ param step, trace.step? param = some step ↔ step ∈ trace.steps ∧ step.param = param

namespace RuleSet

variable {rules : RuleSet} {source : Source} {trace : Trace} {failure : Failure}

theorem trace_eq_ok_iff :
    (rules.trace source).result = .ok trace ↔
      rules.Takes source trace.steps ∧
        trace.overlay = Overlay.ofList (trace.steps.filterMap Step.replacement?) := by
  simp only [trace_eq_mapM, Run.bind_eq_ok_iff, Run.mapM_eq_ok_iff, Run.result_pure,
    Except.ok.injEq]
  constructor
  · rintro ⟨steps, taken, rfl⟩
    exact ⟨taken, rfl⟩
  · rintro ⟨taken, rebuilt⟩
    exact ⟨trace.steps, taken, by rw [← rebuilt]⟩

theorem trace_eq_error_iff :
    (rules.trace source).result = .error failure ↔
      (rules.evaluate source).result = .error failure := by
  simp only [evaluate_eq_trace, Run.bind_eq_error_iff, Run.result_pure, reduceCtorEq, and_false,
    exists_false, or_false]

theorem evaluate_of_trace (traced : (rules.trace source).result = .ok trace) :
    (rules.evaluate source).result = .ok trace.overlay := by
  rw [evaluate_eq_trace, Run.bind_eq_ok_iff]
  exact ⟨trace, traced, rfl⟩

theorem nodup_params (taken : rules.Takes source trace.steps) :
    (trace.steps.map Step.param).Nodup := by
  rw [map_param_eq taken]
  exact rules.rules.nodup_keys

theorem step?_eq_some_iff (taken : rules.Takes source trace.steps) {param : String}
    {step : Step} :
    trace.step? param = some step ↔ step ∈ trace.steps ∧ step.param = param :=
  Occurrence.find?_eq_some_iff_of_nodup (nodup_params taken)

theorem exists_step?_iff (taken : rules.Takes source trace.steps) {param : String} :
    (∃ step, trace.step? param = some step) ↔ ∃ rule, rules.find? param = some rule := by
  simp only [step?_eq_some_iff taken, ← List.mem_map, map_param_eq taken]
  exact SortedMap.mem_keys_iff

theorem decision_of_mem_steps (taken : rules.Takes source trace.steps) {step : Step}
    (mem : step ∈ trace.steps) :
    step.original = source.first? step.param ∧ ∃ rule, rules.find? step.param = some rule ∧
      (rule.decision step.param step.original).result = .ok step.decision := by
  rcases (mem_steps_iff taken).1 mem with ⟨param, rule, found, takes⟩
  rcases takeStep_eq_ok_iff.1 takes with ⟨rfl, original, decided⟩
  rw [← original] at decided
  exact ⟨original, rule, found, decided⟩

theorem explains_of_trace (traced : (rules.trace source).result = .ok trace) :
    trace.Explains rules source := by
  rcases trace_eq_ok_iff.1 traced with ⟨taken, rebuilt⟩
  exact {
    params := map_param_eq taken
    increasing := increasing_steps taken
    original := fun step mem => (decision_of_mem_steps taken mem).1
    decided := fun step mem => (decision_of_mem_steps taken mem).2
    replaced := by
      intro param value
      rw [rebuilt, Overlay.toList_ofList (increasing_replacements taken), List.mem_filterMap]
      simp only [Step.replacement?_eq_some_iff, Outcome.fired]
      constructor
      · rintro ⟨step, mem, sameParam, replaced⟩
        exact ⟨step, mem, sameParam, by rw [replaced, Option.isSome_some], replaced⟩
      · rintro ⟨step, mem, sameParam, _, replaced⟩
        exact ⟨step, mem, sameParam, replaced⟩
    matched := by
      intro step mem index entry matched
      rcases (decision_of_mem_steps taken mem).2 with ⟨rule, found, decided⟩
      have stands := Rule.getElem?_of_decision_matched decided matched
      exact ⟨rule, found, List.getElem?_eq_some_iff.1 stands⟩
    ruled := fun param => exists_step?_iff taken
    found := fun param step => step?_eq_some_iff taken }

/-- Tracing fails exactly as evaluating does, and a trace holds the overlay of the evaluation and
explains it. -/
theorem trace_agrees_with_evaluation (rules : RuleSet) (source : Source) :
    (∀ failure, (rules.trace source).result = .error failure ↔
        (rules.evaluate source).result = .error failure) ∧
      ∀ trace, (rules.trace source).result = .ok trace →
        (rules.evaluate source).result = .ok trace.overlay ∧ trace.Explains rules source := by
  constructor
  · intro failure
    exact trace_eq_error_iff
  · intro trace traced
    exact ⟨evaluate_of_trace traced, explains_of_trace traced⟩

/-- The second entry of the rule for `rows` decides about a value that is no integer. -/
theorem trace_agrees_with_evaluation_of_rows :
    ((ofList [("rows", .ofEntries [.ofKey ">100" "100", .ofKey "all" "1000"]),
          ("start", .ofEntries [.ofKey "default" "0"])]).evaluate
        (.request (.ofList [("rows", "all")]))).result =
        .ok (.ofList [("rows", "1000"), ("start", "0")]) ∧
      ∃ rule, (ofList [("rows", .ofEntries [.ofKey ">100" "100", .ofKey "all" "1000"]),
          ("start", .ofEntries [.ofKey "default" "0"])]).find? "rows" = some rule ∧
        ∃ inRange : 1 < rule.entries.length, rule.entries[1] = .ofKey "all" "1000" := by
  let rules : RuleSet := ofList [("rows", .ofEntries [.ofKey ">100" "100", .ofKey "all" "1000"]),
    ("start", .ofEntries [.ofKey "default" "0"])]
  let request : Source := .request (.ofList [("rows", "all")])
  let rowsStep : Step := ⟨"rows", some "all", ⟨.matched 1 (.ofKey "all" "1000"), [0]⟩⟩
  let startStep : Step := ⟨"start", none, ⟨.default "0", []⟩⟩
  have traced : (rules.trace request).result =
      .ok ⟨.ofList [("rows", "1000"), ("start", "0")], [rowsStep, startStep]⟩ := by cbv
  rcases (trace_agrees_with_evaluation rules request).2 _ traced with ⟨evaluated, explains⟩
  exact ⟨evaluated, explains.matched rowsStep (by simp) 1 (.ofKey "all" "1000") rfl⟩

end RuleSet

end ParamRules
