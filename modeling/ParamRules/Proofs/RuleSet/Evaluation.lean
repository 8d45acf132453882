import ParamRules.Proofs.Request.Overlay
import ParamRules.Proofs.RuleSet.Basic
import ParamRules.Proofs.Run
import ParamRules.RuleSet.Evaluation

/-!
# What the rules of a set give for a source

Evaluating a rule set takes the steps of its trace and keeps the replacements (`evaluate_eq_trace`).
The rules of different parameters do not see each other: each has its own effect on the first value
of its own parameter (`Rule.effect`), the overlay holds the effects of all rules
(`evaluate_eq_ok_iff`), and a failure is the one of the least parameter whose rule fails
(`evaluate_eq_error_iff`).
-/

namespace ParamRules

/-- The replacement that a rule gives for its parameter, if it fires, or its failure. -/
def Rule.effect (rule : Rule) (param : String) (original : Option String) :
    Except Failure (Option String) :=
  (rule.decision param original).result.map fun decision => decision.outcome.replacement?

theorem Rule.effect_eq_ok_iff {rule : Rule} {param : String}
    {original replacement : Option String} :
    rule.effect param original = .ok replacement ↔
      ∃ decision, (rule.decision param original).result = .ok decision ∧
        decision.outcome.replacement? = replacement := by
  rw [effect, Run.map_eq_ok_iff]

theorem Rule.effect_eq_error_iff {rule : Rule} {param : String} {original : Option String}
    {failure : Failure} :
    rule.effect param original = .error failure ↔
      (rule.decision param original).result = .error failure := by
  rw [effect, Run.map_eq_error_iff]

/-- The parameter of a step and its new value, if the rule fired. -/
def Step.replacement? (step : Step) : Option (String × String) :=
  step.decision.outcome.replacement?.map fun value => (step.param, value)

theorem Step.replacement?_eq_some_iff {step : Step} {param value : String} :
    step.replacement? = some (param, value) ↔
      step.param = param ∧ step.decision.outcome.replacement? = some value := by
  simp only [replacement?, Option.map_eq_some_iff, Prod.mk.injEq]
  constructor
  · rintro ⟨_, fires, sameParam, rfl⟩
    exact ⟨sameParam, fires⟩
  · rintro ⟨sameParam, fires⟩
    exact ⟨value, fires, sameParam, rfl⟩

namespace RuleSet

variable {rules : RuleSet} {source : Source} {overlay : Overlay} {failure : Failure}

/-- What the rule for one parameter decides, without what becomes of it. -/
def takeStep (source : Source) (entry : String × Rule) : Run Step :=
  entry.2.decision entry.1 (source.first? entry.1) >>= fun decision =>
    pure ⟨entry.1, source.first? entry.1, decision⟩

/-- Putting the replacement of a step, if there is one, into an overlay. -/
def addStep (overlay : Overlay) (step : Step) : Overlay :=
  match step.replacement? with
  | some pair => overlay.insert pair.1 pair.2
  | none => overlay

theorem foldl_addStep (steps : List Step) :
    steps.foldl addStep ∅ = Overlay.ofList (steps.filterMap Step.replacement?) := by
  simp only [Overlay.ofList, List.foldl_filterMap]
  congr 1
  funext overlay step
  cases replaced : step.replacement? with
  | none => simp [addStep, replaced]
  | some pair => simp [addStep, replaced]

theorem applyRule_eq (source : Source) (overlay : Overlay) (entry : String × Rule) :
    applyRule source overlay entry =
      takeStep source entry >>= fun step => pure (addStep overlay step) := by
  simp only [applyRule, takeStep, bind_assoc, pure_bind]
  congr 1
  funext decision
  cases fires : decision.outcome.replacement? with
  | none => simp [addStep, Step.replacement?, fires]
  | some value => simp [addStep, Step.replacement?, fires]

theorem traceRule_eq (source : Source) (trace : Trace) (entry : String × Rule) :
    traceRule source trace entry =
      takeStep source entry >>= fun step =>
        pure ⟨addStep trace.overlay step, trace.steps ++ [step]⟩ := by
  simp only [traceRule, takeStep, bind_assoc, pure_bind]
  congr 1
  funext decision
  cases fires : decision.outcome.replacement? with
  | none => simp [addStep, Step.replacement?, fires]
  | some value => simp [addStep, Step.replacement?, fires]

theorem evaluate_eq_mapM (rules : RuleSet) (source : Source) :
    rules.evaluate source = rules.toList.mapM (takeStep source) >>= fun steps =>
      pure (Overlay.ofList (steps.filterMap Step.replacement?)) := by
  simp only [evaluate, funext₂ (applyRule_eq source), ← foldl_addStep]
  exact Run.foldlM_eq_mapM addStep ∅

theorem foldl_trace (steps : List Step) (trace : Trace) :
    steps.foldl (fun trace step => ⟨addStep trace.overlay step, trace.steps ++ [step]⟩) trace =
      (⟨steps.foldl addStep trace.overlay, trace.steps ++ steps⟩ : Trace) := by
  induction steps generalizing trace with
  | nil => simp
  | cons step rest ih => simp [ih]

theorem trace_eq_mapM (rules : RuleSet) (source : Source) :
    rules.trace source = rules.toList.mapM (takeStep source) >>= fun steps =>
      pure ⟨Overlay.ofList (steps.filterMap Step.replacement?), steps⟩ := by
  have collected : ∀ steps : List Step,
      (⟨Overlay.ofList (steps.filterMap Step.replacement?), steps⟩ : Trace) =
        steps.foldl (fun trace step => ⟨addStep trace.overlay step, trace.steps ++ [step]⟩)
          ⟨∅, []⟩ := by
    intro steps
    rw [foldl_trace, foldl_addStep, List.nil_append]
  simp only [trace, funext₂ (traceRule_eq source), collected]
  exact Run.foldlM_eq_mapM _ _

/-- Evaluating is tracing and forgetting the steps; the two log the same events. -/
theorem evaluate_eq_trace (rules : RuleSet) (source : Source) :
    rules.evaluate source = rules.trace source >>= fun trace => pure trace.overlay := by
  simp only [evaluate_eq_mapM, trace_eq_mapM, bind_assoc, pure_bind]

theorem takeStep_eq_ok_iff {param : String} {rule : Rule} {step : Step} :
    (takeStep source (param, rule)).result = .ok step ↔
      step.param = param ∧ step.original = source.first? param ∧
        (rule.decision param (source.first? param)).result = .ok step.decision := by
  simp only [takeStep, Run.bind_eq_ok_iff, Run.result_pure, Except.ok.injEq]
  constructor
  · rintro ⟨decision, decided, rfl⟩
    exact ⟨rfl, rfl, decided⟩
  · rintro ⟨sameParam, sameOriginal, decided⟩
    subst sameParam
    exact ⟨step.decision, decided, by rw [← sameOriginal]⟩

theorem takeStep_eq_error_iff {param : String} {rule : Rule} :
    (takeStep source (param, rule)).result = .error failure ↔
      rule.effect param (source.first? param) = .error failure := by
  simp only [takeStep, Run.bind_eq_error_iff, Run.result_pure, reduceCtorEq, and_false,
    exists_false, or_false, Rule.effect_eq_error_iff]

theorem exists_takeStep_iff {param : String} {rule : Rule} {replacement : Option String} :
    (∃ step, (takeStep source (param, rule)).result = .ok step ∧
        step.decision.outcome.replacement? = replacement) ↔
      rule.effect param (source.first? param) = .ok replacement := by
  rw [Rule.effect_eq_ok_iff]
  constructor
  · rintro ⟨step, taken, replaced⟩
    exact ⟨step.decision, (takeStep_eq_ok_iff.1 taken).2.2, replaced⟩
  · rintro ⟨decision, decided, replaced⟩
    let step : Step := ⟨param, source.first? param, decision⟩
    exact ⟨step, takeStep_eq_ok_iff.2 ⟨rfl, rfl, decided⟩, replaced⟩

theorem map_param_eq {entries : List (String × Rule)} {steps : List Step}
    (correspond : List.Forall₂ (fun entry step => (takeStep source entry).result = .ok step)
      entries steps) :
    steps.map Step.param = entries.map Prod.fst := by
  induction correspond with
  | nil => rfl
  | cons taken _ ih => rw [List.map_cons, List.map_cons, ih, (takeStep_eq_ok_iff.1 taken).1]

/-- The steps that the rules of a set take, one for each rule in order. -/
def Takes (rules : RuleSet) (source : Source) (steps : List Step) : Prop :=
  List.Forall₂ (fun entry step => (takeStep source entry).result = .ok step) rules.toList steps

theorem increasing_steps {steps : List Step} (taken : rules.Takes source steps) :
    steps.Pairwise fun left right => left.param < right.param := by
  rw [← List.pairwise_map, map_param_eq taken, List.pairwise_map]
  exact rules.rules.increasing

theorem increasing_replacements {steps : List Step} (taken : rules.Takes source steps) :
    (steps.filterMap Step.replacement?).Pairwise fun left right => left.1 < right.1 := by
  apply (increasing_steps taken).filterMap
  intro left right less leftPair leftReplaced rightPair rightReplaced
  rw [← (Step.replacement?_eq_some_iff.1 leftReplaced).1,
    ← (Step.replacement?_eq_some_iff.1 rightReplaced).1]
  exact less

theorem Takes.exists_step {steps : List Step} (taken : rules.Takes source steps) {param : String}
    {rule : Rule} (found : rules.find? param = some rule) :
    ∃ step ∈ steps, (takeStep source (param, rule)).result = .ok step := by
  rcases List.append_of_mem (mem_toList_iff.2 found) with ⟨before, after, shape⟩
  rw [Takes, shape] at taken
  rcases Occurrence.forall₂_append_cons_left taken with ⟨_, step, _, rfl, _, takes, _⟩
  exact ⟨step, by simp, takes⟩

theorem mem_steps_iff {steps : List Step} (taken : rules.Takes source steps) {step : Step} :
    step ∈ steps ↔
      ∃ param rule, rules.find? param = some rule ∧
        (takeStep source (param, rule)).result = .ok step := by
  constructor
  · intro mem
    rcases List.append_of_mem mem with ⟨before, after, rfl⟩
    rcases Occurrence.forall₂_append_cons_left taken.flip with
      ⟨_, ⟨param, rule⟩, _, shape, _, takes, _⟩
    exact ⟨param, rule, mem_toList_iff.1 (by simp [shape]), takes⟩
  · rintro ⟨param, rule, found, takes⟩
    rcases taken.exists_step found with ⟨other, mem, again⟩
    rw [takes] at again
    cases again
    exact mem

theorem evaluate_eq_ok_iff_steps :
    (rules.evaluate source).result = .ok overlay ↔
      ∃ steps, rules.Takes source steps ∧
        Overlay.ofList (steps.filterMap Step.replacement?) = overlay := by
  simp only [evaluate_eq_mapM, Run.bind_eq_ok_iff, Run.mapM_eq_ok_iff, Run.result_pure,
    Except.ok.injEq]
  rfl

theorem evaluate_eq_error_iff_step :
    (rules.evaluate source).result = .error failure ↔
      ∃ before entry after, rules.toList = before ++ entry :: after ∧
        (∀ earlier ∈ before, ∃ step, (takeStep source earlier).result = .ok step) ∧
        (takeStep source entry).result = .error failure := by
  simp only [evaluate_eq_mapM, Run.bind_eq_error_iff, Run.mapM_eq_error_iff,
    Run.result_pure, reduceCtorEq, and_false, exists_false, or_false]

/-- The overlay replaces a parameter by what the rule of the parameter gives, if it fires. -/
theorem find?_eq_some_iff_of_evaluate (evaluated : (rules.evaluate source).result = .ok overlay)
    {param value : String} :
    overlay.find? param = some value ↔
      ∃ rule, rules.find? param = some rule ∧
        rule.effect param (source.first? param) = .ok (some value) := by
  rcases evaluate_eq_ok_iff_steps.1 evaluated with ⟨steps, taken, rfl⟩
  rw [← Overlay.mem_toList_iff, Overlay.toList_ofList (increasing_replacements taken),
    List.mem_filterMap]
  constructor
  · rintro ⟨step, mem, replaced⟩
    rcases Step.replacement?_eq_some_iff.1 replaced with ⟨rfl, fires⟩
    rcases (mem_steps_iff taken).1 mem with ⟨other, rule, found, takes⟩
    have sameParam : step.param = other := (takeStep_eq_ok_iff.1 takes).1
    subst sameParam
    exact ⟨rule, found, exists_takeStep_iff.1 ⟨step, takes, fires⟩⟩
  · rintro ⟨rule, found, effect⟩
    rcases exists_takeStep_iff.2 effect with ⟨step, takes, fires⟩
    have sameParam : step.param = param := (takeStep_eq_ok_iff.1 takes).1
    exact ⟨step, (mem_steps_iff taken).2 ⟨param, rule, found, takes⟩,
      Step.replacement?_eq_some_iff.2 ⟨sameParam, fires⟩⟩

theorem exists_evaluate_iff :
    (∃ overlay, (rules.evaluate source).result = .ok overlay) ↔
      ∀ param rule, rules.find? param = some rule →
        ∃ replacement, rule.effect param (source.first? param) = .ok replacement := by
  constructor
  · rintro ⟨overlay, evaluated⟩ param rule found
    rcases evaluate_eq_ok_iff_steps.1 evaluated with ⟨steps, taken, _⟩
    rcases taken.exists_step found with ⟨step, _, takes⟩
    exact ⟨_, exists_takeStep_iff.1 ⟨step, takes, rfl⟩⟩
  · intro succeed
    rcases Run.ok_or_error (rules.evaluate source) with evaluated | ⟨failure, refused⟩
    · exact evaluated
    · rcases evaluate_eq_error_iff_step.1 refused with
        ⟨before, ⟨param, rule⟩, after, shape, _, fails⟩
      rcases succeed param rule (mem_toList_iff.1 (by simp [shape])) with ⟨replacement, effect⟩
      rw [takeStep_eq_error_iff.1 fails] at effect
      cases effect

theorem exists_evaluate_error_iff :
    (∃ failure, (rules.evaluate source).result = .error failure) ↔
      ∃ param rule failure, rules.find? param = some rule ∧
        rule.effect param (source.first? param) = .error failure := by
  constructor
  · rintro ⟨failure, refused⟩
    rcases evaluate_eq_error_iff_step.1 refused with ⟨before, ⟨param, rule⟩, after, shape, _, fails⟩
    exact ⟨param, rule, failure, mem_toList_iff.1 (by simp [shape]), takeStep_eq_error_iff.1 fails⟩
  · rintro ⟨param, rule, failure, found, fails⟩
    rcases Run.ok_or_error (rules.evaluate source) with evaluated | refused
    · rcases exists_evaluate_iff.1 evaluated param rule found with ⟨replacement, effect⟩
      rw [fails] at effect
      cases effect
    · exact refused

/-- Only the first values of the parameters that have a rule matter. -/
theorem evaluate_congr {other : Source}
    (same : ∀ param rule, rules.find? param = some rule →
      source.first? param = other.first? param) :
    rules.evaluate source = rules.evaluate other := by
  have sameSteps : rules.toList.mapM (takeStep source) = rules.toList.mapM (takeStep other) := by
    apply Attempt.mapM_congr
    rintro ⟨param, rule⟩ mem
    simp only [takeStep, same param rule (mem_toList_iff.1 mem)]
  simp only [evaluate_eq_mapM, sameSteps]

theorem effect_of_evaluate (evaluated : (rules.evaluate source).result = .ok overlay)
    {param : String} {rule : Rule} (found : rules.find? param = some rule) :
    rule.effect param (source.first? param) = .ok (overlay.find? param) := by
  rcases exists_evaluate_iff.1 ⟨overlay, evaluated⟩ param rule found with ⟨replacement, effect⟩
  have same : overlay.find? param = replacement := by
    apply Option.ext
    intro value
    rw [find?_eq_some_iff_of_evaluate evaluated]
    simp [found, effect]
  rw [effect, same]

theorem find?_eq_none_of_evaluate (evaluated : (rules.evaluate source).result = .ok overlay)
    {param : String} (unruled : rules.find? param = none) : overlay.find? param = none := by
  apply Option.eq_none_iff_forall_ne_some.2
  intro value replaced
  rcases (find?_eq_some_iff_of_evaluate evaluated).1 replaced with ⟨rule, found, _⟩
  rw [unruled] at found
  cases found

/-- An overlay is the one of a rule set when it holds the effect of each rule and nothing else. -/
theorem evaluate_eq_ok_iff :
    (rules.evaluate source).result = .ok overlay ↔
      (∀ param rule, rules.find? param = some rule →
        rule.effect param (source.first? param) = .ok (overlay.find? param)) ∧
      ∀ param, rules.find? param = none → overlay.find? param = none := by
  constructor
  · intro evaluated
    exact ⟨fun _ _ found => effect_of_evaluate evaluated found,
      fun _ unruled => find?_eq_none_of_evaluate evaluated unruled⟩
  · rintro ⟨ruled, unruled⟩
    have succeed : ∀ param rule, rules.find? param = some rule →
        ∃ replacement, rule.effect param (source.first? param) = .ok replacement := by
      intro param rule found
      exact ⟨_, ruled param rule found⟩
    rcases exists_evaluate_iff.2 succeed with ⟨other, evaluated⟩
    have same : overlay = other := by
      apply Overlay.ext_find?
      intro param
      cases found : rules.find? param with
      | none => rw [unruled param found, find?_eq_none_of_evaluate evaluated found]
      | some rule =>
          have effect := ruled param rule found
          rw [effect_of_evaluate evaluated found, Except.ok.injEq] at effect
          exact effect.symm
    rw [same, evaluated]

/-- Evaluating fails with the failure of the least parameter whose rule fails. -/
theorem evaluate_eq_error_iff :
    (rules.evaluate source).result = .error failure ↔
      ∃ param rule, rules.find? param = some rule ∧
        rule.effect param (source.first? param) = .error failure ∧
        ∀ earlier other, earlier < param → rules.find? earlier = some other →
          ∃ replacement, other.effect earlier (source.first? earlier) = .ok replacement := by
  rw [evaluate_eq_error_iff_step]
  constructor
  · rintro ⟨before, ⟨param, rule⟩, after, shape, succeed, fails⟩
    refine ⟨param, rule, mem_toList_iff.1 (by simp [shape]), takeStep_eq_error_iff.1 fails, ?_⟩
    intro earlier other less found
    have mem : (earlier, other) ∈ before :=
      (SortedMap.mem_before_iff shape).2 ⟨mem_toList_iff.2 found, less⟩
    rcases succeed _ mem with ⟨step, taken⟩
    exact ⟨_, exists_takeStep_iff.1 ⟨step, taken, rfl⟩⟩
  · rintro ⟨param, rule, found, fails, succeed⟩
    rcases List.append_of_mem (mem_toList_iff.2 found) with ⟨before, after, shape⟩
    refine ⟨before, (param, rule), after, shape, ?_, takeStep_eq_error_iff.2 fails⟩
    rintro ⟨earlier, other⟩ mem
    rcases (SortedMap.mem_before_iff shape).1 mem with ⟨whole, less⟩
    rcases succeed earlier other less (mem_toList_iff.1 whole) with ⟨replacement, effect⟩
    rcases exists_takeStep_iff.2 effect with ⟨step, taken, _⟩
    exact ⟨step, taken⟩

end RuleSet

end ParamRules
