import ParamRules.Proofs.Rule.Decision
import ParamRules.Proofs.RuleSet.Evaluation

/-!
# When rules that were read fail

The only way in which rules fail on a source is that a bound is met that is not an integer. A rule
set fails on some request exactly when one of its rules has such a bound and no invariant entry
(`exists_request_error_iff`), and a request with a single parameter is then enough.
-/

namespace ParamRules.RuleSet

variable {rules : RuleSet} {source : Source}

theorem exists_badBound_of_evaluate_error {failure : Failure}
    (refused : (rules.evaluate source).result = .error failure) :
    ∃ param rule entry, rules.find? param = some rule ∧ ¬rule.HasInvariant ∧
      entry ∈ rule.entries ∧ entry.condition.HasBadBound ∧
      failure = .invalidThreshold param entry.text := by
  rcases evaluate_eq_error_iff.1 refused with ⟨param, rule, found, fails, _⟩
  rw [Rule.effect_eq_error_iff] at fails
  rcases Rule.exists_badBound_of_decision_error fails with ⟨noInvariant, entry, mem, bad, blamed⟩
  exact ⟨param, rule, entry, found, noInvariant, mem, bad, blamed⟩

/-- A request with a single parameter, an outsider for the rule, is enough to meet a bad bound. -/
theorem exists_request_error_of_badBound {param : String} {rule : Rule}
    (found : rules.find? param = some rule) (noInvariant : ¬rule.HasInvariant)
    (badBound : rule.HasBadBound) :
    ∃ params failure, (rules.evaluate (.request params)).result = .error failure := by
  let params : Params := .ofList [(param, Rule.outsider rule.entries)]
  have present : (Source.request params).first? param = some (Rule.outsider rule.entries) := by
    change (((∅ : Params).values.alter param _).find? param).map Values.first = _
    rw [SortedMap.find?_alter, if_pos rfl]
    rfl
  rcases rule.exists_decision_outsider_error noInvariant badBound with ⟨failure, fails⟩
  refine ⟨params, exists_evaluate_error_iff.2 ⟨param, rule, failure, found, ?_⟩⟩
  rw [present, Rule.effect_eq_error_iff]
  exact fails

theorem exists_request_error_iff :
    (∃ params failure, (rules.evaluate (.request params)).result = .error failure) ↔
      ∃ param rule, rules.find? param = some rule ∧ ¬rule.HasInvariant ∧ rule.HasBadBound := by
  constructor
  · rintro ⟨params, failure, refused⟩
    rcases exists_badBound_of_evaluate_error refused with
      ⟨param, rule, entry, found, noInvariant, mem, bad, _⟩
    exact ⟨param, rule, found, noInvariant, entry, mem, bad⟩
  · rintro ⟨param, rule, found, noInvariant, badBound⟩
    exact exists_request_error_of_badBound found noInvariant badBound

theorem forall_evaluates_iff :
    (∀ source, ∃ overlay, (rules.evaluate source).result = .ok overlay) ↔
      ∀ param rule, rules.find? param = some rule → rule.HasBadBound → rule.HasInvariant := by
  constructor
  · intro succeeds param rule found badBound
    by_contra noInvariant
    rcases exists_request_error_of_badBound found noInvariant badBound with
      ⟨params, failure, refused⟩
    rcases succeeds (.request params) with ⟨overlay, evaluated⟩
    rw [refused] at evaluated
    cases evaluated
  · intro guarded source
    rcases Run.ok_or_error (rules.evaluate source) with evaluated | ⟨failure, refused⟩
    · exact evaluated
    · rcases exists_badBound_of_evaluate_error refused with
        ⟨param, rule, entry, found, noInvariant, mem, bad, _⟩
      exact absurd (guarded param rule found ⟨entry, mem, bad⟩) noInvariant

theorem concernsRule_of_evaluate_error {failure : Failure}
    (refused : (rules.evaluate source).result = .error failure) : failure.concernsRule = true := by
  rcases exists_badBound_of_evaluate_error refused with ⟨_, _, _, _, _, _, _, rfl⟩
  rfl

end ParamRules.RuleSet
