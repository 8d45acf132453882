import ParamRules.Proofs.Request.Layers
import ParamRules.Proofs.Request.Source
import ParamRules.Proofs.RuleSet.Evaluation

/-!
# Parameters are evaluated apart

The rule of a parameter sees the first value of that parameter and nothing else. A rule set
therefore fails with the failure of its least parameter whose own rule fails, and otherwise collects
what each rule gives by itself. Rule sets that are about different parameters can be evaluated
together, or one after the other in either order, each on the parameters that the other has left
(`evaluates_parameters_apart`).
-/

namespace ParamRules

/-- No name has a replacement in both overlays. -/
def Overlay.Disjoint (left right : Overlay) : Prop :=
  ∀ name, left.find? name = none ∨ right.find? name = none

namespace Source

variable {left right : Overlay}

theorem alike_layered_union (left right : Overlay) (source : Source) :
    (layered (.overlay right) (layered (.overlay left) source)).Alike
      (layered (.overlay (left ∪ right)) source) := by
  apply alike_of_values?
  intro name
  simp only [values?, Overlay.find?_union, Option.map_or, Option.or_assoc]

theorem alike_layered_comm (disjoint : left.Disjoint right) (source : Source) :
    (layered (.overlay right) (layered (.overlay left) source)).Alike
      (layered (.overlay left) (layered (.overlay right) source)) := by
  apply alike_of_values?
  intro name
  simp only [values?]
  rcases disjoint name with absent | absent
  · simp [absent]
  · simp [absent]

end Source

namespace RuleSet

variable {left right : RuleSet} {source : Source} {leftOverlay rightOverlay : Overlay}

/-- No parameter has a rule in both rule sets. -/
def Disjoint (left right : RuleSet) : Prop :=
  ∀ param, left.find? param = none ∨ right.find? param = none

theorem Disjoint.symm (disjoint : left.Disjoint right) : right.Disjoint left :=
  fun param => (disjoint param).symm

theorem Disjoint.find?_overlay (disjoint : left.Disjoint right)
    (evaluated : (left.evaluate source).result = .ok leftOverlay) {param : String} {rule : Rule}
    (found : right.find? param = some rule) : leftOverlay.find? param = none := by
  rcases disjoint param with unruled | absent
  · exact find?_eq_none_of_evaluate evaluated unruled
  · rw [absent] at found
    cases found

theorem Disjoint.overlays (disjoint : left.Disjoint right)
    (leftEvaluated : (left.evaluate source).result = .ok leftOverlay)
    (rightEvaluated : (right.evaluate source).result = .ok rightOverlay) :
    leftOverlay.Disjoint rightOverlay := by
  intro name
  rcases disjoint name with unruled | unruled
  · exact Or.inl (find?_eq_none_of_evaluate leftEvaluated unruled)
  · exact Or.inr (find?_eq_none_of_evaluate rightEvaluated unruled)

/-- What one rule set replaces is not looked at by another one about other parameters. -/
theorem Disjoint.evaluate_layered (disjoint : left.Disjoint right)
    (evaluated : (left.evaluate source).result = .ok leftOverlay) :
    right.evaluate (.layered (.overlay leftOverlay) source) = right.evaluate source := by
  apply evaluate_congr
  intro param rule found
  rw [Source.first?_overlay_layered, disjoint.find?_overlay evaluated found, Option.none_or]

theorem Disjoint.evaluate_union (disjoint : left.Disjoint right)
    (leftEvaluated : (left.evaluate source).result = .ok leftOverlay)
    (rightEvaluated : (right.evaluate source).result = .ok rightOverlay) :
    ((left ∪ right).evaluate source).result = .ok (leftOverlay ∪ rightOverlay) := by
  rw [evaluate_eq_ok_iff]
  constructor
  · intro param rule found
    rw [find?_union, Option.or_eq_some_iff] at found
    rw [Overlay.find?_union]
    rcases found with inRight | ⟨absent, inLeft⟩
    · rw [disjoint.find?_overlay leftEvaluated inRight, Option.or_none]
      exact effect_of_evaluate rightEvaluated inRight
    · rw [find?_eq_none_of_evaluate rightEvaluated absent, Option.none_or]
      exact effect_of_evaluate leftEvaluated inLeft
  · intro param unruled
    rw [find?_union, Option.or_eq_none_iff] at unruled
    rw [Overlay.find?_union, find?_eq_none_of_evaluate rightEvaluated unruled.1,
      find?_eq_none_of_evaluate leftEvaluated unruled.2, Option.none_or]

/-- A rule set fails exactly when a rule of it fails by itself, with the failure of the least such
parameter, and otherwise replaces each parameter by what its rule gives by itself. Rule sets about
different parameters do not see each other's replacements, whichever is evaluated first. -/
theorem evaluates_parameters_apart :
    (∀ (rules : RuleSet) (source : Source),
      ((∃ failure, (rules.evaluate source).result = .error failure) ↔
        ∃ param rule failure, rules.find? param = some rule ∧
          rule.effect param (source.first? param) = .error failure) ∧
      (∀ failure, (rules.evaluate source).result = .error failure ↔
        ∃ param rule, rules.find? param = some rule ∧
          rule.effect param (source.first? param) = .error failure ∧
          ∀ earlier other, earlier < param → rules.find? earlier = some other →
            ∃ replacement, other.effect earlier (source.first? earlier) = .ok replacement) ∧
      ∀ overlay, (rules.evaluate source).result = .ok overlay → ∀ param value,
        overlay.find? param = some value ↔ ∃ rule, rules.find? param = some rule ∧
          rule.effect param (source.first? param) = .ok (some value)) ∧
    ∀ (left right : RuleSet) (source : Source) (leftOverlay rightOverlay : Overlay),
      left.Disjoint right → (left.evaluate source).result = .ok leftOverlay →
      (right.evaluate source).result = .ok rightOverlay →
      ((left ∪ right).evaluate source).result = .ok (leftOverlay ∪ rightOverlay) ∧
      (right.evaluate (.layered (.overlay leftOverlay) source)).result = .ok rightOverlay ∧
      (left.evaluate (.layered (.overlay rightOverlay) source)).result = .ok leftOverlay ∧
      (Source.layered (.overlay rightOverlay) (.layered (.overlay leftOverlay) source)).Alike
        (.layered (.overlay leftOverlay) (.layered (.overlay rightOverlay) source)) ∧
      (Source.layered (.overlay rightOverlay) (.layered (.overlay leftOverlay) source)).Alike
        (.layered (.overlay (leftOverlay ∪ rightOverlay)) source) := by
  constructor
  · intro rules source
    refine ⟨exists_evaluate_error_iff, fun failure => evaluate_eq_error_iff, ?_⟩
    intro overlay evaluated param value
    exact find?_eq_some_iff_of_evaluate evaluated
  · intro left right source leftOverlay rightOverlay disjoint leftEvaluated rightEvaluated
    refine ⟨disjoint.evaluate_union leftEvaluated rightEvaluated, ?_, ?_, ?_, ?_⟩
    · rw [disjoint.evaluate_layered leftEvaluated, rightEvaluated]
    · rw [disjoint.symm.evaluate_layered rightEvaluated, leftEvaluated]
    · exact Source.alike_layered_comm (disjoint.overlays leftEvaluated rightEvaluated) source
    · exact Source.alike_layered_union leftOverlay rightOverlay source

/-- The cap on `rows` and the default of `start` are evaluated together as they are one after the
other, and the cap is what its own rule gives. -/
theorem evaluates_parameters_apart_of_rows :
    (∃ rule, (ofList [("rows", .ofEntries [.ofKey ">100" "100"])]).find? "rows" = some rule ∧
        rule.effect "rows" (some "500") = .ok (some "100")) ∧
      ((ofList [("rows", .ofEntries [.ofKey ">100" "100"])] ∪
          ofList [("start", .ofEntries [.ofKey "default" "0"])]).evaluate
            (.request (.ofList [("rows", "500")]))).result =
        .ok (.ofList [("rows", "100")] ∪ .ofList [("start", "0")]) ∧
      ((ofList [("start", .ofEntries [.ofKey "default" "0"])]).evaluate
          (.layered (.overlay (.ofList [("rows", "100")]))
            (.request (.ofList [("rows", "500")])))).result = .ok (.ofList [("start", "0")]) := by
  let cap : RuleSet := ofList [("rows", .ofEntries [.ofKey ">100" "100"])]
  let start : RuleSet := ofList [("start", .ofEntries [.ofKey "default" "0"])]
  let request : Source := .request (.ofList [("rows", "500")])
  have capped : (cap.evaluate request).result = .ok (.ofList [("rows", "100")]) := by cbv
  have started : (start.evaluate request).result = .ok (.ofList [("start", "0")]) := by cbv
  have disjoint : cap.Disjoint start := by
    intro param
    by_cases same : param = "rows"
    · exact Or.inr (by simp [start, find?_ofList, List.lookup_eq_none_iff, same])
    · exact Or.inl (by simp [cap, find?_ofList, List.lookup_eq_none_iff, same])
  have apart := evaluates_parameters_apart.2 cap start request _ _ disjoint capped started
  have own := (evaluates_parameters_apart.1 cap request).2.2 _ capped "rows" "100"
  exact ⟨own.1 (by cbv), apart.1, apart.2.1⟩

end RuleSet

end ParamRules
