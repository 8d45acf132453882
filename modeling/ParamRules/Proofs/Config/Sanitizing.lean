import ParamRules.Config.Basic
import ParamRules.Proofs.Request.Source
import ParamRules.Proofs.RuleSet.Evaluation
import ParamRules.Proofs.RuleSet.Reading

/-!
# What a host answers to a request

`Answer` says what a request must be answered under some rules, without reading or evaluating them.
When sanitizing is on, the answer is the one under the rules of the request followed by the
configured ones (`sanitize_meets_contract`). The last line about a parameter decides, so a request
cannot put a rule of its own in the place of a configured rule (`configured_rules_prevail`).
-/

namespace ParamRules

open Grammar

/-- The answer to a request under some rules. -/
inductive Answer (lines : List String) (request : Source) : Except Failure Sanitized → Prop where
  /-- The first line outside the language is blamed. -/
  | unreadable {failure : Failure} (fault : FirstFault lines failure) :
      Answer lines request (.error failure)
  /-- All lines are read, and the rule of the least parameter that has a failing rule is blamed. -/
  | failing {param : String} {rule : Rule} {failure : Failure}
      (good : ∀ line ∈ lines, WellFormed line) (inForce : InForce lines param rule)
      (fails : rule.effect param (request.first? param) = .error failure)
      (least : ∀ earlier other, earlier < param → InForce lines earlier other →
        ∃ replacement, other.effect earlier (request.first? earlier) = .ok replacement) :
      Answer lines request (.error failure)
  /-- All lines are read and no rule fails: the overlay holds the effect of each rule. -/
  | replaced {overlay : Overlay} (good : ∀ line ∈ lines, WellFormed line)
      (ruled : ∀ param rule, InForce lines param rule →
        rule.effect param (request.first? param) = .ok (overlay.find? param))
      (unruled : ∀ param, ¬Targets lines param → overlay.find? param = none) :
      Answer lines request (.ok ⟨overlay, request⟩)

theorem sanitizeWith_eq_ok_iff {lines : List String} {source : Source} {answer : Sanitized} :
    (sanitizeWith lines source).result = .ok answer ↔
      ∃ rules overlay, (RuleSet.read lines).result = .ok rules ∧
        (rules.evaluate source).result = .ok overlay ∧ answer = ⟨overlay, source⟩ := by
  simp only [sanitizeWith, Run.bind_eq_ok_iff, Run.result_pure, Except.ok.injEq]
  constructor
  · rintro ⟨rules, read, overlay, evaluated, rfl⟩
    exact ⟨rules, overlay, read, evaluated, rfl⟩
  · rintro ⟨rules, overlay, read, evaluated, rfl⟩
    exact ⟨rules, read, overlay, evaluated, rfl⟩

theorem sanitizeWith_eq_error_iff {lines : List String} {source : Source} {failure : Failure} :
    (sanitizeWith lines source).result = .error failure ↔
      (RuleSet.read lines).result = .error failure ∨
        ∃ rules, (RuleSet.read lines).result = .ok rules ∧
          (rules.evaluate source).result = .error failure := by
  simp only [sanitizeWith, Run.bind_eq_error_iff, Run.result_pure, reduceCtorEq, and_false,
    exists_false, or_false]

/-- Reading rules and evaluating them answers a request under them, and there is no other answer. -/
theorem sanitizeWith_eq_iff_answer {lines : List String} {request : Source}
    {result : Except Failure Sanitized} :
    (sanitizeWith lines request).result = result ↔ Answer lines request result := by
  constructor
  · rintro rfl
    cases made : (sanitizeWith lines request).result with
    | error failure =>
        rcases sanitizeWith_eq_error_iff.1 made with refused | ⟨rules, read, refused⟩
        · exact .unreadable (RuleSet.read_eq_error_iff.1 refused)
        · have good := RuleSet.exists_read_iff.1 ⟨rules, read⟩
          simp only [RuleSet.evaluate_eq_error_iff, RuleSet.find?_eq_some_iff_of_read read]
            at refused
          rcases refused with ⟨param, rule, inForce, fails, least⟩
          exact .failing good inForce fails least
    | ok answer =>
        rcases sanitizeWith_eq_ok_iff.1 made with ⟨rules, overlay, read, evaluated, rfl⟩
        have good := RuleSet.exists_read_iff.1 ⟨rules, read⟩
        simp only [RuleSet.evaluate_eq_ok_iff, RuleSet.find?_eq_some_iff_of_read read,
          RuleSet.find?_eq_none_iff_of_read read] at evaluated
        exact .replaced good evaluated.1 evaluated.2
  · intro answer
    cases answer with
    | unreadable fault =>
        exact sanitizeWith_eq_error_iff.2 (Or.inl (RuleSet.read_eq_error_iff.2 fault))
    | failing good inForce fails least =>
        rcases RuleSet.exists_read_iff.2 good with ⟨rules, read⟩
        refine sanitizeWith_eq_error_iff.2 (Or.inr ⟨rules, read, ?_⟩)
        simp only [RuleSet.evaluate_eq_error_iff, RuleSet.find?_eq_some_iff_of_read read]
        exact ⟨_, _, inForce, fails, least⟩
    | replaced good ruled unruled =>
        rcases RuleSet.exists_read_iff.2 good with ⟨rules, read⟩
        refine sanitizeWith_eq_ok_iff.2 ⟨rules, _, read, ?_, rfl⟩
        simp only [RuleSet.evaluate_eq_ok_iff, RuleSet.find?_eq_some_iff_of_read read,
          RuleSet.find?_eq_none_iff_of_read read]
        exact ⟨ruled, unruled⟩

namespace Config

variable {config : Config} {request : Source}

theorem invalidFlag_of_isOnFor_error {failure : Failure}
    (refused : config.isOnFor request = .error failure) :
    ∃ value, failure = .invalidFlag switchParam value := by
  rw [isOnFor] at refused
  split at refused
  · exact Source.flag_eq_error refused
  · cases refused

theorem result_sanitize_of_on (on : config.isOnFor request = .ok true) :
    (config.sanitize request).result =
      (sanitizeWith (config.rulesFor request) request).result := by
  simp only [sanitize, sanitizeWith, on, Run.result_ofExcept, Run.result_bind, Run.ok_bind,
    ↓reduceIte, Run.result_log]
  congr 1
  funext rules
  congr 1
  funext overlay
  split <;> simp [Except.map]

theorem result_sanitize_of_off (off : config.isOnFor request = .ok false) :
    (config.sanitize request).result = .ok ⟨∅, request⟩ := by
  simp [sanitize, off, Except.map]

theorem result_sanitize_of_error {failure : Failure}
    (refused : config.isOnFor request = .error failure) :
    (config.sanitize request).result = .error failure := by
  simp [sanitize, refused]

/-- A host that does not sanitize, or that a request tells not to, answers with the request as it
came. It refuses a request whose switch it does not understand, and then does not look at any rule.
In all other cases it gives the answer under the rules of the request and then its own. -/
theorem sanitize_meets_contract (config : Config) (request : Source) :
    ((config.enabled = false ∨
        ∃ value, request.first? switchParam = some value ∧ SwitchesOff value) →
      (config.sanitize request).result = .ok ⟨∅, request⟩) ∧
    (∀ value, config.enabled = true → request.first? switchParam = some value →
      ¬SwitchesOn value → ¬SwitchesOff value →
      (config.sanitize request).result = .error (.invalidFlag switchParam value)) ∧
    (config.enabled = true →
      (∀ value, request.first? switchParam = some value → SwitchesOn value) →
      ∀ result, (config.sanitize request).result = result ↔
        Answer ((request.all? ruleParam).getD [] ++ config.rules) request result) := by
  refine ⟨?_, ?_, ?_⟩
  · intro off
    apply result_sanitize_of_off
    simp only [isOnFor]
    split
    · rename_i enabled
      rcases off with disabled | ⟨value, present, off⟩
      · rw [enabled] at disabled
        cases disabled
      · exact Source.flag_eq_false_of_switchesOff present off
    · rfl
  · intro value enabled present notOn notOff
    apply result_sanitize_of_error
    simp only [isOnFor, enabled, ↓reduceIte]
    exact Source.flag_eq_error_of_neither present notOn notOff
  · intro enabled on result
    have isOn : config.isOnFor request = .ok true := by
      simp only [isOnFor, enabled, ↓reduceIte]
      exact Source.flag_eq_true_of_switchesOn on
    rw [result_sanitize_of_on isOn]
    exact sanitizeWith_eq_iff_answer

/-- A request that switches sanitizing off is not told of the line that cannot be read, and neither
is one with an unknown switch; a request without a switch is answered under its own rule for `start`
and the configured one for `rows`. -/
theorem sanitize_meets_contract_of_rows :
    (Config.sanitize { rules := ["rows"] }
          (.request (.ofList [("request_sanitizer", "OFF")]))).result =
        .ok ⟨∅, .request (.ofList [("request_sanitizer", "OFF")])⟩ ∧
      (Config.sanitize { rules := ["rows"] }
          (.request (.ofList [("request_sanitizer", "maybe")]))).result =
        .error (.invalidFlag "request_sanitizer" "maybe") ∧
      Answer ["rows=1", "start=default:0", "rows=>100:100"]
        (.request (.ofList
          [("rows", "500"), ("sanitize", "rows=1"), ("sanitize", "start=default:0")]))
        (.ok ⟨.ofList [("rows", "100"), ("start", "0")], .request (.ofList
          [("rows", "500"), ("sanitize", "rows=1"), ("sanitize", "start=default:0")])⟩) := by
  refine ⟨?_, ?_, ?_⟩
  · have off : SwitchesOff "OFF" := switchesOff_iff.2 (by decide)
    exact (sanitize_meets_contract _ _).1 (Or.inr ⟨"OFF", by cbv, off⟩)
  · have notOn : ¬SwitchesOn "maybe" := switchesOn_iff.not.2 (by decide)
    have notOff : ¬SwitchesOff "maybe" := switchesOff_iff.not.2 (by decide)
    exact (sanitize_meets_contract _ _).2.1 "maybe" rfl (by cbv) notOn notOff
  · let request : Source := .request (.ofList
      [("rows", "500"), ("sanitize", "rows=1"), ("sanitize", "start=default:0")])
    have noSwitch : ∀ value, request.first? switchParam = some value → SwitchesOn value := by
      intro value present
      have absent : request.first? switchParam = none := by cbv
      rw [absent] at present
      cases present
    have contract :=
      (sanitize_meets_contract { rules := ["rows=>100:100"] } request).2.2 rfl noSwitch
    have lines : (request.all? ruleParam).getD [] ++ ["rows=>100:100"] =
        ["rows=1", "start=default:0", "rows=>100:100"] := by cbv
    rw [lines] at contract
    exact (contract _).1 (by cbv)

theorem request_eq_of_answered {answer : Sanitized}
    (answered : (config.sanitize request).result = .ok answer) : answer.request = request := by
  cases state : config.isOnFor request with
  | error failure =>
      rw [result_sanitize_of_error state] at answered
      cases answered
  | ok on =>
      cases on with
      | false =>
          rw [result_sanitize_of_off state] at answered
          cases answered
          rfl
      | true =>
          rw [result_sanitize_of_on state, sanitizeWith_eq_ok_iff] at answered
          rcases answered with ⟨_, _, _, _, rfl⟩
          rfl

/-- The names of an overlay are parameters that some rule is about. -/
theorem plain_of_replaced {answer : Sanitized}
    {name value : String} (answered : (config.sanitize request).result = .ok answer)
    (replaced : answer.overlay.find? name = some value) : '=' ∉ name.toList := by
  cases state : config.isOnFor request with
  | error failure =>
      rw [result_sanitize_of_error state] at answered
      cases answered
  | ok on =>
      cases on with
      | false =>
          rw [result_sanitize_of_off state] at answered
          cases answered
          cases replaced
      | true =>
          rw [result_sanitize_of_on state, sanitizeWith_eq_iff_answer] at answered
          cases answered with
          | replaced good ruled unruled =>
              by_cases targeted : Targets (config.rulesFor request) name
              · rcases targeted with ⟨_, _, _, about⟩
                exact about.plain
              · rw [unruled name targeted] at replaced
                cases replaced

/-- When sanitizing is on, a configured rule decides about its parameter. -/
theorem effect_of_configured {answer : Sanitized} {name : String} {rule : Rule}
    (on : config.isOnFor request = .ok true)
    (answered : (config.sanitize request).result = .ok answer)
    (configured : InForce config.rules name rule) :
    rule.effect name (request.first? name) = .ok (answer.overlay.find? name) := by
  rw [result_sanitize_of_on on, sanitizeWith_eq_iff_answer] at answered
  cases answered with
  | replaced good ruled unruled => exact ruled name rule (configured.append_left _)

theorem wellFormed_of_answered {answer : Sanitized} (on : config.isOnFor request = .ok true)
    (answered : (config.sanitize request).result = .ok answer) :
    ∀ line ∈ config.rules, WellFormed line := by
  rw [result_sanitize_of_on on, sanitizeWith_eq_iff_answer] at answered
  cases answered with
  | replaced good _ _ =>
      intro line mem
      exact good line (by simp [rulesFor, mem])

/-- The configured rules alone are read and evaluated whenever a request is answered, since its own
rules can only add to them, and they give their parameters the same replacements. -/
theorem exists_configured_of_answered {answer : Sanitized}
    (on : config.isOnFor request = .ok true)
    (answered : (config.sanitize request).result = .ok answer) :
    ∃ rules overlay, (RuleSet.read config.rules).result = .ok rules ∧
      (rules.evaluate request).result = .ok overlay ∧
      ∀ name, Targets config.rules name → answer.overlay.find? name = overlay.find? name := by
  rcases RuleSet.exists_read_iff.2 (wellFormed_of_answered on answered) with ⟨rules, read⟩
  have effects : ∀ name rule, rules.find? name = some rule →
      rule.effect name (request.first? name) = .ok (answer.overlay.find? name) := by
    intro name rule found
    exact effect_of_configured on answered ((RuleSet.find?_eq_some_iff_of_read read).1 found)
  have succeed : ∀ name rule, rules.find? name = some rule →
      ∃ replacement, rule.effect name (request.first? name) = .ok replacement := by
    intro name rule found
    exact ⟨_, effects name rule found⟩
  rcases RuleSet.exists_evaluate_iff.2 succeed with ⟨overlay, evaluated⟩
  refine ⟨rules, overlay, read, evaluated, fun name targeted => ?_⟩
  cases found : rules.find? name with
  | none => exact absurd targeted ((RuleSet.find?_eq_none_iff_of_read read).1 found)
  | some rule =>
      have alone := RuleSet.effect_of_evaluate evaluated found
      rw [effects name rule found, Except.ok.injEq] at alone
      exact alone

/-- Requests with the same first value of a configured parameter go on with the same value of it. -/
theorem first?_view_eq_of_configured {other : Source} {answer otherAnswer : Sanitized}
    {name : String} (on : config.isOnFor request = .ok true)
    (otherOn : config.isOnFor other = .ok true)
    (answered : (config.sanitize request).result = .ok answer)
    (otherAnswered : (config.sanitize other).result = .ok otherAnswer)
    (targeted : Targets config.rules name) (same : request.first? name = other.first? name) :
    answer.view.first? name = otherAnswer.view.first? name := by
  rcases RuleSet.exists_inForce (wellFormed_of_answered on answered) targeted with
    ⟨rule, configured⟩
  have effect := effect_of_configured on answered configured
  have otherEffect := effect_of_configured otherOn otherAnswered configured
  rw [same, otherEffect, Except.ok.injEq] at effect
  simp only [Sanitized.view, Source.first?_overlay_layered, effect]
  rw [request_eq_of_answered answered, request_eq_of_answered otherAnswered, same]

/-- A request cannot weaken the configured rules. The rules that it brings change neither whether
the configured ones can be read and evaluated nor what they make of the parameters that they are
about, and of such a parameter only the first value of the request matters. -/
theorem configured_rules_prevail (config : Config) :
    (∀ request answer, config.isOnFor request = .ok true →
      (config.sanitize request).result = .ok answer →
      ∃ rules overlay, (RuleSet.read config.rules).result = .ok rules ∧
        (rules.evaluate request).result = .ok overlay ∧
        ∀ name, Targets config.rules name → answer.overlay.find? name = overlay.find? name) ∧
    ∀ request other answer otherAnswer name, config.isOnFor request = .ok true →
      config.isOnFor other = .ok true → (config.sanitize request).result = .ok answer →
      (config.sanitize other).result = .ok otherAnswer → Targets config.rules name →
      request.first? name = other.first? name →
      answer.view.first? name = otherAnswer.view.first? name := by
  constructor
  · intro request answer on answered
    exact exists_configured_of_answered on answered
  · intro request other answer otherAnswer name on otherOn answered otherAnswered targeted same
    exact first?_view_eq_of_configured on otherOn answered otherAnswered targeted same

/-- The configured cap on `rows` holds for a request that brings a rule of its own for `rows` as it
does for one that brings none. -/
theorem configured_rules_prevail_of_rows :
    (∃ rules overlay, (RuleSet.read ["rows=>100:100"]).result = .ok rules ∧
        (rules.evaluate (.request (.ofList
          [("rows", "500"), ("sanitize", "rows=invariant:900")]))).result = .ok overlay ∧
        (Overlay.ofList [("rows", "100")]).find? "rows" = overlay.find? "rows") ∧
      (Sanitized.mk (.ofList [("rows", "100")])
          (.request (.ofList [("rows", "500")]))).view.first? "rows" =
        (Sanitized.mk (.ofList [("rows", "100")]) (.request (.ofList
          [("rows", "500"), ("sanitize", "rows=invariant:900")]))).view.first? "rows" := by
  let config : Config := { rules := ["rows=>100:100"] }
  let plain : Source := .request (.ofList [("rows", "500")])
  let tricky : Source := .request (.ofList [("rows", "500"), ("sanitize", "rows=invariant:900")])
  have plainAnswered : (config.sanitize plain).result =
      .ok ⟨.ofList [("rows", "100")], plain⟩ := by cbv
  have trickyAnswered : (config.sanitize tricky).result =
      .ok ⟨.ofList [("rows", "100")], tricky⟩ := by cbv
  have targeted : Targets config.rules "rows" :=
    ⟨"rows=>100:100", by simp [config], ">100:100", rfl, by decide⟩
  have plainOn : config.isOnFor plain = .ok true := by cbv
  have trickyOn : config.isOnFor tricky = .ok true := by cbv
  have same : plain.first? "rows" = tricky.first? "rows" := by cbv
  constructor
  · rcases (configured_rules_prevail config).1 tricky _ trickyOn trickyAnswered with
      ⟨rules, overlay, read, evaluated, agree⟩
    exact ⟨rules, overlay, read, evaluated, agree "rows" targeted⟩
  · exact (configured_rules_prevail config).2 plain tricky _ _ "rows" plainOn trickyOn
      plainAnswered trickyAnswered targeted same

end Config

end ParamRules
