import ParamRules.Proofs.Config.Sanitizing
import ParamRules.Proofs.Request.Layers
import ParamRules.Proofs.Rule.Decision

/-!
# Sanitizing what has been sanitized

A host may go on with the view that it was answered with and sanitize it again. The second pass
reads its switch, its rules and its values through the replacements of the first one. If no rule in
force is about the switch or about the rules of the request, and each replacement settles under the
rule that gave it, then the second pass replaces nothing new (`settled_of_settles`), and neither
does any later pass (`Settled.exists_resanitize`).

Sources that are alike are sanitized alike, so one settled pass is enough for the induction.
-/

namespace ParamRules

/-- Every replacement of the first overlay is one of the second. -/
def Overlay.Within (part whole : Overlay) : Prop :=
  ∀ name value, part.find? name = some value → whole.find? name = some value

namespace Source

variable {part whole : Overlay}

theorem alike_layered_of_within (within : part.Within whole) (source : Source) :
    (layered (.overlay part) (layered (.overlay whole) source)).Alike
      (layered (.overlay whole) source) := by
  apply alike_of_values?
  intro name
  simp only [values?]
  cases replaced : part.find? name with
  | none => simp
  | some value => simp [within name value replaced]

end Source

namespace Rule

variable {rule : Rule} {param value : String} {original : Option String}

/-- A rule leaves a value of its parameter alone, or gives the same value again. -/
def Settles (rule : Rule) (param value : String) : Prop :=
  rule.effect param (some value) = .ok none ∨ rule.effect param (some value) = .ok (some value)

theorem effect_of_invariant (found : rule.replacement? .invariant = some value) :
    rule.effect param original = .ok (some value) :=
  effect_eq_ok_iff.2 ⟨_, decision_of_invariant found, rfl⟩

theorem settles_of_hasInvariant (invariant : rule.HasInvariant)
    (fires : rule.effect param original = .ok (some value)) : rule.Settles param value := by
  cases found : rule.replacement? .invariant with
  | none => exact absurd invariant (replacement?_invariant_eq_none_iff.1 found)
  | some given =>
      rw [effect_of_invariant found, Except.ok.injEq, Option.some.injEq] at fires
      subst fires
      exact Or.inr (effect_of_invariant found)

theorem settles_of_default {given : String} (only : rule.entries = [⟨.default, given⟩])
    (param value : String) : rule.Settles param value := by
  have noInvariant : rule.replacement? .invariant = none := by simp [replacement?, only]
  refine Or.inl (effect_eq_ok_iff.2 ⟨⟨.noMatch, []⟩, ?_, rfl⟩)
  rw [decision_of_present noInvariant, only]
  rfl

end Rule

namespace Config

variable {config : Config} {request : Source} {answer : Sanitized}

theorem isOnFor_congr {left right : Source}
    (same : left.first? switchParam = right.first? switchParam) :
    config.isOnFor left = config.isOnFor right := by
  simp only [isOnFor, Source.flag, same]

/-- Only the values that a source gives matter, not the layers that they come from. -/
theorem sanitize_congr {left right : Source} {overlay : Overlay} (alike : left.Alike right)
    (answered : (config.sanitize left).result = .ok ⟨overlay, left⟩) :
    (config.sanitize right).result = .ok ⟨overlay, right⟩ := by
  have sameSwitch := config.isOnFor_congr (alike.firsts switchParam)
  have sameRules : config.rulesFor left = config.rulesFor right := by
    rw [rulesFor, rulesFor, alike.alls]
  cases state : config.isOnFor left with
  | error failure =>
      rw [result_sanitize_of_error state] at answered
      cases answered
  | ok on =>
      rw [state] at sameSwitch
      cases on with
      | false =>
          rw [result_sanitize_of_off state] at answered
          cases answered
          exact result_sanitize_of_off sameSwitch.symm
      | true =>
          rw [result_sanitize_of_on state, sanitizeWith_eq_ok_iff] at answered
          rcases answered with ⟨rules, _, read, evaluated, same⟩
          cases same
          rw [result_sanitize_of_on sameSwitch.symm, sanitizeWith_eq_ok_iff, ← sameRules]
          refine ⟨rules, overlay, read, ?_, rfl⟩
          rw [← RuleSet.evaluate_congr fun param _ _ => alike.firsts param]
          exact evaluated

/-- The answer after a number of further passes, each over the view that the pass before left. -/
def resanitize (config : Config) : Nat → Sanitized → Except Failure Sanitized
  | 0, answer => .ok answer
  | count + 1, answer => (config.sanitize answer.view).result.bind (config.resanitize count)

/-- A further pass over an answer gives no replacement that is not there already. -/
def Settled (config : Config) (answer : Sanitized) : Prop :=
  ∃ overlay, (config.sanitize answer.view).result = .ok ⟨overlay, answer.view⟩ ∧
    overlay.Within answer.overlay

theorem Settled.step {overlay : Overlay}
    (answered : (config.sanitize answer.view).result = .ok ⟨overlay, answer.view⟩)
    (within : overlay.Within answer.overlay) :
    config.Settled ⟨overlay, answer.view⟩ ∧
      (Sanitized.mk overlay answer.view).view.Alike answer.view := by
  have alike : (Sanitized.mk overlay answer.view).view.Alike answer.view :=
    Source.alike_layered_of_within within answer.request
  exact ⟨⟨overlay, sanitize_congr alike.symm answered, fun _ _ found => found⟩, alike⟩

/-- After a settled answer every pass succeeds, replaces nothing new and leaves the view alone. -/
theorem Settled.exists_resanitize (settled : config.Settled answer) (count : Nat) :
    ∃ later, config.resanitize count answer = .ok later ∧
      later.overlay.Within answer.overlay ∧ later.view.Alike answer.view := by
  -- The answer of a settled pass is settled again, so the passes need no other invariant.
  induction count generalizing answer with
  | zero => exact ⟨answer, rfl, fun _ _ found => found, .refl _⟩
  | succ count ih =>
      rcases settled with ⟨overlay, answered, within⟩
      rcases Settled.step answered within with ⟨again, alike⟩
      rcases ih again with ⟨later, passed, laterWithin, laterAlike⟩
      refine ⟨later, ?_, ?_, laterAlike.trans alike⟩
      · rw [resanitize, answered]
        exact passed
      · intro name value found
        exact within name value (laterWithin name value found)

/-- A rule sees in the view what it left: its own replacement or the value that it passed over. -/
theorem effect_on_view {rules : RuleSet} {overlay : Overlay}
    (evaluated : (rules.evaluate request).result = .ok overlay)
    (settles : ∀ name value, overlay.find? name = some value →
      ∀ rule, rules.find? name = some rule → rule.Settles name value)
    {name : String} {rule : Rule} (found : rules.find? name = some rule) :
    rule.effect name ((Source.layered (.overlay overlay) request).first? name) = .ok none ∨
      rule.effect name ((Source.layered (.overlay overlay) request).first? name) =
        .ok (overlay.find? name) := by
  rw [Source.first?_overlay_layered]
  cases replaced : overlay.find? name with
  | none =>
      have effect := RuleSet.effect_of_evaluate evaluated found
      rw [replaced] at effect
      exact Or.inl effect
  | some value => exact settles name value replaced rule found

theorem exists_evaluate_view {rules : RuleSet} {overlay : Overlay}
    (evaluated : (rules.evaluate request).result = .ok overlay)
    (settles : ∀ name value, overlay.find? name = some value →
      ∀ rule, rules.find? name = some rule → rule.Settles name value) :
    ∃ again, (rules.evaluate (.layered (.overlay overlay) request)).result = .ok again ∧
      again.Within overlay := by
  have succeeds : ∀ name rule, rules.find? name = some rule →
      ∃ replacement, rule.effect name
        ((Source.layered (.overlay overlay) request).first? name) = .ok replacement := by
    intro name rule found
    rcases effect_on_view evaluated settles found with silent | same
    · exact ⟨_, silent⟩
    · exact ⟨_, same⟩
  rcases RuleSet.exists_evaluate_iff.2 succeeds with ⟨again, evaluatedAgain⟩
  refine ⟨again, evaluatedAgain, fun name value replaced => ?_⟩
  rcases (RuleSet.find?_eq_some_iff_of_evaluate evaluatedAgain).1 replaced with
    ⟨rule, found, effect⟩
  rcases effect_on_view evaluated settles found with silent | same
  · rw [silent] at effect
    cases effect
  · rw [same, Except.ok.injEq] at effect
    exact effect

/-- Settling rules that are about neither the switch nor the rules of a request settle it in one
pass. -/
theorem settled_of_settles {rules : RuleSet} (on : config.isOnFor request = .ok true)
    (answered : (config.sanitize request).result = .ok answer)
    (read : (RuleSet.read (config.rulesFor request)).result = .ok rules)
    (noRules : rules.find? ruleParam = none) (noSwitch : rules.find? switchParam = none)
    (settles : ∀ name value, answer.overlay.find? name = some value →
      ∀ rule, rules.find? name = some rule → rule.Settles name value) :
    config.Settled answer := by
  rw [result_sanitize_of_on on, sanitizeWith_eq_ok_iff] at answered
  rcases answered with ⟨others, overlay, readAgain, evaluated, rfl⟩
  rw [read] at readAgain
  cases readAgain
  have keepsSwitch : overlay.find? switchParam = none :=
    RuleSet.find?_eq_none_of_evaluate evaluated noSwitch
  have keepsRules : overlay.find? ruleParam = none :=
    RuleSet.find?_eq_none_of_evaluate evaluated noRules
  have sameSwitch : config.isOnFor (.layered (.overlay overlay) request) = .ok true := by
    rw [← on]
    apply isOnFor_congr
    rw [Source.first?_overlay_layered, keepsSwitch, Option.none_or]
  have sameRules : config.rulesFor (.layered (.overlay overlay) request) =
      config.rulesFor request := by
    simp only [rulesFor, Source.all?, keepsRules, Option.map_none, Option.none_or]
  rcases exists_evaluate_view evaluated settles with ⟨again, evaluatedAgain, within⟩
  refine ⟨again, ?_, within⟩
  simp only [Sanitized.view]
  rw [result_sanitize_of_on sameSwitch, sanitizeWith_eq_ok_iff, sameRules]
  exact ⟨rules, again, read, evaluatedAgain, rfl⟩

theorem settled_of_off (off : config.isOnFor request = .ok false) :
    config.Settled ⟨∅, request⟩ := by
  refine ⟨∅, ?_, fun _ _ found => found⟩
  exact sanitize_congr (Source.alike_layered_empty request).symm (result_sanitize_of_off off)

/-- Sanitizing what has been sanitized changes nothing, however often it is done, if the rules in
force are about neither the switch nor the rules of the request and each replacement settles. It
never changes anything where sanitizing is off. Rules with an invariant entry settle, and so do
rules with a default entry alone. -/
theorem sanitizing_again_changes_nothing (config : Config) :
    (∀ request answer rules, config.isOnFor request = .ok true →
      (config.sanitize request).result = .ok answer →
      (RuleSet.read (config.rulesFor request)).result = .ok rules →
      rules.find? ruleParam = none → rules.find? switchParam = none →
      (∀ name value, answer.overlay.find? name = some value →
        ∀ rule, rules.find? name = some rule → rule.Settles name value) →
      ∀ count, ∃ later, config.resanitize count answer = .ok later ∧
        later.overlay.Within answer.overlay ∧ later.view.Alike answer.view) ∧
    (∀ request answer, config.isOnFor request = .ok false →
      (config.sanitize request).result = .ok answer →
      ∀ count, ∃ later, config.resanitize count answer = .ok later ∧
        later.overlay = ∅ ∧ later.view.Alike answer.view ∧ later.view.Alike request) ∧
    ∀ rule : Rule, (rule.HasInvariant ∨ ∃ given, rule.entries = [⟨.default, given⟩]) →
      ∀ param original value, rule.effect param original = .ok (some value) →
        rule.Settles param value := by
  refine ⟨?_, ?_, ?_⟩
  · intro request answer rules on answered read noRules noSwitch settles count
    exact (settled_of_settles on answered read noRules noSwitch settles).exists_resanitize count
  · intro request answer off answered count
    rw [result_sanitize_of_off off] at answered
    cases answered
    rcases (settled_of_off off).exists_resanitize count with ⟨later, passed, within, alike⟩
    refine ⟨later, passed, ?_, alike, alike.trans (Source.alike_layered_empty request)⟩
    apply Overlay.ext_find?
    intro name
    apply Option.eq_none_iff_forall_ne_some.2
    intro value replaced
    cases within name value replaced
  · rintro rule (invariant | ⟨given, only⟩) param original value fires
    · exact Rule.settles_of_hasInvariant invariant fires
    · exact Rule.settles_of_default only param value

/-- A capped value meets its cap again and a default is not asked for twice; a request that switches
sanitizing off keeps it off. -/
theorem sanitizing_again_changes_nothing_of_rows :
    (∃ later, Config.resanitize { rules := ["rows=>100:100", "start=default:0"] } 2
          ⟨.ofList [("rows", "100"), ("start", "0")], .request (.ofList [("rows", "500")])⟩ =
        .ok later ∧ later.overlay.Within (.ofList [("rows", "100"), ("start", "0")]) ∧
      later.view.Alike (.layered (.overlay (.ofList [("rows", "100"), ("start", "0")]))
        (.request (.ofList [("rows", "500")])))) ∧
    (∃ later, Config.resanitize { rules := ["rows"] } 3
          ⟨∅, .request (.ofList [("request_sanitizer", "no")])⟩ = .ok later ∧
        later.overlay = ∅) ∧
    (Rule.ofEntries [.ofKey "default" "0"]).Settles "start" "0" := by
  let config : Config := { rules := ["rows=>100:100", "start=default:0"] }
  let request : Source := .request (.ofList [("rows", "500")])
  let overlay : Overlay := .ofList [("rows", "100"), ("start", "0")]
  let rules : RuleSet := .ofList [("rows", .ofEntries [.ofKey ">100" "100"]),
    ("start", .ofEntries [.ofKey "default" "0"])]
  have read : (RuleSet.read (config.rulesFor request)).result = .ok rules := by cbv
  have answered : (config.sanitize request).result = .ok ⟨overlay, request⟩ := by cbv
  have cap : rules.find? "rows" = some (.ofEntries [.ofKey ">100" "100"]) := by cbv
  have start : rules.find? "start" = some (.ofEntries [.ofKey "default" "0"]) := by cbv
  have settles : ∀ name value, overlay.find? name = some value →
      ∀ rule, rules.find? name = some rule → rule.Settles name value := by
    intro name value replaced rule found
    have entries : overlay.toList = [("rows", "100"), ("start", "0")] := by cbv
    rw [← Overlay.mem_toList_iff, entries, List.mem_pair, Prod.mk.injEq, Prod.mk.injEq] at replaced
    rcases replaced with ⟨rfl, rfl⟩ | ⟨rfl, rfl⟩
    · rw [cap, Option.some.injEq] at found
      subst found
      exact Or.inr (by cbv)
    · rw [start, Option.some.injEq] at found
      subst found
      exact Or.inl (by cbv)
  let plain : Config := { rules := ["rows"] }
  let silent : Source := .request (.ofList [("request_sanitizer", "no")])
  have passed : (plain.sanitize silent).result = .ok ⟨∅, silent⟩ := by cbv
  refine ⟨?_, ?_, ?_⟩
  · exact (sanitizing_again_changes_nothing config).1 request ⟨overlay, request⟩ rules (by cbv)
      answered read (by cbv) (by cbv) settles 2
  · rcases (sanitizing_again_changes_nothing plain).2.1 silent _ (by cbv) passed 3 with
      ⟨later, again, empty, _⟩
    exact ⟨later, again, empty⟩
  · exact (sanitizing_again_changes_nothing plain).2.2 _ (Or.inr ⟨"0", by cbv⟩) "start" none "0"
      (by cbv)

end Config

end ParamRules
