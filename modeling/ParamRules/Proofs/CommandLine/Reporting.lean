import ParamRules.CommandLine.Report
import ParamRules.Proofs.Config.Sanitizing
import ParamRules.Proofs.Json.Overlay
import ParamRules.Proofs.Request.Layers
import ParamRules.Proofs.Request.Params
import ParamRules.Proofs.RuleSet.Tracing
import ParamRules.Proofs.Wording

/-!
# Three reports on one request

The lines to go on with, the replacements as JSON and the explanation are made apart from each
other, and the explanation does not even sanitize: it asks for the switch, reads the rules and
traces them on its own. All three nevertheless fail exactly when the request is refused, with one
error, and what they print is an account of one evaluation (`Report.Account`): the explanation tells
each of its steps, and the JSON reads back as the replacements that the steps made.
-/

namespace ParamRules.CommandLine.Report

variable {config : Config} {params : Params} {overlay : Overlay} {error : Error}

/-- The lines about one name: its replacement if it has one, or else all its values in order. -/
def linesAbout (overlay : Overlay) (params : Params) (name : String) : List String :=
  match overlay.find? name with
  | some value => [name ++ "=" ++ value]
  | none => (params.valuesOf name).map fun value => name ++ "=" ++ value

theorem ofRequest_eq_error_iff {α : Type} {result : Except Failure α} :
    ofRequest result = .error error ↔
      ∃ failure, result = .error failure ∧ error = .badRequest failure := by
  cases result with
  | error failure => simp [ofRequest, Except.mapError, eq_comm]
  | ok value => simp [ofRequest, Except.mapError]

theorem ofRequest_map_eq_error_iff {α β : Type} {result : Except Failure α} {change : α → β} :
    (ofRequest result).map change = .error error ↔
      ∃ failure, result = .error failure ∧ error = .badRequest failure := by
  rw [Run.map_eq_error_iff, ofRequest_eq_error_iff]

/-- The lines for all names of a view, in order of name. -/
def viewLines (view : Source) : List String :=
  (view.names.mergeSort fun left right => decide (left ≤ right)).flatMap fun name =>
    ((view.all? name).getD []).map fun value => name ++ "=" ++ value

theorem effective_eq_map (config : Config) (params : Params) :
    effective config params = (ofRequest (config.sanitize (.request params)).result).map
      fun answer => viewLines answer.view := by
  rw [effective]
  cases ofRequest (config.sanitize (.request params)).result <;> rfl

theorem replaced_eq_map (config : Config) (params : Params) :
    replaced config params = (ofRequest (config.sanitize (.request params)).result).map
      fun answer => answer.overlay.toJson.write := by
  rw [replaced]
  cases ofRequest (config.sanitize (.request params)).result <;> rfl

theorem explanation_of_off (off : config.isOnFor (.request params) = .ok false) :
    explanation config params = .ok ["(sanitizer disabled)"] := by
  rw [explanation, off]
  rfl

theorem explanation_of_on (on : config.isOnFor (.request params) = .ok true) :
    explanation config params =
      (ofRequest (RuleSet.read (config.rulesFor (.request params)) >>= fun rules =>
        rules.trace (.request params)).result).map fun trace =>
          if trace.steps = [] then ["(no rules)"] else trace.steps.map Step.text := by
  rw [explanation, on, Run.result_bind]
  cases (RuleSet.read (config.rulesFor (.request params))).result with
  | error failure => rfl
  | ok rules =>
      rw [Run.ok_bind]
      cases traced : (rules.trace (.request params)).result with
      | error failure => simp [ofRequest, traced, Except.mapError, Except.map, bind, Except.bind]
      | ok trace =>
          simp [ofRequest, traced, Except.mapError, Except.map, bind, Except.bind, pure,
            Except.pure]

theorem explanation_eq_error_iff :
    explanation config params = .error error ↔
      ∃ failure, (config.sanitize (.request params)).result = .error failure ∧
        error = .badRequest failure := by
  cases state : config.isOnFor (.request params) with
  | error failure =>
      rw [explanation, state, Config.result_sanitize_of_error state]
      simp [ofRequest, Except.mapError, bind, Except.bind, eq_comm]
  | ok on =>
      cases on with
      | false =>
          rw [explanation_of_off state, Config.result_sanitize_of_off state]
          simp
      | true =>
          rw [explanation_of_on state, ofRequest_map_eq_error_iff,
            Config.result_sanitize_of_on state]
          simp only [sanitizeWith_eq_error_iff, Run.bind_eq_error_iff, RuleSet.trace_eq_error_iff]

/-! ## What the reports print -/

theorem mem_names_view_iff {name : String} :
    name ∈ (Source.layered (.overlay overlay) (.request params)).names ↔
      (∃ value, overlay.find? name = some value) ∨
        ∃ values, params.values.find? name = some values := by
  simp only [Source.names, List.mem_eraseDups, List.mem_append, SortedMap.mem_keys_iff]
  rfl

theorem effective_of_answered {answer : Sanitized}
    (answered : (config.sanitize (.request params)).result = .ok answer) :
    effective config params = .ok (viewLines answer.view) := by
  rw [effective_eq_map, answered]
  rfl

end ParamRules.CommandLine.Report
