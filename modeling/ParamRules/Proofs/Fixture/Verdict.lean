import ParamRules.Fixture.Basic
import ParamRules.Proofs.Config.Sanitizing
import ParamRules.Proofs.Request.Params
import ParamRules.Proofs.RuleSet.Failing

/-!
# What a passed fixture tells

A case of a fixture passes exactly when its request is answered as the case demands
(`Case.Meets`). The runner reads and applies rules on its own and never asks a host, but for a
request that says nothing about sanitizing a host with the rules of the fixture gives the same
answer (`result_sanitize_request`), so that the verdict is one about hosts.
-/

namespace ParamRules.Fixture

variable {fixture : Fixture} {rules : RuleSet}

namespace Case

variable {case : Fixture.Case}

/-- An answer meets a case that demands a failure, and fails; or it meets a case that does not, has
the overlay that the case lists, and gives each effective name its first value, or none. -/
inductive Meets (case : Fixture.Case) : Except Failure Sanitized → Prop where
  | failure {failure : Failure} (demanded : case.expectError = true) :
      Meets case (.error failure)
  | answer {answer : Sanitized} (notDemanded : case.expectError = false)
      (overlay : ∀ name, answer.overlay.find? name = case.expect.find? name)
      (effective : ∀ name value, case.effective.find? name = some value →
        answer.view.first? name = value) : Meets case (.ok answer)

/-- What rules that were read make of the request of a case. -/
def answerTo (case : Fixture.Case) (rules : RuleSet) : Except Failure Sanitized :=
  (rules.evaluate (.request case.request)).result.map fun overlay =>
    ⟨overlay, .request case.request⟩

theorem passed_run_of_error {failure : Failure}
    (refused : (rules.evaluate (.request case.request)).result = .error failure) :
    (case.run rules).passed = case.expectError := by
  rw [run, refused]
  simp [RuleSet.concernsRule_of_evaluate_error refused]

theorem passed_run_of_ok {overlay : Overlay}
    (evaluated : (rules.evaluate (.request case.request)).result = .ok overlay) :
    (case.run rules).passed = true ↔ case.expectError = false ∧
      overlay.replacements = case.expect ∧
      ∀ entry ∈ case.effective.entries,
        (Source.layered (.overlay overlay) (.request case.request)).first? entry.1 = entry.2 := by
  rw [run, evaluated]
  cases demanded : case.expectError with
  | true => simp
  | false => simp

theorem forall_effective_iff {source : Source} :
    (∀ entry ∈ case.effective.entries, source.first? entry.1 = entry.2) ↔
      ∀ name value, case.effective.find? name = some value → source.first? name = value := by
  simp only [Prod.forall, SortedMap.mem_entries_iff]

theorem passed_run_iff : (case.run rules).passed = true ↔ case.Meets (case.answerTo rules) := by
  rw [answerTo]
  cases evaluated : (rules.evaluate (.request case.request)).result with
  | error failure =>
      rw [passed_run_of_error evaluated]
      constructor
      · intro demanded
        exact .failure demanded
      · intro meets
        cases meets with
        | failure demanded => exact demanded
  | ok overlay =>
      rw [passed_run_of_ok evaluated, forall_effective_iff]
      constructor
      · rintro ⟨notDemanded, same, effective⟩
        refine .answer notDemanded (fun name => ?_) effective
        rw [← same]
        rfl
      · intro meets
        cases meets with
        | answer notDemanded listed effective =>
            exact ⟨notDemanded, SortedMap.ext_find? listed, effective⟩

/-! ## A host in the place of the runner -/

/-- The case gives a parameter no value. -/
def Lacks (case : Fixture.Case) (param : String) : Prop :=
  ∀ values, case.params.find? param = some values → values = []

/-- The request gives each parameter the values that the case lists for it. -/
theorem valuesOf_request (case : Fixture.Case) (name : String) :
    case.request.valuesOf name = (case.params.find? name).getD [] := by
  rw [request, Params.valuesOf_ofList, Params.paired, List.filter_flatMap, List.map_flatMap,
    ← SortedMap.flatMap_entries_eq]
  apply List.flatMap_congr
  intro entry _
  by_cases same : entry.1 = name
  · simp [same, List.filter_map, Function.comp_def]
  · simp [same, List.filter_map, Function.comp_def]

theorem find?_request_of_lacks {param : String} (lacks : case.Lacks param) :
    case.request.values.find? param = none := by
  rw [Params.find?_eq_none_iff, valuesOf_request]
  cases found : case.params.find? param with
  | none => rfl
  | some values => exact lacks values found

/-- A host that has the rules answers a request that says nothing about sanitizing as the runner
does. -/
theorem result_sanitize_request {lines : List String}
    (read : (RuleSet.read lines).result = .ok rules) (noRules : case.Lacks ruleParam)
    (noSwitch : case.Lacks switchParam) :
    (Config.sanitize { enabled := true, rules := lines } (.request case.request)).result =
      case.answerTo rules := by
  have on : Config.isOnFor { enabled := true, rules := lines } (.request case.request) =
      .ok true := by
    simp [Config.isOnFor, Source.flag, Source.first?, find?_request_of_lacks noSwitch]
  have inForce : Config.rulesFor { enabled := true, rules := lines } (.request case.request) =
      lines := by
    simp [Config.rulesFor, Source.all?, find?_request_of_lacks noRules]
  rw [Config.result_sanitize_of_on on, inForce, sanitizeWith, Run.result_bind, read, Run.ok_bind,
    bind_pure_comp, Run.result_map, answerTo]

end Case

/-! ## The fixture as a whole -/

theorem run_of_unread {failure : Failure}
    (unread : (RuleSet.read fixture.rules).result = .error failure) :
    ∃ result, fixture.run = [result] ∧
      (result.passed = true ↔ fixture.expectParseError = true) := by
  rw [run, unread]
  refine ⟨_, rfl, ?_⟩
  simp [RuleSet.concernsRule_of_read_error unread]

theorem run_of_demanded (read : (RuleSet.read fixture.rules).result = .ok rules)
    (demanded : fixture.expectParseError = true) :
    ∃ result, fixture.run = [result] ∧ result.passed = false := by
  rw [run, read]
  simp only [demanded, ↓reduceIte]
  exact ⟨_, rfl, rfl⟩

theorem run_of_read (read : (RuleSet.read fixture.rules).result = .ok rules)
    (notDemanded : fixture.expectParseError = false) :
    fixture.run = fixture.cases.map fun case => case.run rules := by
  rw [run, read]
  simp [notDemanded]

theorem name_run (case : Fixture.Case) (rules : RuleSet) : (case.run rules).name = case.name := by
  rw [Case.run]
  cases (rules.evaluate (.request case.request)).result with
  | error failure => rfl
  | ok overlay => cases case.expectError <;> rfl

theorem complaint?_eq_none_iff :
    fixture.complaint? = none ↔ ∀ result ∈ fixture.run, result.passed = true := by
  simp [complaint?]

theorem complaint?_eq_some_iff {text : String} :
    fixture.complaint? = some text ↔
      ∃ before result after, fixture.run = before ++ result :: after ∧
        (∀ earlier ∈ before, earlier.passed = true) ∧ result.passed = false ∧
        text = "Fixture '" ++ fixture.name ++ "' case '" ++ result.name ++ "' failed: expected "
          ++ result.expected ++ ", got " ++ result.actual := by
  simp only [complaint?, Option.map_eq_some_iff, List.find?_eq_some_iff_append,
    Bool.not_eq_true', Bool.not_eq_false']
  constructor
  · rintro ⟨result, ⟨failed, before, after, shape, passed⟩, rfl⟩
    exact ⟨before, result, after, shape, by simpa using passed, failed, rfl⟩
  · rintro ⟨before, result, after, shape, passed, failed, rfl⟩
    exact ⟨result, ⟨failed, before, after, shape, by simpa using passed⟩, rfl⟩

/-- A fixture whose lines cannot be read has one result, which passes if the fixture demands that;
a fixture that demands it in vain has one failing result. Otherwise each case has its result, which
passes exactly when the rules answer the request of the case, made of the values that the case
lists, as it demands; and so does a host with these rules, if the request says nothing about
sanitizing. The complaint is about the first result that did not pass. -/
theorem verdicts_speak_of_hosts (fixture : Fixture) :
    (∀ failure, (RuleSet.read fixture.rules).result = .error failure →
      ∃ result, fixture.run = [result] ∧
        (result.passed = true ↔ fixture.expectParseError = true)) ∧
    (∀ rules, (RuleSet.read fixture.rules).result = .ok rules → fixture.expectParseError = true →
      ∃ result, fixture.run = [result] ∧ result.passed = false) ∧
    (∀ rules, (RuleSet.read fixture.rules).result = .ok rules → fixture.expectParseError = false →
      List.Forall₂ (fun case result => result.name = case.name ∧
          (∀ name, case.request.valuesOf name = (case.params.find? name).getD []) ∧
          (result.passed = true ↔ case.Meets (case.answerTo rules)) ∧
          (case.Lacks ruleParam → case.Lacks switchParam →
            (result.passed = true ↔ case.Meets (Config.sanitize
              { enabled := true, rules := fixture.rules } (.request case.request)).result)))
        fixture.cases fixture.run) ∧
    (fixture.complaint? = none ↔ ∀ result ∈ fixture.run, result.passed = true) ∧
    ∀ text, fixture.complaint? = some text ↔
      ∃ before result after, fixture.run = before ++ result :: after ∧
        (∀ earlier ∈ before, earlier.passed = true) ∧ result.passed = false ∧
        text = "Fixture '" ++ fixture.name ++ "' case '" ++ result.name ++ "' failed: expected "
          ++ result.expected ++ ", got " ++ result.actual := by
  refine ⟨fun failure unread => run_of_unread unread,
    fun rules read demanded => run_of_demanded read demanded, ?_, complaint?_eq_none_iff,
    fun text => complaint?_eq_some_iff⟩
  intro rules read notDemanded
  rw [run_of_read read notDemanded, List.forall₂_map_right_iff, List.forall₂_same]
  intro case _
  refine ⟨name_run case rules, case.valuesOf_request, Case.passed_run_iff,
    fun noRules noSwitch => ?_⟩
  rw [Case.result_sanitize_request read noRules noSwitch]
  exact Case.passed_run_iff

/-- A fixture may demand that its lines cannot be read, and one that does so in vain fails. A case
that passes with the cap on `rows` holds of a host with that cap; a list without values says nothing
about sanitizing. -/
theorem verdicts_speak_of_hosts_of_rows :
    (∃ result, Fixture.run { name := "bare", rules := ["rows"], expectParseError := true } =
        [result] ∧ (result.passed = true ↔ true = true)) ∧
      (∃ result, Fixture.run { name := "vain", rules := ["rows=1"], expectParseError := true } =
        [result] ∧ result.passed = false) ∧
      Case.Meets
        { name := "above"
          params := .ofList [("rows", ["500"]), ("sanitize", [])]
          expect := .ofList [("rows", "100")]
          effective := .ofList [("rows", some "100"), ("q", none)] }
        (Config.sanitize { enabled := true, rules := ["rows=>100:100"] }
          (.request (.ofList [("rows", "500")]))).result := by
  let above : Case :=
    { name := "above"
      params := .ofList [("rows", ["500"]), ("sanitize", [])]
      expect := .ofList [("rows", "100")]
      effective := .ofList [("rows", some "100"), ("q", none)] }
  let caps : Fixture := { name := "caps", rules := ["rows=>100:100"], cases := [above] }
  let bare : Fixture := { name := "bare", rules := ["rows"], expectParseError := true }
  let vain : Fixture := { name := "vain", rules := ["rows=1"], expectParseError := true }
  refine ⟨?_, ?_, ?_⟩
  · exact (verdicts_speak_of_hosts bare).1 (.missingSeparator "rows") (by cbv)
  · exact (verdicts_speak_of_hosts vain).2.1 (.ofList [("rows", .invariant "1")]) (by cbv) rfl
  · let rules : RuleSet := .ofList [("rows", .ofEntries [.ofKey ">100" "100"])]
    have read : (RuleSet.read caps.rules).result = .ok rules := by cbv
    have noRules : above.Lacks ruleParam := by
      intro values found
      have empty : above.params.find? ruleParam = some [] := by cbv
      rw [empty, Option.some.injEq] at found
      exact found.symm
    have noSwitch : above.Lacks switchParam := by
      intro values found
      have absent : above.params.find? switchParam = none := by cbv
      rw [absent] at found
      cases found
    have evaluated : (rules.evaluate (.request above.request)).result =
        .ok (.ofList [("rows", "100")]) := by cbv
    have passed : (above.run rules).passed = true := by
      rw [Case.passed_run_of_ok evaluated]
      refine ⟨rfl, by cbv, ?_⟩
      have entries : above.effective.entries = [("q", none), ("rows", some "100")] := by cbv
      rw [entries, List.forall_mem_cons, List.forall_mem_singleton]
      exact ⟨by cbv, by cbv⟩
    have verdicts := (verdicts_speak_of_hosts caps).2.2.1 rules read rfl
    rw [run_of_read read rfl] at verdicts
    rcases List.forall₂_cons.1 verdicts with ⟨⟨_, _, _, host⟩, _⟩
    exact (host noRules noSwitch).1 passed

end ParamRules.Fixture
