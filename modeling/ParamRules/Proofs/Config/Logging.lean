import ParamRules.Proofs.Config.Sanitizing
import ParamRules.Proofs.Rule.Logging
import ParamRules.Proofs.RuleSet.Tracing
import ParamRules.Proofs.Wording

/-!
# What the log says about a request

The log of a request can be read off its answer: `Journal` gives, for each way in which a request
can be answered, the events of the run from the first to the last. `serve_keeps_journal` says that
this is what a host logs, and at which level, with which message and with which fields each event is
shown (`Event.Shows`). Reading the rules adds at most one warning (`warnsOnly_read`), and the rules
that are applied add the logs of their steps one after the other (`Records`).
-/

namespace ParamRules

namespace RuleSet

variable {source : Source} {rules : RuleSet}

theorem warnsOnly_read (lines : List String) : (read lines).WarnsOnly := by
  rw [read_eq_mapM]
  exact (Run.WarnsOnly.mapM Rule.warnsOnly_readLine).bind fun _ => Run.WarnsOnly.pure _

/-- The logs of rules that take steps, one rule after the other. -/
inductive Records (source : Source) : List (String × Rule) → List Step → List Event → Prop where
  | nil : Records source [] [] []
  | cons {param : String} {rule : Rule} {step : Step} {rest : List (String × Rule)}
      {steps : List Step} {front back : List Event}
      (taken : (takeStep source (param, rule)).result = .ok step)
      (logs : step.Logs rule front) (later : Records source rest steps back) :
      Records source ((param, rule) :: rest) (step :: steps) (front ++ back)

theorem Records.level_of_mem {entries : List (String × Rule)} {steps : List Step}
    {events : List Event} (records : Records source entries steps events) {event : Event}
    (mem : event ∈ events) : event.level = .debug := by
  induction records with
  | nil => cases mem
  | cons taken logs later ih =>
      rcases List.mem_append.1 mem with here | there
      · exact logs.level_of_mem here
      · exact ih there

theorem events_takeStep (source : Source) (entry : String × Rule) :
    (takeStep source entry).events =
      (entry.2.decision entry.1 (source.first? entry.1)).events := by
  rw [takeStep, bind_pure_comp, Run.events_map]

theorem logs_of_takeStep {param : String} {rule : Rule} {step : Step}
    (taken : (takeStep source (param, rule)).result = .ok step) :
    step.Logs rule (takeStep source (param, rule)).events := by
  rcases takeStep_eq_ok_iff.1 taken with ⟨rfl, original, decided⟩
  rw [events_takeStep]
  rw [← original] at decided ⊢
  exact Rule.logs_of_decision decided

theorem records_of_takeStep {entries : List (String × Rule)} {steps : List Step}
    (taken : List.Forall₂ (fun entry step => (takeStep source entry).result = .ok step)
      entries steps) :
    Records source entries steps (entries.flatMap fun entry => (takeStep source entry).events) := by
  induction taken with
  | nil => exact .nil
  | cons first _ ih => exact .cons first (logs_of_takeStep first) ih

theorem exists_steps {entries : List (String × Rule)}
    (succeed : ∀ entry ∈ entries, ∃ step, (takeStep source entry).result = .ok step) :
    ∃ steps, List.Forall₂ (fun entry step => (takeStep source entry).result = .ok step)
      entries steps := by
  induction entries with
  | nil => exact ⟨[], .nil⟩
  | cons entry rest ih =>
      rcases succeed entry (by simp) with ⟨step, first⟩
      rcases ih fun later mem => succeed later (by simp [mem]) with ⟨steps, others⟩
      exact ⟨step :: steps, .cons first others⟩

theorem events_evaluate (rules : RuleSet) (source : Source) :
    (rules.evaluate source).events = (rules.toList.mapM (takeStep source)).events := by
  rw [evaluate_eq_mapM, bind_pure_comp, Run.events_map]

theorem records_of_trace {trace : Trace} (traced : (rules.trace source).result = .ok trace) :
    Records source rules.toList trace.steps (rules.evaluate source).events := by
  have taken := (trace_eq_ok_iff.1 traced).1
  have succeed : ∀ entry ∈ rules.toList, ∃ step, (takeStep source entry).result = .ok step := by
    rintro ⟨param, rule⟩ mem
    rcases taken.exists_step (mem_toList_iff.1 mem) with ⟨step, _, takes⟩
    exact ⟨step, takes⟩
  rw [events_evaluate, Run.events_mapM_of_ok succeed]
  exact records_of_takeStep taken

/-- Rules that fail log the steps before the failing rule, and then the failure of that rule. -/
theorem exists_records_of_error {failure : Failure}
    (refused : (rules.evaluate source).result = .error failure) :
    ∃ before param rule after steps events last, rules.toList = before ++ (param, rule) :: after ∧
      Records source before steps events ∧
      rule.LogsFailure param (source.first? param) failure last ∧
      (rules.evaluate source).events = events ++ last := by
  rcases evaluate_eq_error_iff_step.1 refused with ⟨before, ⟨param, rule⟩, after, shape, succeed,
    fails⟩
  rcases exists_steps succeed with ⟨steps, taken⟩
  have decided := takeStep_eq_error_iff.1 fails
  rw [Rule.effect_eq_error_iff] at decided
  refine ⟨before, param, rule, after, steps, _, _, shape, records_of_takeStep taken,
    Rule.logsFailure_of_decision decided, ?_⟩
  rw [events_evaluate, shape, Run.events_mapM_of_error succeed fails, events_takeStep]

end RuleSet

namespace Config

variable {config : Config} {request : Source}

/-- The log of a request that is answered with a result. -/
inductive Journal (config : Config) (request : Source) :
    Except Failure Sanitized → List Event → Prop where
  /-- A switch that is neither on nor off is not logged. -/
  | badSwitch {value : String}
      (refused : config.isOnFor request = .error (.invalidFlag switchParam value)) :
      Journal config request (.error (.invalidFlag switchParam value)) []
  | off (off : config.isOnFor request = .ok false) :
      Journal config request (.ok ⟨∅, request⟩) [.disabled]
  | unreadable {failure : Failure} {event : Event} (on : config.isOnFor request = .ok true)
      (unread : (RuleSet.read (config.rulesFor request)).result = .error failure)
      (warns : event.WarnsOfText failure) : Journal config request (.error failure) [event]
  /-- The rules before the failing one are logged in full and those after it not at all. -/
  | failing {rules : RuleSet} {before after : List (String × Rule)} {param : String} {rule : Rule}
      {steps : List Step} {events last : List Event} {failure : Failure}
      (on : config.isOnFor request = .ok true)
      (read : (RuleSet.read (config.rulesFor request)).result = .ok rules)
      (shape : rules.toList = before ++ (param, rule) :: after)
      (records : RuleSet.Records request before steps events)
      (fails : rule.LogsFailure param (request.first? param) failure last) :
      Journal config request (.error failure) (.rulesRead rules.size :: (events ++ last))
  | replaced {rules : RuleSet} {trace : Trace} {events : List Event}
      (on : config.isOnFor request = .ok true)
      (read : (RuleSet.read (config.rulesFor request)).result = .ok rules)
      (traced : (rules.trace request).result = .ok trace)
      (records : RuleSet.Records request rules.toList trace.steps events) :
      Journal config request (.ok ⟨trace.overlay, request⟩) (.rulesRead rules.size ::
        (events ++ if trace.overlay.isEmpty then [] else [.modified trace.overlay]))

theorem events_sanitize_of_error {failure : Failure}
    (refused : config.isOnFor request = .error failure) :
    (config.sanitize request).events = [] := by
  rw [sanitize, Run.events_bind_of_error refused, Run.events_ofExcept]

theorem events_sanitize_of_off (off : config.isOnFor request = .ok false) :
    (config.sanitize request).events = [.disabled] := by
  rw [sanitize, Run.events_bind_of_ok off]
  rfl

theorem events_sanitize_of_unread {failure : Failure} (on : config.isOnFor request = .ok true)
    (unread : (RuleSet.read (config.rulesFor request)).result = .error failure) :
    (config.sanitize request).events = (RuleSet.read (config.rulesFor request)).events := by
  rw [sanitize, Run.events_bind_of_ok on, Run.events_ofExcept, List.nil_append, if_pos rfl,
    Run.events_bind_of_error unread]

/-- Rules that can be read are counted and applied, and the overlay is shown unless it is empty. -/
theorem events_sanitize_of_read {rules : RuleSet} (on : config.isOnFor request = .ok true)
    (read : (RuleSet.read (config.rulesFor request)).result = .ok rules) :
    (config.sanitize request).events = .rulesRead rules.size ::
      (rules.evaluate request >>= fun overlay => do
        unless overlay.isEmpty do
          Run.log (.modified overlay)
        return Sanitized.mk overlay request).events := by
  rw [sanitize, Run.events_bind_of_ok on, Run.events_ofExcept, List.nil_append, if_pos rfl,
    Run.events_bind_of_ok read, (RuleSet.warnsOnly_read _).quiet rules read, List.nil_append,
    Run.events_log_bind]

theorem events_sanitize_of_failing {rules : RuleSet} {failure : Failure}
    (on : config.isOnFor request = .ok true)
    (read : (RuleSet.read (config.rulesFor request)).result = .ok rules)
    (fails : (rules.evaluate request).result = .error failure) :
    (config.sanitize request).events =
      .rulesRead rules.size :: (rules.evaluate request).events := by
  rw [events_sanitize_of_read on read, Run.events_bind_of_error fails]

theorem events_sanitize_of_evaluated {rules : RuleSet} {overlay : Overlay}
    (on : config.isOnFor request = .ok true)
    (read : (RuleSet.read (config.rulesFor request)).result = .ok rules)
    (evaluated : (rules.evaluate request).result = .ok overlay) :
    (config.sanitize request).events = .rulesRead rules.size ::
      ((rules.evaluate request).events ++
        if overlay.isEmpty then [] else [.modified overlay]) := by
  rw [events_sanitize_of_read on read, Run.events_bind_of_ok evaluated]
  cases overlay.isEmpty with
  | false => rfl
  | true => rfl

theorem journal_of_read {rules : RuleSet} (on : config.isOnFor request = .ok true)
    (read : (RuleSet.read (config.rulesFor request)).result = .ok rules) :
    config.Journal request (config.sanitize request).result (config.sanitize request).events := by
  rw [result_sanitize_of_on on]
  cases evaluated : (rules.evaluate request).result with
  | error failure =>
      have refused : (sanitizeWith (config.rulesFor request) request).result = .error failure :=
        sanitizeWith_eq_error_iff.2 (Or.inr ⟨rules, read, evaluated⟩)
      rcases RuleSet.exists_records_of_error evaluated with
        ⟨before, param, rule, after, steps, events, last, shape, records, fails, logged⟩
      rw [refused, events_sanitize_of_failing on read evaluated, logged]
      exact .failing on read shape records fails
  | ok overlay =>
      have answered : (sanitizeWith (config.rulesFor request) request).result =
          .ok ⟨overlay, request⟩ := sanitizeWith_eq_ok_iff.2 ⟨rules, overlay, read, evaluated, rfl⟩
      rw [answered, events_sanitize_of_evaluated on read evaluated]
      rw [RuleSet.evaluate_eq_trace, Run.bind_eq_ok_iff] at evaluated
      rcases evaluated with ⟨trace, traced, same⟩
      cases same
      exact .replaced on read traced (RuleSet.records_of_trace traced)

theorem journal_sanitize (config : Config) (request : Source) :
    config.Journal request (config.sanitize request).result (config.sanitize request).events := by
  cases state : config.isOnFor request with
  | error failure =>
      rcases invalidFlag_of_isOnFor_error state with ⟨value, rfl⟩
      rw [result_sanitize_of_error state, events_sanitize_of_error state]
      exact .badSwitch state
  | ok on =>
      cases on with
      | false =>
          rw [result_sanitize_of_off state, events_sanitize_of_off state]
          exact .off state
      | true =>
          cases read : (RuleSet.read (config.rulesFor request)).result with
          | ok rules => exact journal_of_read state read
          | error failure =>
              have refused : (sanitizeWith (config.rulesFor request) request).result =
                  .error failure := sanitizeWith_eq_error_iff.2 (Or.inl read)
              rcases (RuleSet.warnsOnly_read _).warning failure read with ⟨event, warns, logged⟩
              rw [result_sanitize_of_on state, refused, events_sanitize_of_unread state read,
                logged]
              exact .unreadable state read warns

/-- An event of a log is a detail, or a warning about the failure of the request, or the overlay of
its answer. -/
theorem Journal.detail_or_warns_or_modified {result : Except Failure Sanitized} {log : List Event}
    (journal : config.Journal request result log) {event : Event} (mem : event ∈ log) :
    event.level = .debug ∨ (∃ failure, result = .error failure ∧ event.Warns failure) ∨
      ∃ answer, result = .ok answer ∧ event = .modified answer.overlay := by
  cases journal with
  | badSwitch refused => cases mem
  | off off =>
      rw [List.mem_singleton] at mem
      subst mem
      exact Or.inl rfl
  | unreadable on unread warns =>
      rw [List.mem_singleton] at mem
      subst mem
      exact Or.inr (Or.inl ⟨_, rfl, .text warns⟩)
  | failing on read shape records fails =>
      rcases List.mem_cons.1 mem with rfl | mem
      · exact Or.inl rfl
      · rcases List.mem_append.1 mem with inSteps | inLast
        · exact Or.inl (records.level_of_mem inSteps)
        · rcases fails.level_of_mem inLast with debug | warns
          · exact Or.inl debug
          · exact Or.inr (Or.inl ⟨_, rfl, warns⟩)
  | replaced on read traced records =>
      rcases List.mem_cons.1 mem with rfl | mem
      · exact Or.inl rfl
      · rcases List.mem_append.1 mem with inSteps | inLast
        · exact Or.inl (records.level_of_mem inSteps)
        · split at inLast
          · cases inLast
          · exact Or.inr (Or.inr ⟨_, rfl, List.mem_singleton.1 inLast⟩)

/-- In a journal exactly the events that warn about the failure of the request are warnings. -/
theorem Journal.level_eq_warn_iff {result : Except Failure Sanitized} {log : List Event}
    (journal : config.Journal request result log) {event : Event} (mem : event ∈ log) :
    event.level = .warn ↔ ∃ failure, result = .error failure ∧ event.Warns failure := by
  constructor
  · intro warn
    rcases journal.detail_or_warns_or_modified mem with debug | warns | ⟨answer, _, rfl⟩
    · rw [debug] at warn
      cases warn
    · exact warns
    · cases warn
  · rintro ⟨failure, _, warns⟩
    exact warns.level_eq

theorem Journal.level_eq_info_iff {result : Except Failure Sanitized} {log : List Event}
    (journal : config.Journal request result log) {event : Event} (mem : event ∈ log) :
    event.level = .info ↔ ∃ answer, result = .ok answer ∧ event = .modified answer.overlay := by
  constructor
  · intro info
    rcases journal.detail_or_warns_or_modified mem with debug | ⟨failure, _, warns⟩ | modified
    · rw [debug] at info
      cases info
    · rw [warns.level_eq] at info
      cases info
    · exact modified
  · rintro ⟨answer, _, rfl⟩
    rfl

/-- A host logs that it was set up and then the journal of the request, and each event is shown with
its own level, message and fields. The events at level `warn` are those about the failure of the
request; those at level `info` are the first one and the one that shows the overlay. -/
theorem serve_keeps_journal (config : Config) (request : Source) :
    (config.serve request).result = (config.sanitize request).result ∧
    (∃ log, (config.serve request).events = .started config.enabled config.rules.length :: log ∧
      config.Journal request (config.sanitize request).result log) ∧
    ∀ event ∈ (config.serve request).events,
      event.Shows event.level event.message event.fields ∧
      (event.level = .warn ↔
        ∃ failure, (config.sanitize request).result = .error failure ∧ event.Warns failure) ∧
      (event.level = .info ↔ event = .started config.enabled config.rules.length ∨
        ∃ answer, (config.sanitize request).result = .ok answer ∧
          event = .modified answer.overlay) := by
  have journal := journal_sanitize config request
  refine ⟨rfl, ⟨(config.sanitize request).events, rfl, journal⟩, fun event mem => ?_⟩
  refine ⟨Event.shows_iff.2 ⟨rfl, rfl, rfl⟩, ?_⟩
  rcases List.mem_cons.1 mem with rfl | later
  · refine ⟨⟨?_, ?_⟩, fun _ => Or.inl rfl, fun _ => rfl⟩
    · intro warn
      cases warn
    · rintro ⟨failure, _, warns⟩
      exact warns.level_eq
  · refine ⟨journal.level_eq_warn_iff later, ?_, ?_⟩
    · intro info
      exact Or.inr ((journal.level_eq_info_iff later).1 info)
    · rintro (rfl | modified)
      · rfl
      · exact (journal.level_eq_info_iff later).2 modified

/-- A capped value is logged as a hit and shown with the overlay; a value that is no integer is
passed over by one threshold and then refused for the bad bound of the next one. -/
theorem serve_keeps_journal_of_rows :
    Journal { rules := ["rows=>100:100"] } (.request (.ofList [("rows", "500")]))
        (Config.sanitize { rules := ["rows=>100:100"] }
          (.request (.ofList [("rows", "500")]))).result
        [.rulesRead 1, .ruleHit "rows" "500" (.ofKey ">100" "100"),
          .modified (.ofList [("rows", "100")])] ∧
      (Event.started true 1).Shows .info "initialized request sanitizer"
        [("enabled", .flag true), ("configured_rules", .count 1)] ∧
      (Event.ruleHit "rows" "500" (.ofKey ">100" "100")).Shows .debug "rule hit"
        [("param", .text "rows"), ("original", .text "500"), ("condition", .text ">100:100")] ∧
      (∃ failure, (Config.sanitize { rules := ["rows=<5:0 >many:1"] }
          (.request (.ofList [("rows", "all")]))).result = .error failure ∧
        (Event.boundNotNumeric "rows" (.ofKey ">many" "1")).Warns failure) := by
  let cap : Config := { rules := ["rows=>100:100"] }
  let capped : Source := .request (.ofList [("rows", "500")])
  let bad : Config := { rules := ["rows=<5:0 >many:1"] }
  let refused : Source := .request (.ofList [("rows", "all")])
  have capEvents : (cap.serve capped).events = [.started true 1, .rulesRead 1,
      .ruleHit "rows" "500" (.ofKey ">100" "100"), .modified (.ofList [("rows", "100")])] := by cbv
  have badEvents : (bad.serve refused).events = [.started true 1, .rulesRead 1,
      .valueNotNumeric "rows" "all" (.ofKey "<5" "0"),
      .boundNotNumeric "rows" (.ofKey ">many" "1")] := by cbv
  rcases serve_keeps_journal cap capped with ⟨_, ⟨log, logged, journal⟩, each⟩
  rcases serve_keeps_journal bad refused with ⟨_, _, badEach⟩
  rw [capEvents, List.cons.injEq] at logged
  rcases logged with ⟨_, rfl⟩
  rw [capEvents] at each
  rw [badEvents] at badEach
  exact ⟨journal, (each _ (by simp)).1, (each _ (by simp)).1, (badEach _ (by simp)).2.1.1 rfl⟩

end Config

end ParamRules
