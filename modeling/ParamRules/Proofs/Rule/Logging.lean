import ParamRules.Proofs.Rule.Decision
import ParamRules.RuleSet.Evaluation
import ParamRules.Rule.Grammar

/-!
# What reading and applying a rule logs

Reading logs nothing but one warning about the failure that it ends in (`Run.WarnsOnly`). Applying a
rule logs every threshold that it passes over and then, if the rule fires, the entry that fired
(`Step.Logs`), or a warning about the bound at which it fails (`Rule.LogsFailure`).

The passed thresholds of a decision are positions and those of the log are entries. The two lists
are made in one search, entry by entry, so they belong together one by one (`forall₂_skips`).
-/

namespace ParamRules

/-- A warning about a text that cannot be read names that text. -/
inductive Event.WarnsOfText : Event → Failure → Prop where
  | separator (line : String) : WarnsOfText (.separatorMissing line) (.missingSeparator line)
  | token (param token : String) :
      WarnsOfText (.tokenMalformed param token) (.malformedEntry param token)

/-- A warning names what a failure blames: a text, or an entry whose bound is not an integer. -/
inductive Event.Warns : Event → Failure → Prop where
  | text {event : Event} {failure : Failure} (names : event.WarnsOfText failure) :
      Warns event failure
  | bound (param : String) (entry : Entry) :
      Warns (.boundNotNumeric param entry) (.invalidThreshold param entry.text)

theorem Event.Warns.level_eq {event : Event} {failure : Failure} (warns : event.Warns failure) :
    event.level = .warn := by
  cases warns with
  | text names => cases names <;> rfl
  | bound param entry => rfl

/-! ## Reading -/

namespace Run

universe u

variable {α β ι : Type u}

/-- A run that logs nothing if it succeeds, and one warning about its failure if it fails. -/
structure WarnsOnly (run : Run α) : Prop where
  quiet : ∀ value, run.result = .ok value → run.events = []
  warning : ∀ failure, run.result = .error failure →
    ∃ event, event.WarnsOfText failure ∧ run.events = [event]

theorem WarnsOnly.pure (value : α) : (Pure.pure value : Run α).WarnsOnly where
  quiet := fun _ _ => rfl
  warning := fun _ failed => by cases failed

theorem WarnsOnly.bind {run : Run α} {next : α → Run β} (first : run.WarnsOnly)
    (later : ∀ value, (next value).WarnsOnly) : (run >>= next).WarnsOnly where
  quiet := by
    intro value succeeded
    rcases bind_eq_ok_iff.1 succeeded with ⟨middle, made, finished⟩
    rw [events_bind_of_ok made, first.quiet middle made]
    exact (later middle).quiet value finished
  warning := by
    intro failure failed
    rcases bind_eq_error_iff.1 failed with refused | ⟨middle, made, refused⟩
    · rcases first.warning failure refused with ⟨event, warns, logged⟩
      refine ⟨event, warns, ?_⟩
      rw [events_bind_of_error refused, logged]
    · rw [events_bind_of_ok made, first.quiet middle made]
      exact (later middle).warning failure refused

theorem WarnsOnly.mapM {items : List ι} {make : ι → Run α}
    (each : ∀ item, (make item).WarnsOnly) : (items.mapM make).WarnsOnly := by
  induction items with
  | nil => exact WarnsOnly.pure []
  | cons head rest ih =>
      rw [List.mapM_cons]
      exact (each head).bind fun value => ih.bind fun values => WarnsOnly.pure (value :: values)

theorem WarnsOnly.fail {event : Event} {failure : Failure} (warns : event.WarnsOfText failure) :
    (Run.log event >>= fun _ => (Run.fail failure : Run α)).WarnsOnly where
  quiet := fun _ succeeded => by cases succeeded
  warning := by
    intro other failed
    cases failed
    exact ⟨event, warns, rfl⟩

end Run

namespace Rule

theorem warnsOnly_readToken (param token : String) : (readToken param token).WarnsOnly := by
  unfold readToken
  cases Entry.ofToken? token with
  | some entry => exact Run.WarnsOnly.pure entry
  | none => exact Run.WarnsOnly.fail (.token param token)

theorem warnsOnly_readBody (param body : String) : (readBody param body).WarnsOnly := by
  unfold readBody
  split
  · exact (Run.WarnsOnly.mapM (warnsOnly_readToken param)).bind fun _ => Run.WarnsOnly.pure _
  · exact Run.WarnsOnly.pure _

theorem warnsOnly_readLine (line : String) : (readLine line).WarnsOnly := by
  unfold readLine
  cases Text.cut? '=' line with
  | some cut => exact (warnsOnly_readBody cut.1 cut.2).bind fun _ => Run.WarnsOnly.pure _
  | none => exact Run.WarnsOnly.fail (.separator line)

end Rule

/-! ## Applying -/

namespace Step

variable {step : Step} {rule : Rule} {event : Event}

/-- An event for a position at which a threshold was passed over. -/
inductive Skips (step : Step) (rule : Rule) (position : Nat) : Event → Prop where
  | valueNotNumeric {original : String} {entry : Entry} (present : step.original = some original)
      (stands : rule.entries[position]? = some entry) :
      Skips step rule position (.valueNotNumeric step.param original entry)

/-- The event of a rule that fired. -/
inductive Fires (step : Step) : Event → Prop where
  | invariant {value : String} (decided : step.decision.outcome = .invariant value) :
      Fires step (.invariantApplied step.param value)
  | default {value : String} (decided : step.decision.outcome = .default value) :
      Fires step (.defaultApplied step.param value)
  | matched {original : String} {index : Nat} {entry : Entry}
      (present : step.original = some original)
      (decided : step.decision.outcome = .matched index entry) :
      Fires step (.ruleHit step.param original entry)

/-- The log of a step: one event for each position passed over, in order, and then one event if and
only if the rule fired. -/
inductive Logs (step : Step) (rule : Rule) : List Event → Prop where
  | fired {skips : List Event} {event : Event}
      (skipped : List.Forall₂ (step.Skips rule) step.decision.skipped skips)
      (fired : step.decision.outcome.fired = true) (fires : step.Fires event) :
      Logs step rule (skips ++ [event])
  | silent {skips : List Event}
      (skipped : List.Forall₂ (step.Skips rule) step.decision.skipped skips)
      (silent : step.decision.outcome.fired = false) : Logs step rule skips

theorem Logs.alone (noSkip : step.decision.skipped = [])
    (fired : step.decision.outcome.fired = true) (fires : step.Fires event) :
    step.Logs rule [event] := by
  rw [← List.nil_append [event]]
  exact .fired (by rw [noSkip]; exact .nil) fired fires

theorem level_of_mem_skips {positions : List Nat} {skips : List Event}
    (skipped : List.Forall₂ (step.Skips rule) positions skips) (mem : event ∈ skips) :
    event.level = .debug := by
  rcases List.append_of_mem mem with ⟨before, after, rfl⟩
  rcases Occurrence.forall₂_append_cons_left skipped.flip with ⟨_, _, _, _, _, skips, _⟩
  cases skips
  rfl

theorem Logs.level_of_mem {events : List Event} (logs : step.Logs rule events)
    (mem : event ∈ events) : event.level = .debug := by
  cases logs with
  | silent skipped _ => exact level_of_mem_skips skipped mem
  | fired skipped _ fires =>
      rcases List.mem_append.1 mem with inSkips | last
      · exact level_of_mem_skips skipped inSkips
      · rw [List.mem_singleton] at last
        subst last
        cases fires <;> rfl

end Step

namespace Rule

variable {rule : Rule} {param original : String}

/-- The events for the thresholds among some entries that are passed over. -/
def skips (param original : String) (entries : List Entry) : List Event :=
  (entries.filter fun entry => entry.condition.judge original = .notNumeric).map
    (.valueNotNumeric param original)

/-- The log of a rule that fails on a value: the thresholds passed over before the bad bound, and
then a warning about it. -/
inductive LogsFailure (rule : Rule) (param : String) :
    Option String → Failure → List Event → Prop where
  | badBound {original : String} {before after : List Entry} {entry : Entry}
      (shape : rule.entries = before ++ entry :: after)
      (passed : ∀ earlier ∈ before, earlier.Passes original)
      (bad : entry.condition.HasBadBound) :
      LogsFailure rule param (some original) (.invalidThreshold param entry.text)
        (skips param original before ++ [.boundNotNumeric param entry])

theorem LogsFailure.level_of_mem {present : Option String} {failure : Failure}
    {events : List Event} {event : Event} (logs : rule.LogsFailure param present failure events)
    (mem : event ∈ events) : event.level = .debug ∨ event.Warns failure := by
  cases logs with
  | badBound shape passed bad =>
      rcases List.mem_append.1 mem with inSkips | last
      · rcases List.mem_map.1 inSkips with ⟨_, _, rfl⟩
        exact Or.inl rfl
      · rw [List.mem_singleton] at last
        subst last
        exact Or.inr (.bound _ _)

theorem skips_cons_of_fails {entry : Entry} (fails : entry.condition.judge original = .fails)
    (later : List Entry) : skips param original (entry :: later) = skips param original later := by
  simp [skips, fails]

theorem skips_cons_of_notNumeric {entry : Entry}
    (notNumeric : entry.condition.judge original = .notNumeric) (later : List Entry) :
    skips param original (entry :: later) =
      .valueNotNumeric param original entry :: skips param original later := by
  simp [skips, notNumeric]

/-- The search logs the thresholds that it passes over and goes on behind them. -/
theorem events_firstMatch_append {before : List Entry} (index : Nat) (rest : List Entry)
    (passed : ∀ earlier ∈ before, earlier.Passes original) :
    (firstMatch param original index (before ++ rest)).events =
      skips param original before ++
        (firstMatch param original (index + before.length) rest).events := by
  induction before generalizing index with
  | nil => rfl
  | cons entry before ih =>
      have later := ih (index + 1) fun earlier mem => passed earlier (by simp [mem])
      rw [List.length_cons, Nat.add_comm before.length, ← Nat.add_assoc, List.cons_append,
        firstMatch]
      rcases passed entry (by simp) with fails | notNumeric
      · rw [skips_cons_of_fails fails, fails]
        exact later
      · rw [skips_cons_of_notNumeric notNumeric, notNumeric, List.cons_append, ← later,
          Run.events_log_bind, bind_pure_comp, Run.events_map]

/-- The positions passed over and the events about them belong together one by one. -/
theorem forall₂_skips (step : Step) (front before rest : List Entry)
    (present : step.original = some original)
    (shape : rule.entries = front ++ before ++ rest) :
    List.Forall₂ (step.Skips rule) (skippedFrom original front.length before)
      (skips step.param original before) := by
  -- An entry that has been searched moves to `front`, which keeps positions those in the rule.
  induction before generalizing front with
  | nil => exact .nil
  | cons entry before ih =>
      have later := ih (front ++ [entry]) (by simp [shape])
      rw [List.length_append, List.length_singleton] at later
      cases verdict : entry.condition.judge original with
      | notNumeric =>
          have stands : rule.entries[front.length]? = some entry := by simp [shape]
          rw [skips_cons_of_notNumeric verdict, skippedFrom, if_pos verdict]
          exact .cons (.valueNotNumeric present stands) later
      | _ => simpa [skips, skippedFrom, verdict] using later

theorem logs_of_firstMatch {decision : Decision}
    (decided : (firstMatch param original 0 rule.entries).result = .ok decision) :
    Step.Logs ⟨param, some original, decision⟩ rule
      (firstMatch param original 0 rule.entries).events := by
  have search := search_firstMatch param original 0 rule.entries
  rw [decided] at search
  cases search with
  | matched shape passed holds =>
      rename_i before after entry
      have logged : (firstMatch param original 0 rule.entries).events =
          skips param original before ++ [.ruleHit param original entry] := by
        rw [shape, events_firstMatch_append 0 _ passed, firstMatch, holds, Run.events_log_bind,
          Run.events_pure]
      rw [logged]
      exact .fired (forall₂_skips _ [] before _ rfl shape) rfl (.matched rfl rfl)
  | exhausted passed =>
      have logged : (firstMatch param original 0 rule.entries).events =
          skips param original rule.entries := by
        rw [← List.append_nil rule.entries, events_firstMatch_append 0 [] passed, firstMatch,
          Run.events_pure, List.append_nil, List.append_nil]
      rw [logged]
      exact .silent (forall₂_skips _ [] rule.entries [] rfl (by simp)) rfl

theorem logs_of_decision {present : Option String} {decision : Decision}
    (decided : (rule.decision param present).result = .ok decision) :
    Step.Logs ⟨param, present, decision⟩ rule (rule.decision param present).events := by
  cases found : rule.replacement? .invariant with
  | some value =>
      rw [decision_of_invariant found, Except.ok.injEq] at decided
      subst decided
      have logged : (rule.decision param present).events = [.invariantApplied param value] := by
        simp [decision, found]
      rw [logged]
      exact .alone rfl rfl (.invariant rfl)
  | none =>
      cases present with
      | some original =>
          rw [decision_of_present found] at decided ⊢
          exact logs_of_firstMatch decided
      | none =>
          rw [decision_of_absent found, Except.ok.injEq] at decided
          subst decided
          cases given : rule.replacement? .default with
          | some value =>
              have logged : (rule.decision param none).events = [.defaultApplied param value] := by
                simp [decision, found, given]
              rw [logged]
              exact .alone rfl rfl (.default rfl)
          | none =>
              have logged : (rule.decision param none).events = [] := by
                simp [decision, found, given]
              rw [logged]
              exact .silent .nil rfl

theorem logsFailure_of_decision {present : Option String} {failure : Failure}
    (fails : (rule.decision param present).result = .error failure) :
    rule.LogsFailure param present failure (rule.decision param present).events := by
  cases found : rule.replacement? .invariant with
  | some value => simp [decision_of_invariant found] at fails
  | none =>
      cases present with
      | none => simp [decision_of_absent found] at fails
      | some original =>
          rw [decision_of_present found] at fails ⊢
          have search := search_firstMatch param original 0 rule.entries
          rw [fails] at search
          cases search with
          | stuck shape passed bad =>
              rename_i before after entry
              have verdict : entry.condition.judge original = .badBound :=
                Condition.judge_eq_badBound_iff.2 bad
              have logged : (firstMatch param original 0 rule.entries).events =
                  skips param original before ++ [.boundNotNumeric param entry] := by
                rw [shape, events_firstMatch_append 0 _ passed, firstMatch, verdict,
                  Run.events_log_bind, Run.events_fail]
              rw [logged]
              exact .badBound shape passed bad

end Rule

end ParamRules
