import Mathlib
import ParamRules.CommandLine.Report
import ParamRules.Proofs.Config.Sanitizing
import ParamRules.Proofs.Rule.FirstMatch
import ParamRules.Proofs.RuleSet.Failing

/-!
# What the check of a configuration promises

Rules that can be read fail on some request exactly when one of them has a bound that is not an
integer and no invariant entry. The check refuses every such bound, so it promises more than that
the configured rules always succeed: a request that is refused later has itself to blame
(`Report.Vetted`). It also refuses rules that never fail, those that have an invariant entry beside
every bad bound.
-/

namespace ParamRules

open Grammar

namespace RuleSet

variable {rules : RuleSet}

/-- No rule of the set has a bad bound. -/
def Clean (rules : RuleSet) : Prop :=
  ∀ param rule, rules.find? param = some rule → ¬rule.HasBadBound

theorem exists_targets_of_read {lines : List String}
    (read : (RuleSet.read lines).result = .ok rules) :
    ∃ names : Finset String, names.card = rules.size ∧
      ∀ name, name ∈ names ↔ Targets lines name := by
  refine ⟨rules.rules.keys.toFinset, ?_, ?_⟩
  · have card := List.toFinset_card_of_nodup rules.rules.nodup_keys
    rw [List.length_map] at card
    exact card
  · intro name
    rw [List.mem_toFinset, SortedMap.mem_keys_iff]
    exact exists_find?_iff_of_read read

end RuleSet

theorem Rule.findSome?_badBound?_eq_some_iff {rule : Rule} {bound : String} :
    rule.entries.findSome? (·.condition.badBound?) = some bound ↔
      ∃ index direction replacement,
        rule.First Condition.HasBadBound index ⟨.threshold direction bound, replacement⟩ := by
  simp only [List.findSome?_eq_some_iff, Condition.badBound?_eq_some_iff,
    Condition.badBound?_eq_none_iff]
  constructor
  · rintro ⟨before, ⟨_, replacement⟩, after, shape, ⟨bad, direction, rfl⟩, clean⟩
    exact ⟨before.length, direction, replacement, .of_shape shape bad clean⟩
  · rintro ⟨index, direction, replacement, first⟩
    exact ⟨_, _, _, first.shape, ⟨first.has, direction, rfl⟩, first.least⟩

theorem Rule.findSome?_badBound?_eq_none_iff {rule : Rule} :
    rule.entries.findSome? (·.condition.badBound?) = none ↔ ¬rule.HasBadBound := by
  simp only [List.findSome?_eq_none_iff, Condition.badBound?_eq_none_iff, HasBadBound, not_exists,
    not_and]

namespace CommandLine.Report

variable {config : Config} {rules : RuleSet} {count : Nat}

/-- The parameter and the bound that the check reports. -/
def reported? (rules : RuleSet) : Option (String × String) :=
  rules.toList.findSome? fun entry =>
    (entry.2.entries.findSome? (·.condition.badBound?)).map fun bound => (entry.1, bound)

theorem reported?_eq_none_iff :
    reported? rules = none ↔ rules.Clean := by
  simp only [reported?, List.findSome?_eq_none_iff, Option.map_eq_none_iff, Prod.forall,
    RuleSet.mem_toList_iff, RuleSet.Clean, Rule.HasBadBound, Condition.badBound?_eq_none_iff,
    not_exists, not_and]

theorem ruleCount_of_read (read : (RuleSet.read config.rules).result = .ok rules) :
    ruleCount config = match reported? rules with
      | some (param, bound) => .error (.invalidBound param bound)
      | none => .ok rules.size := by
  rw [ruleCount, read]
  rfl

theorem ruleCount_eq_ok_iff (read : (RuleSet.read config.rules).result = .ok rules) :
    ruleCount config = .ok count ↔ rules.Clean ∧ rules.size = count := by
  rw [ruleCount_of_read read, ← reported?_eq_none_iff]
  cases reported? rules with
  | none => simp
  | some blamed => simp

theorem exists_ruleCount_error_iff (read : (RuleSet.read config.rules).result = .ok rules) :
    (∃ error, ruleCount config = .error error) ↔
      ∃ param rule, rules.find? param = some rule ∧ rule.HasBadBound := by
  have unclean : ¬rules.Clean ↔ ∃ param rule, rules.find? param = some rule ∧ rule.HasBadBound := by
    simp only [RuleSet.Clean, not_forall, not_not, exists_prop]
  rw [ruleCount_of_read read, ← unclean, ← reported?_eq_none_iff]
  cases reported? rules with
  | none => simp
  | some blamed => simp

theorem exists_read_of_ruleCount (counted : ruleCount config = .ok count) :
    ∃ rules, (RuleSet.read config.rules).result = .ok rules := by
  rcases Run.ok_or_error (RuleSet.read config.rules) with read | ⟨failure, refused⟩
  · exact read
  · rw [ruleCount, refused] at counted
    cases counted

/-! ## What is reported -/

/-- What the check of a configuration reports. -/
inductive Fault (config : Config) : Error → Prop where
  /-- The first configured line outside the language. -/
  | unreadable {failure : Failure} (fault : Grammar.FirstFault config.rules failure) :
      Fault config (.invalidRules failure)
  /-- The first bad bound in the rule of the least parameter that has one in its rule. -/
  | badBound {param bound replacement : String} {rule : Rule} {index : Nat} {direction : Direction}
      (good : ∀ line ∈ config.rules, WellFormed line) (inForce : InForce config.rules param rule)
      (first : rule.First Condition.HasBadBound index
        ⟨.threshold direction bound, replacement⟩)
      (least : ∀ earlier other, earlier < param → InForce config.rules earlier other →
        ¬other.HasBadBound) :
      Fault config (.invalidBound param bound)

theorem reported?_eq_some_iff {param bound : String} :
    reported? rules = some (param, bound) ↔
      ∃ rule index direction replacement, rules.find? param = some rule ∧
        rule.First Condition.HasBadBound index ⟨.threshold direction bound, replacement⟩ ∧
        ∀ earlier other, earlier < param → rules.find? earlier = some other →
          ¬other.HasBadBound := by
  rw [reported?, List.findSome?_eq_some_iff]
  simp only [Option.map_eq_some_iff, Prod.mk.injEq, Option.map_eq_none_iff,
    Rule.findSome?_badBound?_eq_some_iff, Rule.findSome?_badBound?_eq_none_iff]
  constructor
  · rintro ⟨before, ⟨param, rule⟩, after, shape, ⟨bound, ⟨_, _, _, first⟩, rfl, rfl⟩, clean⟩
    refine ⟨rule, _, _, _, RuleSet.mem_toList_iff.1 (by simp [shape]), first, ?_⟩
    intro earlier other less found
    exact clean (earlier, other)
      ((SortedMap.mem_before_iff shape).2 ⟨RuleSet.mem_toList_iff.2 found, less⟩)
  · rintro ⟨rule, index, direction, replacement, found, first, least⟩
    rcases List.append_of_mem (RuleSet.mem_toList_iff.2 found) with ⟨before, after, shape⟩
    refine ⟨before, (param, rule), after, shape, ⟨bound, ⟨_, _, _, first⟩, rfl, rfl⟩, ?_⟩
    rintro ⟨earlier, other⟩ mem
    rcases (SortedMap.mem_before_iff shape).1 mem with ⟨whole, less⟩
    exact least earlier other less (RuleSet.mem_toList_iff.1 whole)

/-- The check fails with the first fault of the configured rules. -/
theorem ruleCount_eq_error_iff {error : Error} :
    ruleCount config = .error error ↔ Fault config error := by
  rcases Run.ok_or_error (RuleSet.read config.rules) with ⟨rules, read⟩ | ⟨failure, refused⟩
  · have good := RuleSet.exists_read_iff.1 ⟨rules, read⟩
    have inForce_iff := @RuleSet.find?_eq_some_iff_of_read _ _ read
    have blames : ruleCount config = .error error ↔
        ∃ param bound, reported? rules = some (param, bound) ∧
          error = .invalidBound param bound := by
      rw [ruleCount_of_read read]
      rcases reported? rules with _ | ⟨param, bound⟩
      · simp
      · simp [eq_comm, and_assoc]
    simp only [blames, reported?_eq_some_iff, inForce_iff]
    constructor
    · rintro ⟨param, bound, ⟨rule, _, _, _, inForce, first, least⟩, rfl⟩
      exact .badBound good inForce first least
    · rintro (⟨fault⟩ | ⟨_, inForce, first, least⟩)
      · rw [← RuleSet.read_eq_error_iff, read] at fault
        cases fault
      · exact ⟨_, _, ⟨_, _, _, _, inForce, first, least⟩, rfl⟩
  · have fault := RuleSet.read_eq_error_iff.1 refused
    have blames : ruleCount config = .error (.invalidRules failure) := by
      rw [ruleCount, refused]
      rfl
    rw [blames, Except.error.injEq]
    constructor
    · rintro rfl
      exact .unreadable fault
    · rintro (⟨other⟩ | ⟨good, _, _, _⟩)
      · rw [← RuleSet.read_eq_error_iff, refused, Except.error.injEq] at other
        rw [other]
      · rcases RuleSet.exists_read_iff.2 good with ⟨rules, read⟩
        rw [refused] at read
        cases read

/-! ## What may still go wrong -/

/-- What a host can rely on that has counted its rules with success. -/
structure Vetted (config : Config) (count : Nat) : Prop where
  counted : ∃ names : Finset String, names.card = count ∧
    ∀ name, name ∈ names ↔ Targets config.rules name
  evaluates : ∃ rules, (RuleSet.read config.rules).result = .ok rules ∧
    ∀ source, ∃ overlay, (rules.evaluate source).result = .ok overlay
  /-- A request is refused for its switch, for a rule of its own that cannot be read, or for a bound
  in a rule of its own. -/
  blames : ∀ request failure, (config.sanitize request).result = .error failure →
    (∃ value, failure = .invalidFlag switchParam value) ∨
      FirstFault ((request.all? ruleParam).getD []) failure ∨
      ∃ param entry, failure = .invalidThreshold param entry ∧ ¬Targets config.rules param

/-- A rule in force for a request that has a bad bound is not about a parameter of a configured
rule, since that would be the one in force. -/
theorem not_targets_of_badBound {request : Source} {inForceRules : RuleSet} {param : String}
    {rule : Rule} (read : (RuleSet.read config.rules).result = .ok rules) (clean : rules.Clean)
    (readAll : (RuleSet.read (config.rulesFor request)).result = .ok inForceRules)
    (found : inForceRules.find? param = some rule) (badBound : rule.HasBadBound) :
    ¬Targets config.rules param := by
  intro targeted
  have good := RuleSet.exists_read_iff.1 ⟨rules, read⟩
  rcases RuleSet.exists_inForce good targeted with ⟨configured, inForce⟩
  have prevails : inForceRules.find? param = some configured :=
    (RuleSet.find?_eq_some_iff_of_read readAll).2 (inForce.append_left _)
  rw [found, Option.some.injEq] at prevails
  subst prevails
  exact clean param rule ((RuleSet.find?_eq_some_iff_of_read read).2 inForce) badBound

theorem blame_of_refused {request : Source} {failure : Failure}
    (read : (RuleSet.read config.rules).result = .ok rules)
    (clean : rules.Clean) (refused : (config.sanitize request).result = .error failure) :
    (∃ value, failure = .invalidFlag switchParam value) ∨
      FirstFault ((request.all? ruleParam).getD []) failure ∨
      ∃ param entry, failure = .invalidThreshold param entry ∧ ¬Targets config.rules param := by
  cases state : config.isOnFor request with
  | error flagFailure =>
      rw [Config.result_sanitize_of_error state] at refused
      cases refused
      exact Or.inl (Config.invalidFlag_of_isOnFor_error state)
  | ok on =>
      cases on with
      | false =>
          rw [Config.result_sanitize_of_off state] at refused
          cases refused
      | true =>
          rw [Config.result_sanitize_of_on state, sanitizeWith_eq_error_iff] at refused
          rcases refused with unread | ⟨inForceRules, readAll, fails⟩
          · rw [RuleSet.read_eq_error_iff, Config.rulesFor, firstFault_append_iff] at unread
            -- The configured lines are all read, so the fault is in a line of the request.
            rcases unread with own | ⟨_, configured⟩
            · exact Or.inr (Or.inl own)
            · rw [← RuleSet.read_eq_error_iff, read] at configured
              cases configured
          · rcases RuleSet.exists_badBound_of_evaluate_error fails with
              ⟨param, rule, entry, found, _, mem, bad, blamed⟩
            have untargeted := not_targets_of_badBound read clean readAll found ⟨entry, mem, bad⟩
            exact Or.inr (Or.inr ⟨param, entry.text, blamed, untargeted⟩)

theorem vetted_of_ruleCount (counted : ruleCount config = .ok count) : Vetted config count := by
  rcases exists_read_of_ruleCount counted with ⟨rules, read⟩
  rcases (ruleCount_eq_ok_iff read).1 counted with ⟨clean, rfl⟩
  have evaluates : ∀ source, ∃ overlay, (rules.evaluate source).result = .ok overlay :=
    RuleSet.forall_evaluates_iff.2 fun param rule found badBound =>
      absurd badBound (clean param rule found)
  exact {
    counted := RuleSet.exists_targets_of_read read
    evaluates := ⟨rules, read, evaluates⟩
    blames := fun request failure refused => blame_of_refused read clean refused }

/-- Rules fail on some request exactly for a bad bound that no invariant entry guards. A
configuration that passes the check is vetted. Among those whose rules can be read the check refuses
exactly the ones with a bad bound in force, although the guarded ones never fail. -/
theorem ruleCount_foresees_failures :
    (∀ rules : RuleSet,
      (∃ params failure, (rules.evaluate (.request params)).result = .error failure) ↔
        ∃ param rule, rules.find? param = some rule ∧ ¬rule.HasInvariant ∧ rule.HasBadBound) ∧
    ∀ config : Config,
      (∀ count, ruleCount config = .ok count → Vetted config count) ∧
      ∀ rules, (RuleSet.read config.rules).result = .ok rules →
        ((∃ error, ruleCount config = .error error) ↔
          ∃ param rule, InForce config.rules param rule ∧ rule.HasBadBound) ∧
        ((∀ source, ∃ overlay, (rules.evaluate source).result = .ok overlay) ↔
          ∀ param rule, InForce config.rules param rule → rule.HasBadBound →
            rule.HasInvariant) := by
  refine ⟨fun rules => RuleSet.exists_request_error_iff, fun config => ⟨?_, ?_⟩⟩
  · intro count counted
    exact vetted_of_ruleCount counted
  · intro rules read
    simp only [← RuleSet.find?_eq_some_iff_of_read read]
    exact ⟨exists_ruleCount_error_iff read, RuleSet.forall_evaluates_iff⟩

/-- Two lines about `rows` count once; a bad bound that an invariant entry guards is refused. -/
theorem ruleCount_foresees_failures_of_rows :
    Vetted { rules := ["rows=1", "start=default:0", "rows=>100:100"] } 2 ∧
      (∃ error, ruleCount { rules := ["rows=>many:1 invariant:5"] } = .error error) := by
  let guarded : Config := { rules := ["rows=>many:1 invariant:5"] }
  let entries : List Entry := [.ofKey ">many" "1", .ofKey "invariant" "5"]
  have read : (RuleSet.read guarded.rules).result =
      .ok (.ofList [("rows", .ofEntries entries)]) := by cbv
  have inForce : InForce guarded.rules "rows" (.ofEntries entries) :=
    (RuleSet.find?_eq_some_iff_of_read read).1 (by cbv)
  have badBound : (Rule.ofEntries entries).HasBadBound :=
    ⟨.ofKey ">many" "1", by decide, .atLeast, "many", by decide, by decide⟩
  constructor
  · exact (ruleCount_foresees_failures.2 _).1 2 (by cbv)
  · exact ((ruleCount_foresees_failures.2 guarded).2 _ read).1.2 ⟨_, _, inForce, badBound⟩

end CommandLine.Report

end ParamRules
