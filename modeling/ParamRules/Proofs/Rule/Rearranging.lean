import ParamRules.Proofs.Rule.FirstMatch

/-!
# The order of literals is free

Which entry decides depends on the order of the entries, but not on all of it. At most one literal
holds of a value, and only thresholds are skipped or make a rule fail. So what matters is which
thresholds stand before an entry, and `Rearranged` says that this stays: the thresholds keep their
order and the literals stay between the same thresholds. Literals may then change places with each
other, and the invariant and the default entry may stand anywhere.

The search in the new order ends at the same entry, because no entry on which it could end has come
to stand before that one (`Rearranged.passes`).
-/

namespace ParamRules

/-- A condition that asks for one text. -/
def Condition.IsLiteral (condition : Condition) : Prop :=
  ∃ text, condition = .equals text

instance : DecidablePred Condition.IsLiteral
  | .equals text => isTrue ⟨text, rfl⟩
  | .invariant | .default | .threshold _ _ => isFalse (by simp [Condition.IsLiteral])

/-- A condition that is tried on present values. -/
def Condition.IsTried (condition : Condition) : Prop :=
  condition.IsThreshold ∨ condition.IsLiteral

/-- Two outcomes that differ at most in the position of the entry that matched. -/
inductive Outcome.Alike : Outcome → Outcome → Prop where
  | invariant (replacement : String) : Alike (.invariant replacement) (.invariant replacement)
  | default (replacement : String) : Alike (.default replacement) (.default replacement)
  | matched (left right : Nat) (entry : Entry) : Alike (.matched left entry) (.matched right entry)
  | noMatch : Alike .noMatch .noMatch
  | absent : Alike .absent .absent

namespace Rule

open Occurrence

/-- The thresholds among some entries, in order. -/
def thresholds (entries : List Entry) : List Entry :=
  entries.filter fun entry => entry.condition.IsThreshold

/-- Some entries in another order that keeps the order of the thresholds and leaves each literal
between the same thresholds. -/
structure Rearranged (entries reordered : List Entry) : Prop where
  perm : entries.Perm reordered
  ordered : thresholds entries = thresholds reordered
  between : ∀ entry ∈ entries, entry.condition.IsLiteral →
    thresholds (before entry entries) = thresholds (before entry reordered)

/-- The entries of a rule at some positions. -/
def entriesAt (rule : Rule) (positions : List Nat) : List (Option Entry) :=
  positions.map fun position => rule.entries[position]?

/-- The results of two rules that fail alike or decide alike after skipping the same entries. -/
inductive SameResult (left right : Rule) :
    Except Failure Decision → Except Failure Decision → Prop where
  | failed (failure : Failure) : SameResult left right (.error failure) (.error failure)
  | decided {first second : Decision} (outcomes : first.outcome.Alike second.outcome)
      (skipped : left.entriesAt first.skipped = right.entriesAt second.skipped) :
      SameResult left right (.ok first) (.ok second)

/-! ## What is skipped -/

variable {rule : Rule} {original : String}

theorem mem_thresholds_iff {entry : Entry} {entries : List Entry} :
    entry ∈ thresholds entries ↔ entry ∈ entries ∧ entry.condition.IsThreshold := by
  simp [thresholds]

/-- Only thresholds are skipped. -/
theorem filter_notNumeric (original : String) (entries : List Entry) :
    (entries.filter fun entry => entry.condition.judge original = .notNumeric) =
      (thresholds entries).filter fun entry => entry.condition.judge original = .notNumeric := by
  rw [thresholds, List.filter_filter]
  refine List.filter_congr fun entry _ => ?_
  by_cases skipped : entry.condition.judge original = .notNumeric
  · simp [skipped, (Condition.judge_eq_notNumeric_iff.1 skipped).1]
  · simp [skipped]

theorem entriesAt_skippedFrom {front back : List Entry} (shape : rule.entries = front ++ back) :
    rule.entriesAt (skippedFrom original 0 front) =
      ((thresholds front).filter fun entry =>
        entry.condition.judge original = .notNumeric).map some := by
  have entryAt : ∀ pair ∈ front.zipIdx.filter fun pair =>
      pair.1.condition.judge original = .notNumeric,
      rule.entries[pair.2]? = some pair.1 := by
    rintro ⟨entry, position⟩ mem
    have stands := List.mk_mem_zipIdx_iff_getElem?.1 (List.mem_filter.1 mem).1
    rcases List.getElem?_eq_some_iff.1 stands with ⟨inRange, _⟩
    rw [shape, List.getElem?_append_left inRange, stands]
  calc rule.entriesAt (skippedFrom original 0 front)
      = (front.zipIdx.filter fun pair => pair.1.condition.judge original = .notNumeric).map
          fun pair => rule.entries[pair.2]? := by
        rw [skippedFrom_eq_map, entriesAt, List.map_map]
        rfl
    _ = (front.zipIdx.filter fun pair => pair.1.condition.judge original = .notNumeric).map
          fun pair => some pair.1 := List.map_congr_left entryAt
    _ = ((front.zipIdx.map Prod.fst).filter fun entry =>
          entry.condition.judge original = .notNumeric).map some := by
        rw [List.filter_map, List.map_map]
        rfl
    _ = ((thresholds front).filter fun entry =>
          entry.condition.judge original = .notNumeric).map some := by
        rw [List.zipIdx_map_fst, filter_notNumeric]

/-! ## What stays before an entry -/

theorem threshold_or_equals_of_not_passes {entry : Entry} (stops : ¬entry.Passes original) :
    entry.condition.IsThreshold ∨ entry.condition = .equals original := by
  rw [Entry.passes_iff, not_and_or, not_not, not_not] at stops
  rcases stops with holds | ⟨direction, bound, shape, _⟩
  · generalize entry.condition = condition at holds ⊢
    cases holds with
    | equals => exact .inr rfl
    | atLeast => exact .inl ⟨_, _, rfl⟩
    | atMost => exact .inl ⟨_, _, rfl⟩
  · exact .inl ⟨direction, bound, shape⟩

theorem isTried_of_not_passes {entry : Entry} (stops : ¬entry.Passes original) :
    entry.condition.IsTried :=
  (threshold_or_equals_of_not_passes stops).imp_right fun shape => ⟨original, shape⟩

namespace Rearranged

variable {entries reordered : List Entry} {left right : Entry}

theorem thresholds_before (rearranged : Rearranged entries reordered) {entry : Entry}
    (mem : entry ∈ entries) (tried : entry.condition.IsTried) :
    thresholds (before entry entries) = thresholds (before entry reordered) := by
  rcases tried with isThreshold | isLiteral
  · simp only [thresholds]
    rw [filter_before (by simpa using isThreshold), filter_before (by simpa using isThreshold)]
    exact congrArg (before entry) rearranged.ordered
  · exact rearranged.between entry mem isLiteral

theorem threshold_mem_before (rearranged : Rearranged entries reordered)
    (rightMem : right ∈ entries) (rightTried : right.condition.IsTried)
    (isThreshold : left.condition.IsThreshold) :
    left ∈ before right entries ↔ left ∈ before right reordered := by
  have sameThresholds := rearranged.thresholds_before rightMem rightTried
  constructor
  · intro stands
    have found := mem_thresholds_iff.2 ⟨stands, isThreshold⟩
    rw [sameThresholds] at found
    exact (mem_thresholds_iff.1 found).1
  · intro stands
    have found := mem_thresholds_iff.2 ⟨stands, isThreshold⟩
    rw [← sameThresholds] at found
    exact (mem_thresholds_iff.1 found).1

/-- Of two entries that are tried a threshold keeps its side of the other one. -/
theorem mem_before_iff (rearranged : Rearranged entries reordered) (leftMem : left ∈ entries)
    (rightMem : right ∈ entries) (leftTried : left.condition.IsTried)
    (rightTried : right.condition.IsTried)
    (oneThreshold : left.condition.IsThreshold ∨ right.condition.IsThreshold) :
    left ∈ before right entries ↔ left ∈ before right reordered := by
  by_cases isThreshold : left.condition.IsThreshold
  · exact rearranged.threshold_mem_before rightMem rightTried isThreshold
  · -- Seen from the other entry, it is again a threshold that stands before it or does not.
    have rightThreshold := oneThreshold.resolve_left isThreshold
    have different : left ≠ right := by
      intro same
      rw [same] at isThreshold
      exact isThreshold rightThreshold
    have reorderedLeft := rearranged.perm.mem_iff.1 leftMem
    have reorderedRight := rearranged.perm.mem_iff.1 rightMem
    rw [mem_before_iff_not_mem_before leftMem rightMem different,
      mem_before_iff_not_mem_before reorderedLeft reorderedRight different,
      rearranged.threshold_mem_before leftMem leftTried rightThreshold]

/-- No entry that could end the search comes to stand before the one that ends it. -/
theorem passes (rearranged : Rearranged entries reordered)
    (distinct : (entries.map Entry.condition).Nodup) {entry : Entry} (mem : entry ∈ entries)
    (ends : ¬entry.Passes original)
    (passed : ∀ earlier ∈ before entry entries, earlier.Passes original) :
    ∀ earlier ∈ before entry reordered, earlier.Passes original := by
  intro earlier stands
  by_contra stops
  have earlierMem : earlier ∈ entries :=
    rearranged.perm.mem_iff.2 ((List.takeWhile_sublist _).mem stands)
  by_cases oneThreshold : earlier.condition.IsThreshold ∨ entry.condition.IsThreshold
  · apply stops
    apply passed
    exact (rearranged.mem_before_iff earlierMem mem (isTried_of_not_passes stops)
      (isTried_of_not_passes ends) oneThreshold).2 stands
  · -- Both ask for the value itself, and only one entry of a rule does.
    rw [not_or] at oneThreshold
    have earlierShape := (threshold_or_equals_of_not_passes stops).resolve_left oneThreshold.1
    have shape := (threshold_or_equals_of_not_passes ends).resolve_left oneThreshold.2
    have same : earlier = entry :=
      List.inj_on_of_nodup_map distinct earlierMem mem (earlierShape.trans shape.symm)
    exact not_mem_before entry reordered (same ▸ stands)

end Rearranged

/-! ## The search and the decision -/

variable {param : String} {other : Rule}

theorem Rearranged.exists_stop (rearranged : Rearranged rule.entries other.entries)
    {front back : List Entry} {entry : Entry} (shape : rule.entries = front ++ entry :: back)
    (passed : ∀ earlier ∈ front, earlier.Passes original) (ends : ¬entry.Passes original) :
    ∃ front' back', other.entries = front' ++ entry :: back' ∧
      (∀ earlier ∈ front', earlier.Passes original) ∧ thresholds front = thresholds front' := by
  have mem : entry ∈ rule.entries := by simp [shape]
  have isFront : before entry rule.entries = front := by
    rw [shape, before_append_cons fun again => ends (passed entry again)]
  rcases exists_eq_before_append (rearranged.perm.mem_iff.1 mem) with ⟨back', otherShape⟩
  refine ⟨before entry other.entries, back', otherShape, ?_, ?_⟩
  · exact rearranged.passes rule.distinct mem ends (isFront ▸ passed)
  · rw [← isFront, rearranged.thresholds_before mem (isTried_of_not_passes ends)]

theorem Rearranged.sameResult_firstMatch (rearranged : Rearranged rule.entries other.entries) :
    SameResult rule other (firstMatch param original 0 rule.entries).result
      (firstMatch param original 0 other.entries).result := by
  have search := search_firstMatch param original 0 rule.entries
  generalize (firstMatch param original 0 rule.entries).result = result at search ⊢
  cases search with
  | matched shape passed holds =>
      rcases rearranged.exists_stop shape passed (by simp [Entry.Passes, holds]) with
        ⟨front', back', otherShape, otherPassed, sameThresholds⟩
      rw [Search.result_eq (.matched otherShape otherPassed holds)]
      refine .decided (.matched _ _ _) ?_
      rw [entriesAt_skippedFrom shape, entriesAt_skippedFrom otherShape, sameThresholds]
  | stuck shape passed bad =>
      rename_i entry
      have verdict : entry.condition.judge original = .badBound :=
        Condition.judge_eq_badBound_iff.2 bad
      rcases rearranged.exists_stop shape passed (by simp [Entry.Passes, verdict]) with
        ⟨front', back', otherShape, otherPassed, _⟩
      rw [Search.result_eq (.stuck otherShape otherPassed bad)]
      exact .failed _
  | exhausted passed =>
      have otherPassed : ∀ entry ∈ other.entries, entry.Passes original :=
        fun entry mem => passed entry (rearranged.perm.mem_iff.2 mem)
      rw [Search.result_eq (.exhausted otherPassed)]
      refine .decided .noMatch ?_
      rw [entriesAt_skippedFrom (List.append_nil _).symm,
        entriesAt_skippedFrom (List.append_nil _).symm, rearranged.ordered]

theorem Rearranged.replacement?_eq (rearranged : Rearranged rule.entries other.entries)
    (condition : Condition) : rule.replacement? condition = other.replacement? condition := by
  refine Option.ext fun replacement => ?_
  rw [replacement?_eq_some_iff, replacement?_eq_some_iff, rearranged.perm.mem_iff]

theorem Rearranged.sameResult_decision (rearranged : Rearranged rule.entries other.entries)
    (param : String) (original : Option String) :
    SameResult rule other (rule.decision param original).result
      (other.decision param original).result := by
  cases found : rule.replacement? .invariant with
  | some value =>
      rw [decision_of_invariant found,
        decision_of_invariant (rearranged.replacement?_eq .invariant ▸ found)]
      exact .decided (.invariant value) rfl
  | none =>
      have otherFound : other.replacement? .invariant = none :=
        rearranged.replacement?_eq .invariant ▸ found
      cases original with
      | some value =>
          rw [decision_of_present found, decision_of_present otherFound]
          exact rearranged.sameResult_firstMatch
      | none =>
          rw [decision_of_absent found, decision_of_absent otherFound,
            rearranged.replacement?_eq .default]
          cases other.replacement? .default with
          | some value => exact .decided (.default value) rfl
          | none => exact .decided .absent rfl

theorem entries_ofEntries {entries : List Entry}
    (distinct : (entries.map Entry.condition).Nodup) : (ofEntries entries).entries = entries :=
  congrArg Rule.entries (ofEntries_entries ⟨entries, distinct⟩)

/-- A rule and the one collected from its entries in another order fail alike or decide alike, as
long as the thresholds keep their order and each literal stays between the same thresholds. -/
theorem rearranged_rules_decide_alike (rule : Rule) (reordered : List Entry)
    (rearranged : Rearranged rule.entries reordered) (param : String) (original : Option String) :
    SameResult rule (ofEntries reordered) (rule.decision param original).result
      ((ofEntries reordered).decision param original).result := by
  have distinct : (reordered.map Entry.condition).Nodup :=
    (rearranged.perm.map Entry.condition).nodup_iff.1 rule.distinct
  rw [← entries_ofEntries distinct] at rearranged
  exact rearranged.sameResult_decision param original

/-- Between two thresholds the literals change places and the default entry moves to the front: the
same literal is found at another position, after the same threshold was skipped. -/
theorem rearranged_rules_decide_alike_of_rows :
    SameResult
      (ofEntries [.ofKey ">5" "5", .ofKey "a" "1", .ofKey "b" "2", .ofKey "<2" "x",
        .ofKey "default" "0"])
      (ofEntries [.ofKey "default" "0", .ofKey ">5" "5", .ofKey "b" "2", .ofKey "a" "1",
        .ofKey "<2" "x"])
      (.ok ⟨.matched 1 (.ofKey "a" "1"), [0]⟩) (.ok ⟨.matched 3 (.ofKey "a" "1"), [1]⟩) := by
  have alike := rearranged_rules_decide_alike
    (ofEntries [.ofKey ">5" "5", .ofKey "a" "1", .ofKey "b" "2", .ofKey "<2" "x",
      .ofKey "default" "0"])
    [.ofKey "default" "0", .ofKey ">5" "5", .ofKey "b" "2", .ofKey "a" "1", .ofKey "<2" "x"]
    ⟨by decide, by decide, by decide⟩ "rows" (some "a")
  have first : ((ofEntries [.ofKey ">5" "5", .ofKey "a" "1", .ofKey "b" "2", .ofKey "<2" "x",
      .ofKey "default" "0"]).decision "rows" (some "a")).result =
      .ok ⟨.matched 1 (.ofKey "a" "1"), [0]⟩ := by cbv
  have second : ((ofEntries [.ofKey "default" "0", .ofKey ">5" "5", .ofKey "b" "2", .ofKey "a" "1",
      .ofKey "<2" "x"]).decision "rows" (some "a")).result =
      .ok ⟨.matched 3 (.ofKey "a" "1"), [1]⟩ := by cbv
  rwa [first, second] at alike

end Rule

end ParamRules
