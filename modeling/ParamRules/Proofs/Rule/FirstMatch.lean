import ParamRules.Proofs.Rule.Decision

/-!
# The first entry that holds decides

Two positions settle what a rule without an invariant entry makes of a present value: the one of the
first entry that holds of the value, and the one of the first threshold whose bound is not an
integer. `Rule.Decides` says what follows from them, without searching for either, and
`first_match_decides` proves that a rule decides just so, on every value and on absence.

The search stops at the lesser of the two positions, because the entries before a position are all
passed exactly when neither of the two lies there (`forall_passes_take_iff`).
-/

namespace ParamRules

namespace Condition

/-- A condition that compares integers. -/
def IsThreshold (condition : Condition) : Prop :=
  ∃ direction bound, condition = .threshold direction bound

instance : DecidablePred IsThreshold
  | .threshold direction bound => isTrue ⟨direction, bound, rfl⟩
  | .invariant | .default | .equals _ => isFalse (by simp [IsThreshold])

/-- A present value is the text that a condition asks for, or an integer on its side of the bound;
the bound itself is on either side. -/
inductive HoldsOf (value : String) : Condition → Prop where
  | equals : HoldsOf value (.equals value)
  | atLeast {bound : String} {limit number : Int} (bounded : Text.Integer.read? bound = some limit)
      (numeric : Text.Integer.read? value = some number) (reached : limit ≤ number) :
      HoldsOf value (.threshold .atLeast bound)
  | atMost {bound : String} {limit number : Int} (bounded : Text.Integer.read? bound = some limit)
      (numeric : Text.Integer.read? value = some number) (reached : number ≤ limit) :
      HoldsOf value (.threshold .atMost bound)

variable {condition : Condition} {value : String}

theorem holdsOf_threshold_iff {direction : Direction} {bound : String} :
    (threshold direction bound).HoldsOf value ↔
      ∃ limit number, Text.Integer.read? bound = some limit ∧
        Text.Integer.read? value = some number ∧ direction.admits number limit = true := by
  constructor
  · intro holds
    cases holds with
    | atLeast bounded numeric reached =>
        exact ⟨_, _, bounded, numeric, by simpa [Direction.admits] using reached⟩
    | atMost bounded numeric reached =>
        exact ⟨_, _, bounded, numeric, by simpa [Direction.admits] using reached⟩
  · rintro ⟨limit, number, bounded, numeric, admits⟩
    cases direction with
    | atLeast => exact .atLeast bounded numeric (by simpa [Direction.admits] using admits)
    | atMost => exact .atMost bounded numeric (by simpa [Direction.admits] using admits)

theorem judge_eq_holds_iff : condition.judge value = .holds ↔ condition.HoldsOf value := by
  cases condition with
  | invariant =>
      simp only [judge, reduceCtorEq, false_iff]
      rintro ⟨⟩
  | default =>
      simp only [judge, reduceCtorEq, false_iff]
      rintro ⟨⟩
  | equals text =>
      simp only [judge, ite_eq_left_iff, reduceCtorEq, imp_false, not_not]
      constructor
      · rintro rfl
        exact .equals
      · rintro ⟨⟩
        rfl
  | threshold direction bound =>
      rw [holdsOf_threshold_iff, judge]
      cases Text.Integer.read? bound with
      | none => simp
      | some limit =>
          cases Text.Integer.read? value with
          | none => simp
          | some number => simp

theorem judge_eq_notNumeric_iff :
    condition.judge value = .notNumeric ↔
      condition.IsThreshold ∧ ¬condition.HasBadBound ∧ Text.Integer.read? value = none := by
  cases condition with
  | invariant => simp [judge, IsThreshold]
  | default => simp [judge, IsThreshold]
  | equals text =>
      simp only [judge, IsThreshold]
      split <;> simp
  | threshold direction bound =>
      simp only [judge, IsThreshold, HasBadBound, threshold.injEq]
      cases bounded : Text.Integer.read? bound with
      | none => simp [bounded]
      | some limit =>
          cases Text.Integer.read? value with
          | none => simp [bounded]
          | some number =>
              dsimp only
              split <;> simp

end Condition

theorem Entry.passes_iff {entry : Entry} {original : String} :
    entry.Passes original ↔
      ¬entry.condition.HoldsOf original ∧ ¬entry.condition.HasBadBound := by
  rw [Passes, ← Condition.judge_eq_holds_iff,
    ← @Condition.judge_eq_badBound_iff entry.condition original]
  cases entry.condition.judge original <;> simp

namespace Rule

variable {rule : Rule} {param original : String} {property : Condition → Prop}

/-- The first entry of a rule whose condition has a property, with its position. -/
structure First (rule : Rule) (property : Condition → Prop) (index : Nat) (entry : Entry) :
    Prop where
  stands : rule.entries[index]? = some entry
  has : property entry.condition
  least : ∀ earlier ∈ rule.entries.take index, ¬property earlier.condition

/-- The positions below a limit of the thresholds of a rule if a value is not an integer, in
increasing order, and none if it is one. -/
structure Skips (rule : Rule) (original : String) (limit : Nat) (skipped : List Nat) : Prop where
  increasing : skipped.Pairwise (· < ·)
  mem_iff : ∀ index, index ∈ skipped ↔
    index < limit ∧ Text.Integer.read? original = none ∧
      ∃ entry, rule.entries[index]? = some entry ∧ entry.condition.IsThreshold

/-- What a rule decides about its parameter. -/
inductive Decides (rule : Rule) (param : String) :
    Option String → Except Failure Decision → Prop where
  | invariant {value : String} (mem : ⟨.invariant, value⟩ ∈ rule.entries)
      (original : Option String) : Decides rule param original (.ok ⟨.invariant value, []⟩)
  | default {value : String} (free : ¬rule.HasInvariant) (mem : ⟨.default, value⟩ ∈ rule.entries) :
      Decides rule param none (.ok ⟨.default value, []⟩)
  | absent (free : ¬rule.HasInvariant) (noDefault : ∀ value, ⟨.default, value⟩ ∉ rule.entries) :
      Decides rule param none (.ok ⟨.absent, []⟩)
  /-- A bad bound is reached before any entry that holds. -/
  | stuck {original : String} {index : Nat} {entry : Entry} (free : ¬rule.HasInvariant)
      (bad : rule.First Condition.HasBadBound index entry)
      (unmatched : ∀ position other, rule.First (Condition.HoldsOf original) position other →
        index < position) :
      Decides rule param (some original)
        (.error (.invalidThreshold param (entry.key ++ ":" ++ entry.replacement)))
  /-- An entry that holds is reached before any bad bound. -/
  | matched {original : String} {index : Nat} {entry : Entry} {skipped : List Nat}
      (free : ¬rule.HasInvariant) (holds : rule.First (Condition.HoldsOf original) index entry)
      (sound : ∀ position other, rule.First Condition.HasBadBound position other →
        index < position)
      (skips : rule.Skips original index skipped) :
      Decides rule param (some original) (.ok ⟨.matched index entry, skipped⟩)
  | noMatch {original : String} {skipped : List Nat} (free : ¬rule.HasInvariant)
      (unmatched : ∀ position other, ¬rule.First (Condition.HoldsOf original) position other)
      (sound : ∀ position other, ¬rule.First Condition.HasBadBound position other)
      (skips : rule.Skips original rule.entries.length skipped) :
      Decides rule param (some original) (.ok ⟨.noMatch, skipped⟩)

/-! ## First positions -/

theorem First.of_shape {before after : List Entry} {entry : Entry}
    (shape : rule.entries = before ++ entry :: after) (has : property entry.condition)
    (clean : ∀ earlier ∈ before, ¬property earlier.condition) :
    rule.First property before.length entry where
  stands := by simp [shape]
  has := has
  least := by
    rw [shape, List.take_left]
    exact clean

theorem First.shape {index : Nat} {entry : Entry} (first : rule.First property index entry) :
    rule.entries = rule.entries.take index ++ entry :: rule.entries.drop (index + 1) := by
  rcases List.getElem?_eq_some_iff.1 first.stands with ⟨inRange, stands⟩
  rw [← stands, List.getElem_cons_drop, List.take_append_drop]

theorem First.length_take {index : Nat} {entry : Entry}
    (first : rule.First property index entry) : (rule.entries.take index).length = index := by
  rcases List.getElem?_eq_some_iff.1 first.stands with ⟨inRange, _⟩
  exact List.length_take_of_le (Nat.le_of_lt inRange)

theorem exists_first_of_mem_take {limit : Nat} {entry : Entry}
    (mem : entry ∈ rule.entries.take limit) (has : property entry.condition) :
    ∃ index other, rule.First property index other ∧ index < limit := by
  classical
  cases found : (rule.entries.take limit).find? fun other => property other.condition with
  | none =>
      have absent := List.find?_eq_none.1 found entry mem
      exact absurd has (by simpa using absent)
  | some other =>
      rcases List.find?_eq_some_iff_append.1 found with ⟨otherHas, before, after, shape, clean⟩
      have whole : rule.entries = before ++ other :: (after ++ rule.entries.drop limit) := by
        rw [← List.cons_append, ← List.append_assoc, ← shape, List.take_append_drop]
      have first : rule.First property before.length other :=
        .of_shape whole (by simpa using otherHas) (by simpa using clean)
      have below : (rule.entries.take limit).length ≤ limit := List.length_take_le _ _
      rw [shape, List.length_append, List.length_cons] at below
      exact ⟨before.length, other, first, by omega⟩

/-- No entry below a limit has a property exactly when the first one that has it is not below. -/
theorem forall_mem_take_iff {limit : Nat} :
    (∀ entry ∈ rule.entries.take limit, ¬property entry.condition) ↔
      ∀ index entry, rule.First property index entry → limit ≤ index := by
  constructor
  · intro clean index entry first
    by_contra less
    have mem : entry ∈ rule.entries.take limit :=
      List.mem_of_getElem? (i := index) (by rw [List.getElem?_take_of_lt (by omega), first.stands])
    exact clean entry mem first.has
  · intro beyond entry mem has
    rcases exists_first_of_mem_take mem has with ⟨index, other, first, less⟩
    have := beyond index other first
    omega

/-- The entries below a limit are all passed exactly when neither the first one that holds nor the
first bad bound stands there. -/
theorem forall_passes_take_iff {limit : Nat} :
    (∀ entry ∈ rule.entries.take limit, entry.Passes original) ↔
      (∀ index entry, rule.First (Condition.HoldsOf original) index entry → limit ≤ index) ∧
        ∀ index entry, rule.First Condition.HasBadBound index entry → limit ≤ index := by
  rw [← forall_mem_take_iff, ← forall_mem_take_iff, ← forall₂_and]
  simp only [Entry.passes_iff]

theorem First.index_ne {index position : Nat} {entry other : Entry}
    (holds : rule.First (Condition.HoldsOf original) index entry)
    (bad : rule.First Condition.HasBadBound position other) : index ≠ position := by
  rintro rfl
  have same := holds.stands
  rw [bad.stands, Option.some.injEq] at same
  have verdict := Condition.judge_eq_holds_iff.2 holds.has
  rw [← same, Condition.judge_eq_badBound_iff.2 bad.has] at verdict
  cases verdict

theorem First.passes_before_match_iff {index : Nat} {entry : Entry}
    (holds : rule.First (Condition.HoldsOf original) index entry) :
    (∀ earlier ∈ rule.entries.take index, earlier.Passes original) ↔
      ∀ position other, rule.First Condition.HasBadBound position other → index < position := by
  rw [forall_passes_take_iff, ← forall_mem_take_iff]
  constructor
  · rintro ⟨_, beyond⟩ position other bad
    exact Nat.lt_of_le_of_ne (beyond position other bad) (holds.index_ne bad)
  · intro beyond
    exact ⟨holds.least, fun position other bad => Nat.le_of_lt (beyond position other bad)⟩

theorem First.passes_before_bad_iff {index : Nat} {entry : Entry}
    (bad : rule.First Condition.HasBadBound index entry) :
    (∀ earlier ∈ rule.entries.take index, earlier.Passes original) ↔
      ∀ position other, rule.First (Condition.HoldsOf original) position other →
        index < position := by
  rw [forall_passes_take_iff, ← @forall_mem_take_iff rule Condition.HasBadBound]
  constructor
  · rintro ⟨beyond, _⟩ position other holds
    exact Nat.lt_of_le_of_ne (beyond position other holds) (holds.index_ne bad).symm
  · intro beyond
    exact ⟨fun position other holds => Nat.le_of_lt (beyond position other holds), bad.least⟩

theorem forall_mem_entries_iff :
    (∀ entry ∈ rule.entries, ¬property entry.condition) ↔
      ∀ index entry, ¬rule.First property index entry := by
  constructor
  · intro clean index entry first
    exact clean entry (List.mem_of_getElem? first.stands) first.has
  · intro none entry mem has
    rw [← rule.entries.take_length] at mem
    rcases exists_first_of_mem_take mem has with ⟨index, other, first, _⟩
    exact none index other first

theorem forall_passes_iff :
    (∀ entry ∈ rule.entries, entry.Passes original) ↔
      (∀ index entry, ¬rule.First (Condition.HoldsOf original) index entry) ∧
        ∀ index entry, ¬rule.First Condition.HasBadBound index entry := by
  rw [← forall_mem_entries_iff, ← forall_mem_entries_iff, ← forall₂_and]
  simp only [Entry.passes_iff]

/-! ## Skipped positions -/

theorem skippedFrom_eq_map (original : String) (index : Nat) (entries : List Entry) :
    skippedFrom original index entries =
      ((entries.zipIdx index).filter fun pair =>
        pair.1.condition.judge original = .notNumeric).map Prod.snd := by
  induction entries generalizing index with
  | nil => rfl
  | cons head tail ih =>
      rw [skippedFrom, ih, List.zipIdx_cons]
      by_cases skip : head.condition.judge original = .notNumeric
      · simp [skip]
      · simp [skip]

theorem increasing_skippedFrom (original : String) (index : Nat) (entries : List Entry) :
    (skippedFrom original index entries).Pairwise (· < ·) := by
  have positions : ((entries.zipIdx index).map Prod.snd).Pairwise (· < ·) := by
    rw [List.zipIdx_map_snd]
    exact List.pairwise_lt_range'
  rw [skippedFrom_eq_map]
  exact positions.sublist (List.filter_sublist.map Prod.snd)

theorem skips_of_passed {limit : Nat}
    (passed : ∀ entry ∈ rule.entries.take limit, entry.Passes original) :
    rule.Skips original limit (skippedFrom original 0 (rule.entries.take limit)) where
  increasing := increasing_skippedFrom original 0 _
  mem_iff := by
    intro index
    simp only [skippedFrom_eq_map, List.mem_map, List.mem_filter, decide_eq_true_eq, Prod.exists,
      List.mk_mem_zipIdx_iff_getElem?, Condition.judge_eq_notNumeric_iff]
    constructor
    · rintro ⟨entry, _, ⟨stands, isThreshold, _, notNumeric⟩, rfl⟩
      rw [List.getElem?_take, Option.ite_none_right_eq_some] at stands
      exact ⟨stands.1, notNumeric, entry, stands.2, isThreshold⟩
    · rintro ⟨less, notNumeric, entry, stands, isThreshold⟩
      have inTake : (rule.entries.take limit)[index]? = some entry := by
        rw [List.getElem?_take_of_lt less, stands]
      have sound := (Entry.passes_iff.1 (passed entry (List.mem_of_getElem? inTake))).2
      exact ⟨entry, index, ⟨inTake, isThreshold, sound, notNumeric⟩, rfl⟩

theorem skips_of_forall_passes (passed : ∀ entry ∈ rule.entries, entry.Passes original) :
    rule.Skips original rule.entries.length (skippedFrom original 0 rule.entries) := by
  rw [← rule.entries.take_length] at passed
  have skips := skips_of_passed passed
  rw [List.take_length] at skips
  exact skips

theorem Skips.unique {limit : Nat} {skipped others : List Nat}
    (skips : rule.Skips original limit skipped) (again : rule.Skips original limit others) :
    skipped = others := by
  apply List.Pairwise.eq_of_mem_iff skips.increasing again.increasing
  intro index
  rw [skips.mem_iff, again.mem_iff]

/-! ## The search and the decision -/

/-- The search goes on behind entries that a value passes. -/
theorem result_firstMatch_append {before : List Entry} (index : Nat) (rest : List Entry)
    (passed : ∀ earlier ∈ before, earlier.Passes original) :
    (firstMatch param original index (before ++ rest)).result =
      (firstMatch param original (index + before.length) rest).result.map fun decision =>
        { decision with skipped := skippedFrom original index before ++ decision.skipped } := by
  induction before generalizing index with
  | nil =>
      rw [List.nil_append, List.length_nil, Nat.add_zero]
      exact (congrFun Except.map_id _).symm
  | cons entry before ih =>
      have later := ih (index + 1) fun earlier mem => passed earlier (by simp [mem])
      rw [List.length_cons, Nat.add_comm before.length, ← Nat.add_assoc, List.cons_append,
        firstMatch]
      rcases passed entry (by simp) with fails | notNumeric
      · simp only [fails, later, skippedFrom, reduceCtorEq, ↓reduceIte]
      · simp only [notNumeric, later, skippedFrom, ↓reduceIte, Run.result_bind, Run.result_log,
          Run.ok_bind, Run.result_pure]
        cases (firstMatch param original (index + 1 + before.length) rest).result <;> rfl

/-- A search has only one result. -/
theorem Search.result_eq {index : Nat} {entries : List Entry} {result : Except Failure Decision}
    (search : Search param original index entries result) :
    (firstMatch param original index entries).result = result := by
  cases search with
  | matched shape passed holds =>
      rw [shape, result_firstMatch_append index _ passed, firstMatch, holds]
      simp [Except.map]
  | stuck shape passed bad =>
      rw [shape, result_firstMatch_append index _ passed, firstMatch,
        Condition.judge_eq_badBound_iff.2 bad]
      rfl
  | exhausted passed =>
      have whole : entries = entries ++ [] := (List.append_nil _).symm
      rw [whole, result_firstMatch_append index [] passed, firstMatch, ← whole]
      simp [Except.map]

theorem decides_of_search {result : Except Failure Decision} (free : ¬rule.HasInvariant)
    (search : Search param original 0 rule.entries result) :
    rule.Decides param (some original) result := by
  cases search with
  | matched shape passed holds =>
      rename_i before after entry
      have isFirst : rule.First (Condition.HoldsOf original) before.length entry :=
        .of_shape shape (Condition.judge_eq_holds_iff.1 holds) fun earlier mem =>
          (Entry.passes_iff.1 (passed earlier mem)).1
      have taken : rule.entries.take before.length = before := by rw [shape, List.take_left]
      rw [← taken] at passed
      have skips := skips_of_passed passed
      rw [taken] at skips
      rw [Nat.zero_add]
      exact .matched free isFirst (isFirst.passes_before_match_iff.1 passed) skips
  | stuck shape passed bad =>
      rename_i before after entry
      have isFirst : rule.First Condition.HasBadBound before.length entry :=
        .of_shape shape bad fun earlier mem => (Entry.passes_iff.1 (passed earlier mem)).2
      have taken : rule.entries.take before.length = before := by rw [shape, List.take_left]
      rw [← taken] at passed
      exact .stuck free isFirst (isFirst.passes_before_bad_iff.1 passed)
  | exhausted passed =>
      rcases forall_passes_iff.1 passed with ⟨unmatched, sound⟩
      exact .noMatch free unmatched sound (skips_of_forall_passes passed)

theorem decides_decision (rule : Rule) (param : String) (original : Option String) :
    rule.Decides param original (rule.decision param original).result := by
  cases found : rule.replacement? .invariant with
  | some value =>
      rw [decision_of_invariant found]
      exact .invariant (replacement?_eq_some_iff.1 found) original
  | none =>
      have free := replacement?_invariant_eq_none_iff.1 found
      cases original with
      | some value =>
          rw [decision_of_present found]
          exact decides_of_search free (search_firstMatch param value 0 rule.entries)
      | none =>
          rw [decision_of_absent found]
          cases given : rule.replacement? .default with
          | some value => exact .default free (replacement?_eq_some_iff.1 given)
          | none =>
              refine .absent free fun value mem => ?_
              rw [replacement?_eq_some_iff.2 mem] at given
              cases given

theorem Decides.result_eq {original : Option String} {result : Except Failure Decision}
    (decides : rule.Decides param original result) :
    (rule.decision param original).result = result := by
  cases decides with
  | invariant mem => exact decision_of_invariant (replacement?_eq_some_iff.2 mem)
  | default free mem =>
      rw [decision_of_absent (replacement?_invariant_eq_none_iff.2 free),
        replacement?_eq_some_iff.2 mem]
      rfl
  | absent free noDefault =>
      have absent : rule.replacement? .default = none := by
        apply Option.eq_none_iff_forall_ne_some.2
        intro value found
        exact noDefault value (replacement?_eq_some_iff.1 found)
      rw [decision_of_absent (replacement?_invariant_eq_none_iff.2 free), absent]
      rfl
  | stuck free bad unmatched =>
      have passed := bad.passes_before_bad_iff.2 unmatched
      rw [decision_of_present (replacement?_invariant_eq_none_iff.2 free)]
      exact Search.result_eq (.stuck bad.shape passed bad.has)
  | matched free holds sound skips =>
      have passed := holds.passes_before_match_iff.2 sound
      have search : Search param _ 0 rule.entries _ :=
        .matched holds.shape passed (Condition.judge_eq_holds_iff.2 holds.has)
      rw [holds.length_take, Nat.zero_add] at search
      rw [decision_of_present (replacement?_invariant_eq_none_iff.2 free),
        skips.unique (skips_of_passed passed)]
      exact search.result_eq
  | noMatch free unmatched sound skips =>
      have passed := forall_passes_iff.2 ⟨unmatched, sound⟩
      rw [decision_of_present (replacement?_invariant_eq_none_iff.2 free),
        skips.unique (skips_of_forall_passes passed)]
      exact Search.result_eq (.exhausted passed)

/-- A rule decides by its invariant entry, or else about an absent parameter by its default entry,
and about a present one by the first entry that holds of the value, unless it reaches a bound that
is not an integer before. -/
theorem first_match_decides (rule : Rule) (param : String) (original : Option String)
    (result : Except Failure Decision) :
    (rule.decision param original).result = result ↔ rule.Decides param original result := by
  constructor
  · rintro rfl
    exact decides_decision rule param original
  · exact Decides.result_eq

/-- A value that is no integer passes a threshold, which is noted as skipped, on its way to the
entry that names it, and never reaches the bad bound after that. -/
theorem first_match_decides_of_rows :
    (ofEntries [.ofKey "0" "1", .ofKey ">10" "10", .ofKey "all" "50", .ofKey "<few" "1"]).Decides
      "rows" (some "all") (.ok ⟨.matched 2 ⟨.equals "all", "50"⟩, [1]⟩) :=
  (first_match_decides _ _ _ _).1 (by cbv)

end Rule

end ParamRules
