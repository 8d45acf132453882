import ParamRules.Proofs.Rule.Entries
import ParamRules.Proofs.Run
import ParamRules.Rule.Decision

/-!
# Which entry of a rule decides

Entries are tried on a present value until one of them stops the search. `Search` lists the three
ways in which that can end: an entry holds of the value, a threshold is reached whose bound is not
an integer, or the value passes all entries. `search_firstMatch` says that there is no other.

A rule fails on some value exactly when it has such a threshold and no invariant entry, which would
decide before. `outsider` is a value on which it then fails: no entry holds of it, so nothing stops
the search before the bad bound.
-/

namespace ParamRules

namespace Condition

/-- A threshold whose bound is not a 64-bit integer. -/
def HasBadBound (condition : Condition) : Prop :=
  ∃ direction bound, condition = .threshold direction bound ∧ Text.Integer.read? bound = none

theorem judge_eq_badBound_iff {condition : Condition} {value : String} :
    condition.judge value = .badBound ↔ condition.HasBadBound := by
  cases condition with
  | invariant => simp [judge, HasBadBound]
  | default => simp [judge, HasBadBound]
  | equals text =>
      simp only [judge, HasBadBound]
      split <;> simp
  | threshold direction bound =>
      simp only [judge, HasBadBound, threshold.injEq]
      cases bounded : Text.Integer.read? bound with
      | none => simp [bounded]
      | some limit =>
          cases Text.Integer.read? value with
          | none => simp [bounded]
          | some number =>
              dsimp only
              split <;> simp [bounded]

theorem badBound?_eq_none_iff {condition : Condition} :
    condition.badBound? = none ↔ ¬condition.HasBadBound := by
  cases condition <;> simp [badBound?, HasBadBound]

theorem badBound?_eq_some_iff {condition : Condition} {bound : String} :
    condition.badBound? = some bound ↔
      condition.HasBadBound ∧ ∃ direction, condition = .threshold direction bound := by
  cases condition with
  | threshold direction text =>
      simp only [badBound?, HasBadBound, Option.isNone_iff_eq_none]
      split <;> simp_all [eq_comm]
  | _ => simp [badBound?]

end Condition

/-- A present value passes an entry that neither holds of it nor makes the rule fail. -/
def Entry.Passes (entry : Entry) (original : String) : Prop :=
  entry.condition.judge original = .fails ∨ entry.condition.judge original = .notNumeric

namespace Rule

/-- Where the thresholds stand among some entries that are skipped because a value is not an
integer. -/
def skippedFrom (original : String) (index : Nat) : List Entry → List Nat
  | [] => []
  | entry :: later =>
      if entry.condition.judge original = .notNumeric then
        index :: skippedFrom original (index + 1) later
      else skippedFrom original (index + 1) later

theorem skippedFrom_cons (original : String) (index : Nat) (entry : Entry) (later : List Entry) :
    skippedFrom original index (entry :: later) =
      skippedFrom original index [entry] ++ skippedFrom original (index + 1) later := by
  simp only [skippedFrom]
  split <;> simp

/-- How the search for the first entry that holds of a present value ends. -/
inductive Search (param original : String) (index : Nat) (entries : List Entry) :
    Except Failure Decision → Prop where
  | matched {before after : List Entry} {entry : Entry} (shape : entries = before ++ entry :: after)
      (passed : ∀ earlier ∈ before, earlier.Passes original)
      (holds : entry.condition.judge original = .holds) :
      Search param original index entries
        (.ok ⟨.matched (index + before.length) entry, skippedFrom original index before⟩)
  | stuck {before after : List Entry} {entry : Entry} (shape : entries = before ++ entry :: after)
      (passed : ∀ earlier ∈ before, earlier.Passes original)
      (bad : entry.condition.HasBadBound) :
      Search param original index entries (.error (.invalidThreshold param entry.text))
  | exhausted (passed : ∀ entry ∈ entries, entry.Passes original) :
      Search param original index entries (.ok ⟨.noMatch, skippedFrom original index entries⟩)

namespace Search

variable {param original : String} {index : Nat} {entry : Entry} {later : List Entry}
  {result : Except Failure Decision}

theorem cons (passes : entry.Passes original)
    (search : Search param original (index + 1) later result) :
    Search param original index (entry :: later)
      (result.map fun decision =>
        { decision with skipped := skippedFrom original index [entry] ++ decision.skipped }) := by
  cases search with
  | matched shape passed holds =>
      rename_i before after found
      have whole : entry :: later = (entry :: before) ++ found :: after := by simp [shape]
      have search : Search param original index (entry :: later)
          (.ok ⟨.matched (index + (entry :: before).length) found,
            skippedFrom original index (entry :: before)⟩) :=
        .matched whole (List.forall_mem_cons.2 ⟨passes, passed⟩) holds
      rw [skippedFrom_cons, List.length_cons, Nat.add_comm before.length, ← Nat.add_assoc] at search
      exact search
  | stuck shape passed bad =>
      rename_i before after found
      have whole : entry :: later = (entry :: before) ++ found :: after := by simp [shape]
      exact .stuck whole (List.forall_mem_cons.2 ⟨passes, passed⟩) bad
  | exhausted passed =>
      have search : Search param original index (entry :: later)
          (.ok ⟨.noMatch, skippedFrom original index (entry :: later)⟩) :=
        .exhausted (List.forall_mem_cons.2 ⟨passes, passed⟩)
      rw [skippedFrom_cons] at search
      exact search

end Search

theorem search_firstMatch (param original : String) (index : Nat) (entries : List Entry) :
    Search param original index entries (firstMatch param original index entries).result := by
  induction entries generalizing index with
  | nil => exact .exhausted (by simp)
  | cons entry later ih =>
      have here : entry :: later = [] ++ entry :: later := rfl
      have nothing : ∀ earlier ∈ ([] : List Entry), earlier.Passes original := by simp
      cases verdict : entry.condition.judge original with
      | holds =>
          have search : Search param original index (entry :: later)
              (.ok ⟨.matched index entry, []⟩) := .matched here nothing verdict
          simpa [firstMatch, verdict, Except.map] using search
      | fails =>
          have search := (ih (index + 1)).cons (Or.inl verdict)
          have unchanged : (fun decision : Decision => { decision with
              skipped := skippedFrom original index [entry] ++ decision.skipped }) = id := by
            funext decision
            simp [skippedFrom, verdict]
          rw [unchanged, Except.map_id] at search
          simpa [firstMatch, verdict] using search
      | notNumeric =>
          have search := (ih (index + 1)).cons (Or.inr verdict)
          simpa [firstMatch, verdict, skippedFrom] using search
      | badBound =>
          have bad := Condition.judge_eq_badBound_iff.1 verdict
          have search : Search param original index (entry :: later)
              (.error (.invalidThreshold param entry.text)) := .stuck here nothing bad
          simpa [firstMatch, verdict] using search

/-! ## The rule as a whole -/

/-- A rule that decides about every request alike. -/
def HasInvariant (rule : Rule) : Prop :=
  ∃ entry ∈ rule.entries, entry.condition = .invariant

/-- A rule with a threshold whose bound is not a 64-bit integer. -/
def HasBadBound (rule : Rule) : Prop :=
  ∃ entry ∈ rule.entries, entry.condition.HasBadBound

variable {rule : Rule} {param : String} {original : Option String}

theorem replacement?_invariant_eq_none_iff :
    rule.replacement? .invariant = none ↔ ¬rule.HasInvariant := by
  simp [replacement?, HasInvariant]

theorem decision_of_invariant {value : String}
    (found : rule.replacement? .invariant = some value) :
    (rule.decision param original).result = .ok ⟨.invariant value, []⟩ := by
  simp [decision, found, Except.map]

theorem decision_of_absent (noInvariant : rule.replacement? .invariant = none) :
    (rule.decision param none).result =
      .ok ⟨((rule.replacement? .default).map Outcome.default).getD .absent, []⟩ := by
  cases given : rule.replacement? .default with
  | none => simp [decision, noInvariant, given]
  | some value => simp [decision, noInvariant, given, Except.map]

theorem decision_of_present {value : String} (noInvariant : rule.replacement? .invariant = none) :
    rule.decision param (some value) = firstMatch param value 0 rule.entries := by
  simp [decision, noInvariant]

theorem exists_badBound_of_decision_error {failure : Failure}
    (fails : (rule.decision param original).result = .error failure) :
    ¬rule.HasInvariant ∧ ∃ entry ∈ rule.entries, entry.condition.HasBadBound ∧
      failure = .invalidThreshold param entry.text := by
  rw [← replacement?_invariant_eq_none_iff]
  cases found : rule.replacement? .invariant with
  | some value => simp [decision_of_invariant found] at fails
  | none =>
      cases original with
      | none => simp [decision_of_absent found] at fails
      | some value =>
          rw [decision_of_present found] at fails
          have search := search_firstMatch param value 0 rule.entries
          rw [fails] at search
          cases search with
          | stuck shape passed bad => exact ⟨rfl, _, by simp [shape], bad, rfl⟩

/-- A value of which no entry holds: it is longer than every key and not an integer. -/
def outsider (entries : List Entry) : String :=
  String.ofList ('x' :: entries.flatMap fun entry => entry.key.toList)

theorem read?_outsider (entries : List Entry) : Text.Integer.read? (outsider entries) = none := by
  simp [outsider, Text.Integer.read?, Text.Integer.readSigned?, Text.Integer.readDigits?]

theorem key_ne_outsider {entries : List Entry} {entry : Entry} (mem : entry ∈ entries) :
    entry.key ≠ outsider entries := by
  intro same
  rcases List.append_of_mem mem with ⟨before, after, rfl⟩
  have sameLength := congrArg (fun text => text.toList.length) same
  simp only [outsider, String.toList_ofList, List.flatMap_append, List.flatMap_cons,
    List.length_cons, List.length_append] at sameLength
  omega

theorem judge_outsider_ne_holds {entries : List Entry} {entry : Entry} (mem : entry ∈ entries) :
    entry.condition.judge (outsider entries) ≠ .holds := by
  have different := key_ne_outsider mem
  unfold Entry.key at different
  cases shape : entry.condition with
  | invariant => simp [Condition.judge]
  | default => simp [Condition.judge]
  | equals text =>
      rw [shape] at different
      simpa [Condition.judge, Condition.key] using different
  | threshold direction bound =>
      simp only [Condition.judge, read?_outsider]
      cases Text.Integer.read? bound with
      | none => simp
      | some limit => simp

theorem exists_decision_outsider_error (noInvariant : ¬rule.HasInvariant)
    (badBound : rule.HasBadBound) :
    ∃ failure, (rule.decision param (some (outsider rule.entries))).result = .error failure := by
  rw [decision_of_present (replacement?_invariant_eq_none_iff.2 noInvariant)]
  have search := search_firstMatch param (outsider rule.entries) 0 rule.entries
  generalize (firstMatch param (outsider rule.entries) 0 rule.entries).result = result at search ⊢
  cases search with
  | matched shape passed holds => exact absurd holds (judge_outsider_ne_holds (by simp [shape]))
  | stuck shape passed bad => exact ⟨_, rfl⟩
  | exhausted passed =>
      rcases badBound with ⟨entry, mem, bad⟩
      have stops : entry.condition.judge (outsider rule.entries) = .badBound :=
        Condition.judge_eq_badBound_iff.2 bad
      rcases passed entry mem with fails | notNumeric
      · simp [stops] at fails
      · simp [stops] at notNumeric

theorem getElem?_of_decision_matched {decision : Decision} {index : Nat} {entry : Entry}
    (decided : (rule.decision param original).result = .ok decision)
    (matched : decision.outcome = .matched index entry) : rule.entries[index]? = some entry := by
  cases found : rule.replacement? .invariant with
  | some value =>
      rw [decision_of_invariant found, Except.ok.injEq] at decided
      simp [← decided] at matched
  | none =>
      cases original with
      | none =>
          rw [decision_of_absent found, Except.ok.injEq] at decided
          cases given : rule.replacement? .default <;> simp [← decided, given] at matched
      | some value =>
          rw [decision_of_present found] at decided
          have search := search_firstMatch param value 0 rule.entries
          rw [decided] at search
          cases search with
          | matched shape passed holds =>
              simp only [Outcome.matched.injEq, Nat.zero_add] at matched
              rcases matched with ⟨rfl, rfl⟩
              simp [shape]
          | exhausted passed => simp at matched

end Rule

end ParamRules
