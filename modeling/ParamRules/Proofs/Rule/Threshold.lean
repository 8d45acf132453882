import ParamRules.Proofs.Rule.FirstMatch
import ParamRules.Proofs.Text.Integer

/-!
# Thresholds compare integers

A threshold sees the integers that its bound and a value denote and never how they are spelled. So a
rule that is one threshold takes every spelling of an integer in the same way, as a bound and as a
value (`takesAlike_of_bounds`, `takesAlike_of_values`), and the bounds at which it fires on a value
are those on one side of the integer that the value denotes (`mem_firingBounds_iff`).
-/

namespace ParamRules

open Text.Integer (Fits IsNumeral read? read?_eq_some_iff read?_write write)

namespace Rule

/-- The rule whose only entry is a threshold. -/
def ofThreshold (direction : Direction) (bound replacement : String) : Rule :=
  ofEntries [⟨.threshold direction bound, replacement⟩]

/-! ## What a rule does with a value -/

/-- The rule gives the parameter a value. -/
def FiresOn (rule : Rule) (param : String) (original : Option String) : Prop :=
  ∃ decision, (rule.decision param original).result = .ok decision ∧
    decision.outcome.fired = true

/-- The rule passes over a threshold because the value is not an integer. -/
def SkipsOn (rule : Rule) (param : String) (original : Option String) : Prop :=
  ∃ decision, (rule.decision param original).result = .ok decision ∧ decision.skipped ≠ []

def FailsOn (rule : Rule) (param : String) (original : Option String) : Prop :=
  ∃ failure, (rule.decision param original).result = .error failure

/-- One rule does with a value what another rule does with another value. -/
structure TakesAlike (left : Rule) (original : Option String) (right : Rule)
    (other : Option String) : Prop where
  fires : ∀ param, left.FiresOn param original ↔ right.FiresOn param other
  skips : ∀ param, left.SkipsOn param original ↔ right.SkipsOn param other
  fails : ∀ param, left.FailsOn param original ↔ right.FailsOn param other

variable {direction : Direction} {bound replacement param text : String}
  {original : Option String}

theorem decision_ofThreshold_absent :
    ((ofThreshold direction bound replacement).decision param none).result =
      .ok ⟨.absent, []⟩ :=
  decision_of_absent rfl

theorem decision_ofThreshold_present :
    ((ofThreshold direction bound replacement).decision param (some text)).result =
      match (Condition.threshold direction bound).judge text with
      | .holds => .ok ⟨.matched 0 ⟨.threshold direction bound, replacement⟩, []⟩
      | .fails => .ok ⟨.noMatch, []⟩
      | .notNumeric => .ok ⟨.noMatch, [0]⟩
      | .badBound => .error
          (.invalidThreshold param (Entry.text ⟨.threshold direction bound, replacement⟩)) := by
  have entries : (ofThreshold direction bound replacement).entries =
      [⟨.threshold direction bound, replacement⟩] := rfl
  rw [decision_of_present rfl, entries, firstMatch]
  dsimp only
  cases (Condition.threshold direction bound).judge text <;> rfl

theorem firesOn_ofThreshold_iff :
    (ofThreshold direction bound replacement).FiresOn param original ↔
      ∃ text limit number, original = some text ∧ read? bound = some limit ∧
        read? text = some number ∧ direction.admits number limit = true := by
  cases original with
  | none => simp [FiresOn, decision_ofThreshold_absent, Outcome.fired, Outcome.replacement?]
  | some text =>
      have holds : (ofThreshold direction bound replacement).FiresOn param (some text) ↔
          (Condition.threshold direction bound).judge text = .holds := by
        rw [FiresOn, decision_ofThreshold_present]
        cases (Condition.threshold direction bound).judge text <;>
          simp [Outcome.fired, Outcome.replacement?]
      rw [holds, Condition.judge_eq_holds_iff, Condition.holdsOf_threshold_iff]
      simp

theorem skipsOn_ofThreshold_iff :
    (ofThreshold direction bound replacement).SkipsOn param original ↔
      ∃ text, original = some text ∧ read? bound ≠ none ∧ read? text = none := by
  cases original with
  | none => simp [SkipsOn, decision_ofThreshold_absent]
  | some text =>
      have skips : (ofThreshold direction bound replacement).SkipsOn param (some text) ↔
          (Condition.threshold direction bound).judge text = .notNumeric := by
        rw [SkipsOn, decision_ofThreshold_present]
        cases (Condition.threshold direction bound).judge text <;> simp
      rw [skips, Condition.judge_eq_notNumeric_iff]
      simp [Condition.IsThreshold, Condition.HasBadBound]

theorem failsOn_ofThreshold_iff :
    (ofThreshold direction bound replacement).FailsOn param original ↔
      original ≠ none ∧ read? bound = none := by
  cases original with
  | none => simp [FailsOn, decision_ofThreshold_absent]
  | some text =>
      have fails : (ofThreshold direction bound replacement).FailsOn param (some text) ↔
          (Condition.threshold direction bound).judge text = .badBound := by
        rw [FailsOn, decision_ofThreshold_present]
        cases (Condition.threshold direction bound).judge text <;> simp
      rw [fails, Condition.judge_eq_badBound_iff]
      simp [Condition.HasBadBound]

/-! ## Spellings do not matter -/

/-- Two spellings of an integer are read alike, also when the integer is too large. -/
theorem read?_eq_of_isNumeral {integer : Int} {spelling other : String}
    (spelled : IsNumeral spelling.toList integer) (again : IsNumeral other.toList integer) :
    read? spelling = read? other := by
  have signed := Text.Integer.readSigned?_eq_some_iff.2 spelled
  rw [← Text.Integer.readSigned?_eq_some_iff.2 again] at signed
  rw [read?, read?, signed]

theorem takesAlike_of_bounds {other : String} (same : read? bound = read? other)
    (direction : Direction) (replacement : String) (original : Option String) :
    TakesAlike (ofThreshold direction bound replacement) original
      (ofThreshold direction other replacement) original where
  fires := fun param => by rw [firesOn_ofThreshold_iff, firesOn_ofThreshold_iff, same]
  skips := fun param => by rw [skipsOn_ofThreshold_iff, skipsOn_ofThreshold_iff, same]
  fails := fun param => by rw [failsOn_ofThreshold_iff, failsOn_ofThreshold_iff, same]

theorem takesAlike_of_values {other : String} (same : read? text = read? other)
    (direction : Direction) (bound replacement : String) :
    TakesAlike (ofThreshold direction bound replacement) (some text)
      (ofThreshold direction bound replacement) (some other) where
  fires := fun param => by simp [firesOn_ofThreshold_iff, same]
  skips := fun param => by simp [skipsOn_ofThreshold_iff, same]
  fails := fun param => by simp [failsOn_ofThreshold_iff]

/-! ## The bounds at which a threshold fires -/

/-- The integers as bounds at which a threshold fires on a value. -/
def firingBounds (direction : Direction) (replacement param : String) (original : Option String) :
    Set {limit : Int // Fits limit} :=
  {limit | ∃ bound, read? bound = some limit.1 ∧
    (ofThreshold direction bound replacement).FiresOn param original}

theorem mem_firingBounds_iff {limit : {limit : Int // Fits limit}} :
    limit ∈ firingBounds direction replacement param original ↔
      ∃ text number, original = some text ∧ read? text = some number ∧
        direction.admits number limit.1 = true := by
  simp only [firingBounds, Set.mem_ofPred_eq, firesOn_ofThreshold_iff]
  constructor
  · rintro ⟨bound, bounded, text, other, number, present, boundedAgain, numeric, admits⟩
    rw [bounded, Option.some.injEq] at boundedAgain
    rw [← boundedAgain] at admits
    exact ⟨text, number, present, numeric, admits⟩
  · rintro ⟨text, number, present, numeric, admits⟩
    have written : read? (write limit.1) = some limit.1 := by rw [read?_write, if_pos limit.2]
    exact ⟨write limit.1, written, text, limit.1, number, present, written, numeric, admits⟩

theorem isLowerSet_firingBounds :
    IsLowerSet (firingBounds .atLeast replacement param original) := by
  intro upper lower ordered mem
  rw [mem_firingBounds_iff] at mem ⊢
  rcases mem with ⟨text, number, present, numeric, admits⟩
  have less : lower.1 ≤ upper.1 := ordered
  have reached : upper.1 ≤ number := by simpa [Direction.admits] using admits
  exact ⟨text, number, present, numeric, by simpa [Direction.admits] using less.trans reached⟩

theorem isUpperSet_firingBounds :
    IsUpperSet (firingBounds .atMost replacement param original) := by
  intro lower upper ordered mem
  rw [mem_firingBounds_iff] at mem ⊢
  rcases mem with ⟨text, number, present, numeric, admits⟩
  have less : lower.1 ≤ upper.1 := ordered
  have reached : number ≤ lower.1 := by simpa [Direction.admits] using admits
  exact ⟨text, number, present, numeric, by simpa [Direction.admits] using reached.trans less⟩

theorem mem_firingBounds_of_read {number : Int} (numeric : read? text = some number)
    {limit : {limit : Int // Fits limit}} :
    limit ∈ firingBounds direction replacement param (some text) ↔
      direction.admits number limit.1 = true := by
  simp [mem_firingBounds_iff, numeric]

/-- Every bound lies on one side of an integer, and only the integer itself on both. -/
theorem firingBounds_of_read {number : Int} (numeric : read? text = some number) :
    firingBounds .atLeast replacement param (some text) ∪
        firingBounds .atMost replacement param (some text) = Set.univ ∧
      Subtype.val '' (firingBounds .atLeast replacement param (some text) ∩
        firingBounds .atMost replacement param (some text)) = {number} := by
  have fits : Fits number := (read?_eq_some_iff.1 numeric).2
  constructor
  · rw [Set.eq_univ_iff_forall]
    intro limit
    rw [Set.mem_union, mem_firingBounds_of_read numeric, mem_firingBounds_of_read numeric]
    simpa [Direction.admits] using le_total limit.1 number
  · ext limit
    simp only [Set.mem_image, Set.mem_inter_iff, mem_firingBounds_of_read numeric,
      Direction.admits, decide_eq_true_eq, Set.mem_singleton_iff]
    constructor
    · rintro ⟨⟨_, _⟩, ⟨below, above⟩, rfl⟩
      exact le_antisymm below above
    · rintro rfl
      exact ⟨⟨limit, fits⟩, ⟨le_refl _, le_refl _⟩, rfl⟩

/-- What a threshold does depends on the integers that its bound and the value spell, if they fit in
64 bits, and on nothing else. It fires on the integers on its side of the bound; so for one value
the bounds of `>` end at its integer and those of `<` begin there. -/
theorem thresholds_compare_integers :
    (∀ text integer, read? text = some integer ↔
      IsNumeral text.toList integer ∧ -2 ^ 63 ≤ integer ∧ integer ≤ 2 ^ 63 - 1) ∧
    (∀ bound limit, read? bound = some limit → ∀ replacement param original,
      ((ofThreshold .atLeast bound replacement).FiresOn param original ↔
        ∃ text number, original = some text ∧ read? text = some number ∧ limit ≤ number) ∧
      ((ofThreshold .atMost bound replacement).FiresOn param original ↔
        ∃ text number, original = some text ∧ read? text = some number ∧ number ≤ limit)) ∧
    (∀ integer spelling other, IsNumeral spelling.toList integer →
      IsNumeral other.toList integer → ∀ direction replacement,
        (∀ original, TakesAlike (ofThreshold direction spelling replacement) original
          (ofThreshold direction other replacement) original) ∧
        ∀ bound, TakesAlike (ofThreshold direction bound replacement) (some spelling)
          (ofThreshold direction bound replacement) (some other)) ∧
    ∀ replacement param,
      (∀ original, IsLowerSet (firingBounds .atLeast replacement param original) ∧
        IsUpperSet (firingBounds .atMost replacement param original)) ∧
      ∀ text number, read? text = some number →
        firingBounds .atLeast replacement param (some text) ∪
            firingBounds .atMost replacement param (some text) = Set.univ ∧
          Subtype.val '' (firingBounds .atLeast replacement param (some text) ∩
            firingBounds .atMost replacement param (some text)) = {number} := by
  refine ⟨fun _ _ => read?_eq_some_iff, ?_, ?_, ?_⟩
  · intro bound limit bounded replacement param original
    simp [firesOn_ofThreshold_iff, bounded, Direction.admits]
  · intro integer spelling other spelled again direction replacement
    have same := read?_eq_of_isNumeral spelled again
    exact ⟨fun original => takesAlike_of_bounds same direction replacement original,
      fun bound => takesAlike_of_values same direction bound replacement⟩
  · intro replacement param
    exact ⟨fun _ => ⟨isLowerSet_firingBounds, isUpperSet_firingBounds⟩,
      fun _ _ numeric => firingBounds_of_read numeric⟩

/-- A cap with a sign and a leading zero is the cap `100`, also for a value of no integer, and the
only bound at which both thresholds fire on `-0` is zero. -/
theorem thresholds_compare_integers_of_rows :
    read? "+0100" = some 100 ∧ IsNumeral "+0100".toList 100 ∧ IsNumeral "100".toList 100 ∧
      read? "-0" = some 0 ∧
      (ofThreshold .atLeast "+0100" "100").FiresOn "rows" (some "0500") ∧
      TakesAlike (ofThreshold .atLeast "+0100" "100") (some "all")
        (ofThreshold .atLeast "100" "100") (some "all") ∧
      Subtype.val '' (firingBounds .atLeast "100" "rows" (some "-0") ∩
        firingBounds .atMost "100" "rows" (some "-0")) = {0} := by
  rcases thresholds_compare_integers with ⟨reads, fires, spellings, bounds⟩
  have bounded : read? "+0100" = some 100 := by cbv
  have spelled := ((reads _ _).1 bounded).1
  have again := ((reads "100" 100).1 (by cbv)).1
  have zero : read? "-0" = some 0 := by cbv
  refine ⟨bounded, spelled, again, zero, ?_, ?_, ?_⟩
  · exact (fires _ _ bounded _ _ _).1.2 ⟨"0500", 500, rfl, by cbv, by decide⟩
  · exact (spellings _ _ _ spelled again _ _).1 _
  · exact ((bounds _ _).2 _ _ zero).2

end Rule

end ParamRules
