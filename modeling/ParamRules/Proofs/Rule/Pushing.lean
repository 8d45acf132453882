import ParamRules.Proofs.Rule.Entries

/-!
# First places and last replacements

A rule is built from the empty rule, from a single value or from a list of entries, and entries are
pushed on it one by one (`Built`). However that is mixed, the rule depends only on the entries given
on the way, and it is the one rule that `Keeps` them: of all entries with the same condition it has
one, in the place of the first and with the replacement of the last.
-/

namespace ParamRules

namespace Entry

variable {left right : Entry}

theorem sameCondition_iff : left.sameCondition right = true ↔ left.condition = right.condition := by
  simp [sameCondition]

theorem equivalence_sameCondition :
    Equivalence fun left right : Entry => left.sameCondition right = true where
  refl _ := sameCondition_iff.2 rfl
  symm same := sameCondition_iff.2 (sameCondition_iff.1 same).symm
  trans first second :=
    sameCondition_iff.2 ((sameCondition_iff.1 first).trans (sameCondition_iff.1 second))

theorem sameCondition_congr (same : left.condition = right.condition) :
    (fun entry : Entry => entry.sameCondition left) = fun entry => entry.sameCondition right := by
  funext entry
  rw [sameCondition, sameCondition, same]

end Entry

namespace Rule

/-- The rules that can be built, with the entries that were given on the way. -/
inductive Built : List Entry → Rule → Prop where
  | empty : Built [] ∅
  | invariant (value : String) : Built [⟨.invariant, value⟩] (.invariant value)
  | collect (entries : List Entry) : Built entries (.ofEntries entries)
  | push {given : List Entry} {rule : Rule} (built : Built given rule) (entry : Entry) :
      Built (given ++ [entry]) (rule.push entry)

/-- Where the first of some given entries stands that has the condition of another entry. -/
def place (given : List Entry) (entry : Entry) : Nat :=
  given.findIdx (·.sameCondition entry)

/-- A rule keeps one entry for each condition among some given entries, in the order in which the
conditions first occur, with the condition of the first such entry and the replacement of the last
one. -/
structure Keeps (rule : Rule) (given : List Entry) : Prop where
  apart : rule.entries.Pairwise fun earlier later => earlier.sameCondition later = false
  covers : ∀ entry ∈ given, ∃ kept ∈ rule.entries, kept.sameCondition entry = true
  ordered : rule.entries.Pairwise fun earlier later => place given earlier < place given later
  first : ∀ kept ∈ rule.entries, ∃ first,
    given.find? (·.sameCondition kept) = some first ∧ first.condition = kept.condition
  last : ∀ kept ∈ rule.entries, ∃ last,
    given.reverse.find? (·.sameCondition kept) = some last ∧ last.replacement = kept.replacement

variable {given : List Entry} {left right rule : Rule}

theorem place_eq_idxOf (given : List Entry) (entry : Entry) :
    place given entry = (given.map Entry.condition).idxOf entry.condition := by
  rw [List.idxOf, List.findIdx_map]
  rfl

theorem mem_conditions_ofEntries_iff {condition : Condition} :
    condition ∈ (ofEntries given).conditions ↔ ∃ entry ∈ given, entry.condition = condition := by
  rw [conditions_ofEntries, List.mem_eraseDups, List.mem_map]

theorem replacement?_ofEntries_eq_find? (given : List Entry) (condition : Condition) :
    (ofEntries given).replacement? condition =
      (given.reverse.find? (·.condition == condition)).map Entry.replacement := by
  rw [replacement?_ofEntries, assignments, ← List.map_reverse]
  exact lookup_assignments given.reverse condition

theorem keeps_ofEntries (given : List Entry) : (ofEntries given).Keeps given where
  apart := by
    have distinct := (ofEntries given).distinct
    rw [List.Nodup, List.pairwise_map] at distinct
    refine distinct.imp fun {earlier later} different => ?_
    rw [← Bool.not_eq_true, Entry.sameCondition_iff]
    exact different
  covers := by
    intro entry mem
    have found : entry.condition ∈ (ofEntries given).conditions :=
      mem_conditions_ofEntries_iff.2 ⟨entry, mem, rfl⟩
    rcases List.mem_map.1 found with ⟨kept, keptMem, same⟩
    exact ⟨kept, keptMem, Entry.sameCondition_iff.2 same⟩
  ordered := by
    have increasing := Occurrence.pairwise_idxOf_eraseDups (given.map Entry.condition)
    rw [← conditions_ofEntries, conditions, List.pairwise_map] at increasing
    simpa only [place_eq_idxOf] using increasing
  first := by
    intro kept mem
    rcases mem_conditions_ofEntries_iff.1 (List.mem_map_of_mem mem) with ⟨entry, entryMem, same⟩
    cases found : given.find? (·.sameCondition kept) with
    | none =>
        have absent := List.find?_eq_none.1 found entry entryMem
        exact absurd (Entry.sameCondition_iff.2 same) absent
    | some first =>
        have firstSame := List.find?_some found
        exact ⟨first, rfl, Entry.sameCondition_iff.1 firstSame⟩
  last := by
    intro kept mem
    have found := replacement?_eq_some_iff.2 mem
    rw [replacement?_ofEntries_eq_find?, Option.map_eq_some_iff] at found
    exact found

theorem Keeps.mem_of_keeps (leftKeeps : left.Keeps given) (rightKeeps : right.Keeps given)
    {entry : Entry} (mem : entry ∈ left.entries) : entry ∈ right.entries := by
  -- The other rule covers the first given entry with this condition, and with the replacement of
  -- the last one, which is the replacement here too.
  rcases leftKeeps.first entry mem with ⟨first, isFirst, firstCondition⟩
  rcases rightKeeps.covers first (List.mem_of_find?_eq_some isFirst) with ⟨kept, keptMem, same⟩
  have sameCondition : kept.condition = entry.condition :=
    (Entry.sameCondition_iff.1 same).trans firstCondition
  rcases leftKeeps.last entry mem with ⟨last, isLast, lastReplacement⟩
  rcases rightKeeps.last kept keptMem with ⟨other, otherIsLast, otherReplacement⟩
  rw [Entry.sameCondition_congr sameCondition, isLast, Option.some.injEq] at otherIsLast
  have sameReplacement : kept.replacement = entry.replacement := by
    rw [← otherReplacement, ← otherIsLast, lastReplacement]
  have found : (⟨kept.condition, kept.replacement⟩ : Entry) ∈ right.entries := keptMem
  rwa [sameCondition, sameReplacement] at found

/-- Only one rule keeps some given entries. -/
theorem Keeps.unique (leftKeeps : left.Keeps given) (rightKeeps : right.Keeps given) :
    left = right := by
  ext1
  have : Std.Irrefl fun earlier later : Entry => place given earlier < place given later :=
    ⟨fun entry => Nat.lt_irrefl _⟩
  have : Std.Antisymm fun earlier later : Entry => place given earlier < place given later :=
    ⟨fun earlier later less greater => absurd (Nat.lt_trans less greater) (Nat.lt_irrefl _)⟩
  exact leftKeeps.ordered.eq_of_mem_iff rightKeeps.ordered fun entry =>
    ⟨leftKeeps.mem_of_keeps rightKeeps, rightKeeps.mem_of_keeps leftKeeps⟩

theorem ofEntries_append (front back : List Entry) :
    ofEntries (front ++ back) = back.foldl push (ofEntries front) :=
  List.foldl_append

theorem Built.eq_ofEntries (built : Built given rule) : rule = ofEntries given := by
  induction built with
  | empty => rfl
  | invariant value => rfl
  | collect entries => rfl
  | push _ entry ih => rw [ofEntries_append, ← ih, List.foldl_cons, List.foldl_nil]

theorem built_iff_keeps : Built given rule ↔ rule.Keeps given := by
  constructor
  · intro built
    rw [built.eq_ofEntries]
    exact keeps_ofEntries given
  · intro keeps
    rw [keeps.unique (keeps_ofEntries given)]
    exact .collect given

/-- A rule keeps the entries that it was built from, each condition in the place where it was given
first and with the replacement that it was given last, and no other rule does. Building it from a
list or entry by entry is the same. What counts as the same condition is an equivalence, and
replacements do not matter to it. -/
theorem first_places_and_last_replacements :
    (∀ given rule, Built given rule ↔ rule.Keeps given) ∧
    (∀ front back, ofEntries (front ++ back) = back.foldl push (ofEntries front)) ∧
    (∀ given rule, Built given rule → ∀ condition,
      rule.conditions.count condition ≤ 1 ∧
      rule.replacement? condition =
        (given.reverse.find? (·.condition == condition)).map Entry.replacement) ∧
    (Equivalence fun left right : Entry => left.sameCondition right = true) ∧
    ∀ (left right : Entry) (first second : String),
      Entry.sameCondition { left with replacement := first } { right with replacement := second } =
        left.sameCondition right := by
  refine ⟨fun _ _ => built_iff_keeps, ofEntries_append, ?_, Entry.equivalence_sameCondition, ?_⟩
  · intro given rule built condition
    refine ⟨List.nodup_iff_count_le_one.1 rule.distinct condition, ?_⟩
    rw [built.eq_ofEntries, replacement?_ofEntries_eq_find?]
  · intro left right first second
    rfl

/-- A key given twice keeps its first place and takes its last replacement, also when the first
entries came as a list and the rest one by one. -/
theorem first_places_and_last_replacements_of_rows :
    ((ofEntries [.ofKey "a" "1", .ofKey "default" "0"]).push (.ofKey "a" "2")).Keeps
        [.ofKey "a" "1", .ofKey "default" "0", .ofKey "a" "2"] ∧
      ((ofEntries [.ofKey "a" "1", .ofKey "default" "0"]).push (.ofKey "a" "2")).entries =
        [.ofKey "a" "2", .ofKey "default" "0"] ∧
      ((ofEntries [.ofKey "a" "1", .ofKey "default" "0"]).push (.ofKey "a" "2")).replacement?
        .default = some "0" := by
  have built : Built [.ofKey "a" "1", .ofKey "default" "0", .ofKey "a" "2"]
      ((ofEntries [.ofKey "a" "1", .ofKey "default" "0"]).push (.ofKey "a" "2")) :=
    .push (.collect [.ofKey "a" "1", .ofKey "default" "0"]) (.ofKey "a" "2")
  have counted := first_places_and_last_replacements.2.2.1 _ _ built .default
  exact ⟨(first_places_and_last_replacements.1 _ _).1 built, by decide, counted.2.trans (by decide)⟩

end Rule

end ParamRules
