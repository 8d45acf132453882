import ParamRules.Proofs.Occurrence
import ParamRules.Rule.Basic

/-!
# What pushing entries makes of a rule

A rule is determined by the order of its conditions and by the replacement of each of them
(`ext_conditions`). Pushing a list of entries leaves the conditions in order of their first
occurrence (`conditions_ofEntries`), each with the replacement given last
(`replacement?_ofEntries`). Pushing the entries that a rule has makes the rule again.
-/

namespace ParamRules

namespace Condition

@[simp]
theorem key_ofKey (key : String) : (ofKey key).key = key := by
  unfold ofKey
  split
  · simp_all [Condition.key]
  · split
    · simp_all [Condition.key]
    · split
      · rename_i bound shape
        simp [Condition.key, Direction.sign, ← shape]
      · rename_i bound shape
        simp [Condition.key, Direction.sign, ← shape]
      · rfl

theorem ofKey_injective : Function.Injective ofKey := by
  intro left right same
  rw [← key_ofKey left, same, key_ofKey]

end Condition

namespace Rule

/-- The conditions of a rule in the order in which they are tried. -/
def conditions (rule : Rule) : List Condition :=
  rule.entries.map Entry.condition

/-- Each condition with its replacement, in order. -/
def assignments (entries : List Entry) : List (Condition × String) :=
  entries.map fun entry => (entry.condition, entry.replacement)

theorem keys_assignments (entries : List Entry) :
    (assignments entries).map Prod.fst = entries.map Entry.condition := by
  simp [assignments, Function.comp_def]

theorem lookup_assignments (entries : List Entry) (condition : Condition) :
    (assignments entries).lookup condition =
      (entries.find? (·.condition == condition)).map Entry.replacement := by
  induction entries with
  | nil => rfl
  | cons head tail ih =>
      rw [assignments, List.map_cons, Occurrence.lookup_cons_eq_ite, ← assignments, ih]
      by_cases same : head.condition = condition
      · simp [same]
      · rw [List.find?_cons_of_neg (by simpa using same), if_neg (Ne.symm same)]

theorem replacement?_eq_lookup (rule : Rule) (condition : Condition) :
    rule.replacement? condition = (assignments rule.entries).lookup condition :=
  (lookup_assignments rule.entries condition).symm

theorem replacement?_eq_some_iff {rule : Rule} {condition : Condition} {replacement : String} :
    rule.replacement? condition = some replacement ↔ ⟨condition, replacement⟩ ∈ rule.entries := by
  rw [replacement?_eq_lookup, Occurrence.lookup_eq_some_iff_mem]
  · simp only [assignments]
    constructor
    · intro mem
      rcases List.mem_map.1 mem with ⟨entry, entryMem, shape⟩
      simp only [Prod.mk.injEq] at shape
      rcases shape with ⟨rfl, rfl⟩
      exact entryMem
    · intro mem
      exact List.mem_map.2 ⟨_, mem, rfl⟩
  · rw [keys_assignments]
    exact rule.distinct

theorem entries_eq_map (rule : Rule) :
    rule.entries =
      rule.conditions.map fun condition => ⟨condition, (rule.replacement? condition).getD ""⟩ := by
  simp only [conditions]
  rw [List.map_map, List.map_congr_left, List.map_id]
  intro entry mem
  simp [replacement?_eq_some_iff.2 mem]

/-- Rules with the same conditions in the same order and the same replacements are equal. -/
theorem ext_conditions {left right : Rule} (sameConditions : left.conditions = right.conditions)
    (sameReplacements : ∀ condition, left.replacement? condition = right.replacement? condition) :
    left = right := by
  ext1
  rw [left.entries_eq_map, right.entries_eq_map, sameConditions, funext sameReplacements]

theorem pushEntry_cons_of_same {head entry : Entry} (same : head.condition = entry.condition)
    (tail : List Entry) :
    pushEntry entry (head :: tail) = { head with replacement := entry.replacement } :: tail := by
  simp [pushEntry, Entry.sameCondition, same]

theorem pushEntry_cons_of_ne {head entry : Entry} (different : head.condition ≠ entry.condition)
    (tail : List Entry) :
    pushEntry entry (head :: tail) = head :: pushEntry entry tail := by
  simp [pushEntry, Entry.sameCondition, different]

theorem conditions_push (rule : Rule) (entry : Entry) :
    (rule.push entry).conditions =
      if entry.condition ∈ rule.conditions then rule.conditions
      else rule.conditions ++ [entry.condition] := by
  unfold conditions push
  simp only
  induction rule.entries with
  | nil => simp [pushEntry]
  | cons head tail ih =>
      by_cases same : head.condition = entry.condition
      · simp [pushEntry_cons_of_same same, same]
      · rw [pushEntry_cons_of_ne same, List.map_cons, ih]
        by_cases mem : entry.condition ∈ tail.map Entry.condition
        · simp only [mem, ↓reduceIte, List.map_cons, List.mem_cons, or_true]
        · simp only [mem, ↓reduceIte, List.map_cons, List.mem_cons, Ne.symm same, or_self,
            List.cons_append]

theorem replacement?_push (rule : Rule) (entry : Entry) (condition : Condition) :
    (rule.push entry).replacement? condition =
      if condition = entry.condition then some entry.replacement
      else rule.replacement? condition := by
  rw [replacement?_eq_lookup, replacement?_eq_lookup]
  simp only [push, assignments]
  induction rule.entries with
  | nil => simp [pushEntry, Occurrence.lookup_cons_eq_ite]
  | cons head tail ih =>
      by_cases same : head.condition = entry.condition
      · simp only [pushEntry_cons_of_same same, List.map_cons, Occurrence.lookup_cons_eq_ite, same]
        split <;> rfl
      · simp only [pushEntry_cons_of_ne same, List.map_cons, Occurrence.lookup_cons_eq_ite, ih]
        by_cases isHead : condition = head.condition
        · simp [isHead, same]
        · simp [isHead]

theorem conditions_foldl_push (entries : List Entry) (rule : Rule) :
    (entries.foldl push rule).conditions =
      (rule.conditions ++ entries.map Entry.condition).eraseDups := by
  induction entries generalizing rule with
  | nil =>
      rw [List.map_nil, List.append_nil]
      exact (Occurrence.eraseDups_of_nodup rule.distinct).symm
  | cons entry rest ih =>
      rw [List.foldl_cons, ih, conditions_push, List.map_cons]
      split
      · rename_i mem
        exact (Occurrence.eraseDups_append_cons_of_mem mem).symm
      · simp

theorem replacement?_foldl_push (entries : List Entry) (rule : Rule) (condition : Condition) :
    (entries.foldl push rule).replacement? condition =
      ((assignments entries).reverse.lookup condition).or (rule.replacement? condition) := by
  induction entries generalizing rule with
  | nil => simp [assignments]
  | cons entry rest ih =>
      rw [List.foldl_cons, ih, replacement?_push]
      simp only [assignments, List.map_cons, List.reverse_cons, List.lookup_append,
        Option.or_assoc, Occurrence.lookup_cons_eq_ite]
      congr 1
      split <;> simp

theorem conditions_ofEntries (entries : List Entry) :
    (ofEntries entries).conditions = (entries.map Entry.condition).eraseDups := by
  rw [ofEntries, conditions_foldl_push]
  rfl

theorem replacement?_ofEntries (entries : List Entry) (condition : Condition) :
    (ofEntries entries).replacement? condition =
      (assignments entries).reverse.lookup condition := by
  rw [ofEntries, replacement?_foldl_push]
  exact Option.or_none

theorem ofEntries_entries (rule : Rule) : ofEntries rule.entries = rule := by
  apply ext_conditions
  · rw [conditions_ofEntries, Occurrence.eraseDups_of_nodup rule.distinct]
    rfl
  · intro condition
    have distinct : ((assignments rule.entries).map Prod.fst).Nodup := by
      rw [keys_assignments]
      exact rule.distinct
    rw [replacement?_ofEntries, replacement?_eq_lookup]
    refine Option.ext fun replacement => ?_
    rw [Occurrence.lookup_eq_some_iff_mem (by simpa using distinct),
      Occurrence.lookup_eq_some_iff_mem distinct, List.mem_reverse]

end Rule

end ParamRules
