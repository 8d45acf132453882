import ParamRules.Proofs.SortedMap
import ParamRules.RuleSet.Basic

/-!
# Rule sets and their look-ups

A rule set is a sorted map of rules, so what holds of look-ups in sorted maps holds of the rules of
a set: they make up the set, and of several rules for a parameter the last one is kept. The union of
two rule sets is collected from the rules of both.
-/

namespace ParamRules.RuleSet

theorem mem_toList_iff {rules : RuleSet} {param : String} {rule : Rule} :
    (param, rule) ∈ rules.toList ↔ rules.find? param = some rule :=
  SortedMap.mem_entries_iff

theorem ext_find? {left right : RuleSet} (agree : ∀ param, left.find? param = right.find? param) :
    left = right :=
  RuleSet.ext (SortedMap.ext_find? agree)

theorem rules_foldl_insert (pairs : List (String × Rule)) (rules : RuleSet) :
    (pairs.foldl (fun rules pair => rules.insert pair.1 pair.2) rules).rules =
      pairs.foldl (fun map pair => map.insert pair.1 pair.2) rules.rules := by
  induction pairs generalizing rules with
  | nil => rfl
  | cons pair rest ih => rw [List.foldl_cons, ih, List.foldl_cons, insert]

theorem rules_ofList (pairs : List (String × Rule)) :
    (ofList pairs).rules = SortedMap.ofList pairs :=
  rules_foldl_insert pairs ∅

theorem find?_ofList (pairs : List (String × Rule)) (param : String) :
    (ofList pairs).find? param = pairs.reverse.lookup param := by
  rw [find?, rules_ofList, SortedMap.find?_ofList]

theorem ofList_of_perm {rules : RuleSet} {pairs : List (String × Rule)}
    (permuted : pairs.Perm rules.toList) : ofList pairs = rules := by
  ext1
  rw [rules_ofList, SortedMap.ofList_of_perm permuted]

/-- The rules of two sets; where both have one for a parameter, that of the second. -/
def union (left right : RuleSet) : RuleSet where
  rules := left.rules ∪ right.rules

instance : Union RuleSet := ⟨union⟩

theorem find?_union (left right : RuleSet) (param : String) :
    (left ∪ right).find? param = (right.find? param).or (left.find? param) :=
  SortedMap.find?_union left.rules right.rules param

end ParamRules.RuleSet
