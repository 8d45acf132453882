import ParamRules.Proofs.RuleSet.Reading

/-!
# Joining and reordering lines

Reading lines after other lines is reading both and letting the later rules prevail (`read_append`).
So a rule set does not depend on the whole order of its lines: it is read or refused in any order,
and it stays the same as long as the lines about one parameter keep theirs, because only the last of
them counts (`lastAbout_iff_getLast?`).
-/

namespace ParamRules

namespace Grammar

/-- The lines about a parameter, in order. -/
def linesAbout (param : String) (lines : List String) : List String :=
  lines.filter fun line => (Text.cut? '=' line).map Prod.fst = some param

theorem mem_linesAbout_iff {param line : String} {lines : List String} :
    line ∈ linesAbout param lines ↔ line ∈ lines ∧ ∃ body, About line param body := by
  simp [linesAbout, about_iff]

theorem linesAbout_append (param : String) (front back : List String) :
    linesAbout param (front ++ back) = linesAbout param front ++ linesAbout param back :=
  List.filter_append front back

theorem linesAbout_eq_nil_iff {param : String} {lines : List String} :
    linesAbout param lines = [] ↔ ¬Targets lines param := by
  rw [List.eq_nil_iff_forall_not_mem]
  simp only [mem_linesAbout_iff, Targets, not_exists, not_and]

theorem linesAbout_cons_of_about {param body line : String} (about : About line param body)
    (lines : List String) : linesAbout param (line :: lines) = line :: linesAbout param lines := by
  rw [linesAbout, List.filter_cons_of_pos (by simp [about_iff.1 about]), ← linesAbout]

theorem lastAbout_iff_getLast? {param body : String} {lines : List String} :
    LastAbout lines param body ↔
      ∃ line, (linesAbout param lines).getLast? = some line ∧ About line param body := by
  constructor
  · rintro ⟨before, line, after, rfl, about, fresh⟩
    refine ⟨line, ?_, about⟩
    rw [linesAbout_append, linesAbout_cons_of_about about, linesAbout_eq_nil_iff.2 fresh,
      List.getLast?_concat]
  · -- The filter leaves out everything behind the last line about the parameter.
    rintro ⟨line, isLast, about⟩
    rcases List.getLast?_eq_some_iff.1 isLast with ⟨front, shape⟩
    rcases List.filter_eq_append_iff.1 shape with ⟨before, rest, rfl, _, restShape⟩
    rcases List.filter_eq_cons_iff.1 restShape with ⟨skipped, after, rfl, _, _, afterEmpty⟩
    exact ⟨before ++ skipped, line, after, by simp, about, linesAbout_eq_nil_iff.1 afterEmpty⟩

/-- Which rule is in force depends only on the lines about its parameter. -/
theorem InForce.congr {param : String} {rule : Rule} {lines reordered : List String}
    (same : linesAbout param lines = linesAbout param reordered)
    (inForce : InForce lines param rule) : InForce reordered param rule := by
  rcases inForce with ⟨body, last, denotes⟩
  refine ⟨body, ?_, denotes⟩
  rw [lastAbout_iff_getLast?, ← same]
  exact lastAbout_iff_getLast?.1 last

end Grammar

namespace RuleSet

open Grammar

theorem foldl_insert_eq_union (pairs : List (String × Rule)) (rules : RuleSet) :
    pairs.foldl (fun rules pair => rules.insert pair.1 pair.2) rules = rules ∪ ofList pairs := by
  refine ext_find? fun param => ?_
  rw [find?_union, find?_ofList, find?, rules_foldl_insert, SortedMap.find?_foldl_insert]
  rfl

/-- Reading lines on top of a rule set puts the rules of the lines over those of the set. -/
theorem foldlM_readLine (lines : List String) (rules : RuleSet) :
    lines.foldlM readLine rules = read lines >>= fun later => pure (rules ∪ later) := by
  have collected : lines.foldlM readLine rules =
      lines.mapM Rule.readLine >>= fun pairs => pure (rules ∪ ofList pairs) := by
    simp only [← foldl_insert_eq_union]
    exact Run.foldlM_eq_mapM (fun (rules : RuleSet) (pair : String × Rule) =>
      rules.insert pair.1 pair.2) rules
  rw [collected, read_eq_mapM, bind_assoc]
  simp only [pure_bind]

theorem read_append (front back : List String) :
    read (front ++ back) =
      read front >>= fun left => read back >>= fun right => pure (left ∪ right) := by
  rw [read, List.foldlM_append, funext (foldlM_readLine back)]
  rfl

variable {lines reordered : List String} {rules : RuleSet}

theorem exists_read_of_perm (permuted : lines.Perm reordered) :
    (∃ rules, (read lines).result = .ok rules) ↔
      ∃ rules, (read reordered).result = .ok rules := by
  rw [exists_read_iff, exists_read_iff]
  simp only [permuted.mem_iff]

theorem read_of_perm (permuted : lines.Perm reordered)
    (same : ∀ param, linesAbout param lines = linesAbout param reordered)
    (accepted : (read lines).result = .ok rules) : (read reordered).result = .ok rules := by
  rcases (exists_read_of_perm permuted).1 ⟨rules, accepted⟩ with ⟨others, reorderedRead⟩
  have equal : others = rules := by
    refine ext_find? fun param => Option.ext fun rule => ?_
    rw [find?_eq_some_iff_of_read accepted, find?_eq_some_iff_of_read reorderedRead]
    exact ⟨.congr (same param).symm, .congr (same param)⟩
  rw [reorderedRead, equal]

/-- Joined lines fail as the first part does, or else as the second part does, and otherwise give
each parameter its rule of the second part, or else of the first. That is reading line by line up to the
first failure and collecting the rules or inserting them one after another. Reordered lines are
accepted when the lines are, with the same rules if the lines about each parameter keep their
order. -/
theorem rules_of_joined_and_reordered_lines :
    (∀ front back : List String,
      (∀ failure, (read front).result = .error failure →
        (read (front ++ back)).result = .error failure) ∧
      (∀ left failure, (read front).result = .ok left → (read back).result = .error failure →
        (read (front ++ back)).result = .error failure) ∧
      ∀ left right, (read front).result = .ok left → (read back).result = .ok right →
        (read (front ++ back)).result = .ok (left ∪ right) ∧
          ∀ param, (left ∪ right).find? param = (right.find? param).or (left.find? param)) ∧
    (∀ lines : List String,
      (∀ failure, (read lines).result = .error failure ↔
        ∃ before line after, lines = before ++ line :: after ∧
          (∀ earlier ∈ before, ∃ pair, (Rule.readLine earlier).result = .ok pair) ∧
          (Rule.readLine line).result = .error failure) ∧
      ∀ rules, (read lines).result = .ok rules ↔
        ∃ pairs, List.Forall₂ (fun line pair => (Rule.readLine line).result = .ok pair) lines pairs ∧
          rules = ⟨SortedMap.ofList pairs⟩ ∧
          rules = pairs.foldl (fun rules pair => rules.insert pair.1 pair.2) ∅) ∧
    ∀ lines reordered : List String, lines.Perm reordered →
      ((∃ rules, (read lines).result = .ok rules) ↔
        ∃ rules, (read reordered).result = .ok rules) ∧
      ((∀ param, linesAbout param lines = linesAbout param reordered) → ∀ rules,
        (read lines).result = .ok rules → (read reordered).result = .ok rules) := by
  refine ⟨fun front back => ⟨?_, ?_, ?_⟩, fun lines => ⟨?_, ?_⟩, ?_⟩
  · intro failure failed
    rw [read_append, Run.result_bind, failed, Run.error_bind]
  · intro left failure leftRead failed
    rw [read_append, Run.result_bind, leftRead, Run.ok_bind, Run.result_bind, failed,
      Run.error_bind]
  · intro left right leftRead rightRead
    refine ⟨?_, find?_union left right⟩
    rw [read_append, Run.result_bind, leftRead, Run.ok_bind, Run.result_bind, rightRead,
      Run.ok_bind, Run.result_pure]
  · intro failure
    rw [read_eq_error_iff]
    simp only [FirstFault, wellFormed_iff, Rule.readLine_eq_error_iff]
  · intro rules
    rw [read_eq_ok_iff]
    refine exists_congr fun pairs => and_congr_right fun _ => ?_
    constructor
    · rintro rfl
      exact ⟨RuleSet.ext (rules_ofList pairs), rfl⟩
    · rintro ⟨_, inserted⟩
      exact inserted.symm
  · intro lines reordered permuted
    exact ⟨exists_read_of_perm permuted, fun same _ => read_of_perm permuted same⟩

/-- Two lines about `rows` change places with the one about `start` and not with each other, so the
second of them prevails as before; a refused line after them refuses all. -/
theorem rules_of_joined_and_reordered_lines_of_rows :
    (read ["start=0", "rows=10", "rows=>100:100"]).result =
        .ok (ofList [("rows", .ofEntries [.ofKey ">100" "100"]), ("start", .invariant "0")]) ∧
      (read (["rows=10", "start=0", "rows=>100:100"] ++ ["broken", "rows=a:"])).result =
        .error (.missingSeparator "broken") := by
  have accepted : (read ["rows=10", "start=0", "rows=>100:100"]).result =
      .ok (ofList [("rows", .ofEntries [.ofKey ">100" "100"]), ("start", .invariant "0")]) := by cbv
  have refused : (read ["broken", "rows=a:"]).result = .error (.missingSeparator "broken") := by cbv
  have reordered := rules_of_joined_and_reordered_lines.2.2
    ["rows=10", "start=0", "rows=>100:100"] ["start=0", "rows=10", "rows=>100:100"] (.swap _ _ _)
  refine ⟨reordered.2 ?_ _ accepted,
    (rules_of_joined_and_reordered_lines.1 _ _).2.1 _ _ accepted refused⟩
  intro param
  have rowsCut : Text.cut? '=' "rows=10" = some ("rows", "10") := by decide
  by_cases isRows : "rows" = param
  · subst isRows
    decide
  · simp [linesAbout, List.filter_cons, rowsCut, isRows]

end RuleSet

end ParamRules
