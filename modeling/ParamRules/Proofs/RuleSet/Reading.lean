import ParamRules.Proofs.Rule.Grammar
import ParamRules.Proofs.RuleSet.Basic

/-!
# Which lines make up a rule set

Reading a list of lines is reading each of them and collecting the pairs (`read_eq_mapM`). So the
first faulty line of the list decides about a failure (`read_eq_error_iff`), and of several lines
about one parameter the last one decides about its rule (`find?_eq_some_iff_of_read`).
-/

namespace ParamRules

namespace Grammar

/-- Some line is about a parameter. -/
def Targets (lines : List String) (param : String) : Prop :=
  ∃ line ∈ lines, ∃ body, About line param body

/-- The last line about a parameter has this body. -/
def LastAbout (lines : List String) (param body : String) : Prop :=
  ∃ before line after, lines = before ++ line :: after ∧ About line param body ∧
    ¬Targets after param

/-- The body of the last line about a parameter denotes its rule. -/
def InForce (lines : List String) (param : String) (rule : Rule) : Prop :=
  ∃ body, LastAbout lines param body ∧ Denotes body rule

/-- The first line outside the language is to be blamed for a failure. -/
def FirstFault (lines : List String) (failure : Failure) : Prop :=
  ∃ before line after, lines = before ++ line :: after ∧
    (∀ earlier ∈ before, WellFormed earlier) ∧ Faulty line failure

theorem About.unique {line param other body rest : String} (about : About line param body)
    (again : About line other rest) : param = other ∧ body = rest := by
  rw [about_iff] at about again
  rw [about] at again
  cases again
  exact ⟨rfl, rfl⟩

/-- What the later lines say about a parameter stays in force after any other lines. -/
theorem InForce.append_left {lines : List String} {param : String} {rule : Rule}
    (inForce : InForce lines param rule) (front : List String) :
    InForce (front ++ lines) param rule := by
  rcases inForce with ⟨body, ⟨before, line, after, rfl, about, fresh⟩, denotes⟩
  exact ⟨body, ⟨front ++ before, line, after, by simp, about, fresh⟩, denotes⟩

/-- The faults of the front lines are found before those of the back lines. -/
theorem firstFault_append_iff {front back : List String} {failure : Failure} :
    FirstFault (front ++ back) failure ↔
      FirstFault front failure ∨ (∀ line ∈ front, WellFormed line) ∧ FirstFault back failure := by
  constructor
  · rintro ⟨before, line, after, shape, good, faulty⟩
    rcases List.append_eq_append_iff.1 shape with ⟨middle, rfl, backShape⟩ | ⟨middle, rfl, rest⟩
    · refine Or.inr ⟨fun earlier mem => good earlier (by simp [mem]), ?_⟩
      have backGood : ∀ earlier ∈ middle, WellFormed earlier :=
        fun earlier mem => good earlier (by simp [mem])
      exact ⟨middle, line, after, backShape, backGood, faulty⟩
    · cases middle with
      | nil =>
          have backShape : back = line :: after := rest.symm
          refine Or.inr ⟨by simpa using good, [], line, after, backShape, by simp, faulty⟩
      | cons first middle =>
          rcases List.cons.inj rest with ⟨rfl, rfl⟩
          exact Or.inl ⟨before, line, middle, rfl, good, faulty⟩
  · rintro (⟨before, line, after, rfl, good, faulty⟩ | ⟨frontGood, before, line, after, rfl, good,
      faulty⟩)
    · exact ⟨before, line, after ++ back, by simp, good, faulty⟩
    · refine ⟨front ++ before, line, after, by simp, ?_, faulty⟩
      intro earlier mem
      rcases List.mem_append.1 mem with mem | mem
      · exact frontGood earlier mem
      · exact good earlier mem

end Grammar

namespace RuleSet

open Grammar

/-- Reading lines one after another is reading all of them and collecting what they say. -/
theorem read_eq_mapM (lines : List String) :
    read lines = lines.mapM Rule.readLine >>= fun pairs => pure (ofList pairs) :=
  Run.foldlM_eq_mapM (fun (rules : RuleSet) (pair : String × Rule) => rules.insert pair.1 pair.2) ∅

theorem read_eq_ok_iff {lines : List String} {rules : RuleSet} :
    (read lines).result = .ok rules ↔
      ∃ pairs, List.Forall₂ (fun line pair => (Rule.readLine line).result = .ok pair) lines pairs ∧
        ofList pairs = rules := by
  simp only [read_eq_mapM, Run.bind_eq_ok_iff, Run.mapM_eq_ok_iff, Run.result_pure,
    Except.ok.injEq]

theorem read_eq_error_iff {lines : List String} {failure : Failure} :
    (read lines).result = .error failure ↔ FirstFault lines failure := by
  simp only [read_eq_mapM, Run.bind_eq_error_iff, Run.mapM_eq_error_iff, Run.result_pure,
    reduceCtorEq, and_false, exists_false, or_false, ← wellFormed_iff, Rule.readLine_eq_error_iff]
  rfl

theorem concernsRule_of_read_error {lines : List String} {failure : Failure}
    (unread : (read lines).result = .error failure) : failure.concernsRule = true := by
  rcases read_eq_error_iff.1 unread with ⟨_, _, _, _, _, faulty⟩
  cases faulty <;> rfl

theorem exists_read_iff {lines : List String} :
    (∃ rules, (read lines).result = .ok rules) ↔ ∀ line ∈ lines, WellFormed line := by
  constructor
  · rintro ⟨rules, read⟩ line mem
    rcases read_eq_ok_iff.1 read with ⟨pairs, correspond, _⟩
    rcases List.append_of_mem mem with ⟨before, after, rfl⟩
    rcases Occurrence.forall₂_append_cons_left correspond with ⟨_, pair, _, _, _, lineRead, _⟩
    exact wellFormed_iff.2 ⟨pair, lineRead⟩
  · intro good
    rcases Run.ok_or_error (read lines) with read | ⟨failure, refused⟩
    · exact read
    · rcases read_eq_error_iff.1 refused with ⟨before, line, after, rfl, _, faulty⟩
      rcases wellFormed_iff.1 (good line (by simp)) with ⟨pair, lineRead⟩
      rw [Rule.readLine_eq_error_iff.2 faulty] at lineRead
      cases lineRead

theorem targets_iff {lines : List String} {pairs : List (String × Rule)}
    (correspond : List.Forall₂ (fun line pair => (Rule.readLine line).result = .ok pair)
      lines pairs) {param : String} :
    Targets lines param ↔ param ∈ pairs.map Prod.fst := by
  induction correspond with
  | nil => simp [Targets]
  | cons lineRead _ ih =>
      rename_i line pair rest others _
      rcases Rule.readLine_eq_ok_iff.1 lineRead with ⟨body, about, _⟩
      rw [List.map_cons, List.mem_cons, ← ih]
      constructor
      · rintro ⟨target, mem, other, aboutParam⟩
        rcases List.mem_cons.1 mem with rfl | restMem
        · exact Or.inl (aboutParam.unique about).1
        · exact Or.inr ⟨target, restMem, other, aboutParam⟩
      · rintro (rfl | ⟨target, mem, other, aboutParam⟩)
        · exact ⟨line, by simp, body, about⟩
        · exact ⟨target, by simp [mem], other, aboutParam⟩

/-- The rule of a parameter is what the last line about it says. -/
theorem find?_eq_some_iff_of_read {lines : List String} {rules : RuleSet}
    (read : (RuleSet.read lines).result = .ok rules) {param : String} {rule : Rule} :
    rules.find? param = some rule ↔ InForce lines param rule := by
  rcases read_eq_ok_iff.1 read with ⟨pairs, correspond, rfl⟩
  rw [find?_ofList, Occurrence.lookup_reverse_eq_some_iff]
  constructor
  · rintro ⟨before, after, rfl, fresh⟩
    rcases Occurrence.forall₂_append_cons_left correspond.flip with
      ⟨before', line, after', rfl, _, lineRead, afterRead⟩
    rcases Rule.readLine_eq_ok_iff.1 lineRead with ⟨body, about, denotes⟩
    refine ⟨body, ⟨before', line, after', rfl, about, ?_⟩, denotes⟩
    rw [targets_iff afterRead.flip]
    intro mem
    rcases List.mem_map.1 mem with ⟨later, laterMem, same⟩
    exact fresh later laterMem same
  · rintro ⟨body, ⟨before, line, after, rfl, about, fresh⟩, denotes⟩
    rcases Occurrence.forall₂_append_cons_left correspond with
      ⟨before', pair, after', rfl, _, lineRead, afterRead⟩
    rw [Rule.readLine_eq_ok_iff.2 ⟨body, about, denotes⟩] at lineRead
    cases lineRead
    refine ⟨before', after', rfl, fun later mem same => fresh ?_⟩
    rw [targets_iff afterRead]
    exact List.mem_map.2 ⟨later, mem, same⟩

theorem find?_eq_none_iff_of_read {lines : List String} {rules : RuleSet}
    (read : (RuleSet.read lines).result = .ok rules) {param : String} :
    rules.find? param = none ↔ ¬Targets lines param := by
  rcases read_eq_ok_iff.1 read with ⟨pairs, correspond, rfl⟩
  rw [find?_ofList, targets_iff correspond, List.lookup_eq_none_iff]
  constructor
  · intro absent mem
    rcases List.mem_map.1 mem with ⟨pair, pairMem, rfl⟩
    simpa using absent pair (by simpa using pairMem)
  · intro absent pair mem
    simp only [bne_iff_ne, ne_eq]
    rintro rfl
    exact absent (List.mem_map_of_mem (by simpa using mem))

theorem exists_find?_iff_of_read {lines : List String} {rules : RuleSet}
    (read : (RuleSet.read lines).result = .ok rules) {param : String} :
    (∃ rule, rules.find? param = some rule) ↔ Targets lines param := by
  rw [← not_iff_not, ← find?_eq_none_iff_of_read read, Option.eq_none_iff_forall_ne_some,
    not_exists]

theorem exists_inForce {lines : List String} (good : ∀ line ∈ lines, WellFormed line)
    {param : String} (targets : Targets lines param) : ∃ rule, InForce lines param rule := by
  rcases exists_read_iff.2 good with ⟨rules, read⟩
  rcases (exists_find?_iff_of_read read).2 targets with ⟨rule, found⟩
  exact ⟨rule, (find?_eq_some_iff_of_read read).1 found⟩

/-- Reading accepts exactly the lists of lines of the language, blames the first faulty line, and
gives each parameter the rule that the body of the last line about it denotes. -/
theorem read_recognises_language (lines : List String) :
    ((∃ rules, (read lines).result = .ok rules) ↔ ∀ line ∈ lines, WellFormed line) ∧
      (∀ failure, (read lines).result = .error failure ↔ FirstFault lines failure) ∧
      ∀ rules, (read lines).result = .ok rules → ∀ param,
        (rules.find? param = none ↔ ¬Targets lines param) ∧
          ∀ rule, rules.find? param = some rule ↔
            ∃ body, LastAbout lines param body ∧ Denotes body rule := by
  refine ⟨exists_read_iff, fun failure => read_eq_error_iff, fun rules read param => ?_⟩
  exact ⟨find?_eq_none_iff_of_read read, fun rule => find?_eq_some_iff_of_read read⟩

/-- The last of two lines about `rows` decides, and of a key given twice the last replacement. -/
theorem read_recognises_language_of_rows :
    (read ["rows=1 2", "rows=a:b a:c "]).result =
        .ok (ofList [("rows", .ofEntries [.ofKey "a" "c"])]) ∧
      ∃ body, LastAbout ["rows=1 2", "rows=a:b a:c "] "rows" body ∧
        Denotes body (.ofEntries [.ofKey "a" "c"]) := by
  have read : (read ["rows=1 2", "rows=a:b a:c "]).result =
      .ok (ofList [("rows", .ofEntries [.ofKey "a" "c"])]) := by cbv
  exact ⟨read, (((read_recognises_language _).2.2 _ read "rows").2 _).1 rfl⟩

end RuleSet

end ParamRules
