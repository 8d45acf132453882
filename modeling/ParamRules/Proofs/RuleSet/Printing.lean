import ParamRules.Proofs.RuleSet.Reading

/-!
# Which rules survive being written and read again

Nothing can be escaped in the rule language, so a rule comes back from its text only if each of its
entries can be a token: `Printable` lists what that takes. It is also enough
(`denotes_text_iff`), because rules that were read from tokens are printable
(`Denotes.printable`) and a printable rule denotes itself (`Printable.denotes_text`). A whole rule
set comes back from its lines, in whatever order they stand, if its rules do and no `=` occurs in
the name of a parameter.
-/

namespace ParamRules

open Grammar

namespace Entry

/-- An entry whose text is one token that names its condition. -/
structure Printable (entry : Entry) : Prop where
  nonempty : entry.replacement ≠ ""
  keySpace : ' ' ∉ entry.key.toList
  keyColon : ':' ∉ entry.key.toList
  replacementSpace : ' ' ∉ entry.replacement.toList
  replacementColon : ':' ∉ entry.replacement.toList
  /-- The key names the condition of the entry and not another one. -/
  named : entry = ofKey entry.key entry.replacement

theorem Printable.isPair {entry : Entry} (printable : entry.Printable) :
    IsPair entry.text entry.key entry.replacement :=
  ⟨rfl, printable.keyColon, printable.replacementColon, printable.nonempty⟩

theorem Printable.space_not_mem {entry : Entry} (printable : entry.Printable) :
    ' ' ∉ entry.text.toList := by
  unfold text
  simp only [String.toList_append, List.mem_append, not_or]
  exact ⟨⟨printable.keySpace, by simp⟩, printable.replacementSpace⟩

end Entry

namespace Rule

/-- A rule that has entries and whose entries can all be tokens. -/
def Printable (rule : Rule) : Prop :=
  rule.entries ≠ [] ∧ ∀ entry ∈ rule.entries, entry.Printable

theorem colon_mem_text {rule : Rule} (nonempty : rule.entries ≠ []) : ':' ∈ rule.text.toList := by
  rcases shape : rule.entries with _ | ⟨first, rest⟩
  · exact absurd shape nonempty
  · unfold text
    rw [shape, List.map_cons, String.toList_intercalate, List.map_cons]
    rcases rest with _ | ⟨second, others⟩
    · simp [Entry.text]
    · simp [Entry.text]

theorem exists_intercalate_concat (separator last : String) (texts : List String) :
    ∃ front, separator.intercalate (texts ++ [last]) = front ++ last := by
  by_cases empty : texts = []
  · exact ⟨"", by simp [empty]⟩
  · refine ⟨separator.intercalate texts ++ separator, ?_⟩
    rw [String.intercalate_append_of_ne_nil empty (by simp), String.intercalate_singleton]

theorem exists_text_eq_append {rule : Rule} (nonempty : rule.entries ≠ []) :
    ∃ front, ∃ last ∈ rule.entries, rule.text = front ++ last.text := by
  rcases List.eq_nil_or_concat rule.entries with empty | ⟨before, last, shape⟩
  · exact absurd empty nonempty
  · rcases exists_intercalate_concat " " last.text (before.map Entry.text) with ⟨front, joined⟩
    refine ⟨front, last, by simp [shape], ?_⟩
    rw [text, shape, List.concat_eq_append, List.map_append, List.map_singleton, joined]

/-- Nothing is trimmed from the text of a printable rule, because an entry ends in no space. -/
theorem Printable.getLast?_text_ne {rule : Rule} (printable : rule.Printable) :
    rule.text.toList.getLast? ≠ some ' ' := by
  rcases exists_text_eq_append printable.1 with ⟨front, last, mem, shape⟩
  have lastPrintable := printable.2 last mem
  have entryNonempty : last.text.toList ≠ [] := by simp [Entry.text]
  have wholeNonempty : front.toList ++ last.text.toList ≠ [] := by simp [Entry.text]
  intro ends
  rw [shape, String.toList_append, List.getLast?_eq_getLast_of_ne_nil wholeNonempty,
    List.getLast_append_of_right_ne_nil _ _ entryNonempty, Option.some.injEq] at ends
  apply lastPrintable.space_not_mem
  rw [← ends]
  exact List.getLast_mem entryNonempty

theorem Printable.hasTokens {rule : Rule} (printable : rule.Printable) :
    HasTokens rule.text (rule.entries.map Entry.text) where
  shape := ⟨0, by simp [text]⟩
  trimmed := printable.getLast?_text_ne
  plain := by
    intro token mem
    rcases List.mem_map.1 mem with ⟨entry, entryMem, rfl⟩
    exact (printable.2 entry entryMem).space_not_mem
  nonempty := by simpa using printable.1

theorem Printable.denotes_text {rule : Rule} (printable : rule.Printable) :
    Denotes rule.text rule := by
  have gathers : Gathers (rule.entries.map fun entry => (entry.key, entry.replacement)) rule := by
    rw [gathers_iff]
    have sameEntries :
        entriesOf (rule.entries.map fun entry => (entry.key, entry.replacement)) =
          rule.entries := by
      simp only [entriesOf]
      rw [List.map_map, List.map_congr_left, List.map_id]
      intro entry mem
      exact (printable.2 entry mem).named.symm
    rw [sameEntries, ofEntries_entries]
  refine .tokens (colon_mem_text printable.1) printable.hasTokens ?_ gathers
  rw [List.forall₂_map_left_iff, List.forall₂_map_right_iff, List.forall₂_same]
  intro entry mem
  exact (printable.2 entry mem).isPair

end Rule

namespace Grammar

theorem IsPair.printable {token : String} {entry : Entry}
    (pair : IsPair token entry.key entry.replacement) (space : ' ' ∉ token.toList)
    (named : Condition.Named entry.key entry.condition) : entry.Printable := by
  rcases pair with ⟨rfl, keyPlain, replacementPlain, nonempty⟩
  simp only [String.toList_append, List.mem_append, not_or] at space
  refine ⟨nonempty, space.1.1, keyPlain, space.2, replacementPlain, ?_⟩
  rw [Entry.ofKey, Condition.named_iff.1 named]

theorem Denotes.printable {body : String} {rule : Rule} (denotes : Denotes body rule)
    (colon : ':' ∈ body.toList) : rule.Printable := by
  cases denotes with
  | value plain _ => exact absurd colon plain
  | tokens colon split read gathers =>
      rename_i tokens pairs
      constructor
      · intro empty
        have noKeys := gathers.keys
        rcases pairs with _ | ⟨pair, others⟩
        · exact split.nonempty (List.forall₂_nil_right_iff.1 read)
        · simp [empty, List.eraseDups_cons] at noKeys
      · intro entry mem
        have pairMem : (entry.key, entry.replacement) ∈ pairs := by
          rcases Occurrence.lookup_reverse_eq_some_iff.1 (gathers.last entry mem) with
            ⟨before, after, rfl, _⟩
          simp
        rcases List.append_of_mem pairMem with ⟨before, after, rfl⟩
        rcases Occurrence.forall₂_append_cons_left read.flip with
          ⟨firsts, token, lasts, rfl, _, pair, _⟩
        exact pair.printable (split.plain token (by simp)) (gathers.named entry mem)

end Grammar

namespace Rule

/-- A rule is what its text denotes when it is printable, and only then. -/
theorem denotes_text_iff {rule : Rule} : Denotes rule.text rule ↔ rule.Printable := by
  constructor
  · intro denotes
    refine denotes.printable ?_
    cases denotes with
    | value _ single => exact colon_mem_text (by simp [single])
    | tokens colon _ _ _ => exact colon
  · exact Printable.denotes_text

theorem printable_invariant_iff {value : String} (plain : ':' ∉ value.toList) :
    (invariant value).Printable ↔ value ≠ "" ∧ ' ' ∉ value.toList := by
  constructor
  · rintro ⟨_, entries⟩
    have printable := entries ⟨.invariant, value⟩ (by simp [invariant])
    exact ⟨printable.nonempty, printable.replacementSpace⟩
  · rintro ⟨nonempty, space⟩
    refine ⟨by simp [invariant], fun entry mem => ?_⟩
    rw [invariant, List.mem_singleton] at mem
    subst mem
    refine ⟨nonempty, ?_, ?_, space, plain, rfl⟩
    · simp [Entry.key, Condition.key]
    · simp [Entry.key, Condition.key]

/-- A rule that was read from a body comes back from its text, unless the body is a single value
that is empty or holds a space. -/
theorem readBody_text_eq_ok_iff_of_read {param body : String} {rule : Rule}
    (read : (readBody param body).result = .ok rule) :
    (readBody param rule.text).result = .ok rule ↔
      ':' ∈ body.toList ∨ body ≠ "" ∧ ' ' ∉ body.toList := by
  rw [readBody_eq_ok_iff, denotes_text_iff]
  have denotes := readBody_eq_ok_iff.1 read
  by_cases colon : ':' ∈ body.toList
  · simp [colon, denotes.printable colon]
  · have isInvariant : rule = invariant body := by
      cases denotes with
      | value _ single =>
          ext1
          exact single
      | tokens colon' _ _ _ => exact absurd colon' colon
    simp [isInvariant, printable_invariant_iff colon, colon]

end Rule

namespace RuleSet

/-- The line that gives a parameter its rule. -/
def line (entry : String × Rule) : String :=
  entry.1 ++ "=" ++ entry.2.text

theorem plain_of_read {lines : List String} {rules : RuleSet}
    (read : (RuleSet.read lines).result = .ok rules) {param : String} {rule : Rule}
    (mem : (param, rule) ∈ rules.toList) : '=' ∉ param.toList := by
  rcases (find?_eq_some_iff_of_read read).1 (mem_toList_iff.1 mem) with ⟨_, last, _⟩
  rcases last with ⟨_, _, _, _, about, _⟩
  exact about.plain

/-- A rule that comes back from the lines of its set is the one that its own text denotes: no other
line is about its parameter. -/
theorem denotes_text_of_read_lines {rules : RuleSet} {pairs : List (String × Rule)}
    (permuted : pairs.Perm rules.toList) (read : (read (pairs.map line)).result = .ok rules)
    {param : String} {rule : Rule} (mem : (param, rule) ∈ rules.toList) :
    Denotes rule.text rule := by
  rcases (find?_eq_some_iff_of_read read).1 (mem_toList_iff.1 mem) with ⟨body, last, denotes⟩
  rcases last with ⟨before, written, after, shape, about, _⟩
  have writtenMem : written ∈ pairs.map line := by simp [shape]
  rcases List.mem_map.1 writtenMem with ⟨⟨other, otherRule⟩, otherMem, rfl⟩
  have otherMem := permuted.mem_iff.1 otherMem
  have aboutOther : About (line (other, otherRule)) other otherRule.text :=
    ⟨rfl, plain_of_read read otherMem⟩
  rcases about.unique aboutOther with ⟨rfl, rfl⟩
  rw [mem_toList_iff] at mem otherMem
  rw [mem] at otherMem
  cases otherMem
  exact denotes

/-- A rule set comes back from its lines, in any order, when its rules are printable and the names
of its parameters hold no `=`. -/
theorem read_lines_eq_ok_iff {rules : RuleSet} {pairs : List (String × Rule)}
    (permuted : pairs.Perm rules.toList) :
    (read (pairs.map line)).result = .ok rules ↔
      ∀ pair ∈ rules.toList, '=' ∉ pair.1.toList ∧ pair.2.Printable := by
  constructor
  · intro read
    rintro ⟨param, rule⟩ mem
    have denotes : Denotes rule.text rule := denotes_text_of_read_lines permuted read mem
    exact ⟨plain_of_read read mem, Rule.denotes_text_iff.1 denotes⟩
  · intro printable
    rw [read_eq_ok_iff]
    refine ⟨pairs, ?_, ofList_of_perm permuted⟩
    rw [List.forall₂_map_left_iff, List.forall₂_same]
    rintro ⟨param, rule⟩ mem
    rcases printable (param, rule) (permuted.mem_iff.1 mem) with ⟨plain, rulePrintable⟩
    exact Rule.readLine_eq_ok_iff.2 ⟨rule.text, ⟨rfl, plain⟩, rulePrintable.denotes_text⟩

/-- A single value may be written without its key when it is neither empty nor holds a space. -/
theorem read_short_eq_long_iff {param value : String} (plain : '=' ∉ param.toList)
    (colon : ':' ∉ value.toList) :
    (read [param ++ "=" ++ value]).result =
        (read [param ++ "=" ++ "invariant:" ++ value]).result ↔
      value ≠ "" ∧ ' ' ∉ value.toList := by
  have lineRead : (Rule.readLine (param ++ "=" ++ value)).result = .ok (param, .invariant value) :=
    Rule.readLine_eq_ok_iff.2 ⟨value, ⟨rfl, plain⟩, .value colon rfl⟩
  have short : (read [param ++ "=" ++ value]).result = .ok (ofList [(param, .invariant value)]) :=
    read_eq_ok_iff.2 ⟨_, .cons lineRead .nil, rfl⟩
  have long : [param ++ "=" ++ "invariant:" ++ value] =
      [(param, Rule.invariant value)].map line := by
    rw [List.map_singleton, List.singleton_inj, ← String.toList_inj]
    simp [line, Rule.text, Rule.invariant, Entry.text, Entry.key, Condition.key]
  have entries : (ofList [(param, Rule.invariant value)]).toList = [(param, .invariant value)] :=
    rfl
  rw [short, long, eq_comm, read_lines_eq_ok_iff (entries ▸ .refl _), entries]
  simp [plain, Rule.printable_invariant_iff colon]

/-- The rule sets that come back from their lines are those with printable rules and plain names. A
rule that was read from a body comes back from its text unless the body is a value that is empty or
holds a space, and for the other values the short form of a line and the long one say the same. -/
theorem survives_printing :
    (∀ (rules : RuleSet) (pairs : List (String × Rule)), pairs.Perm rules.toList →
      ((read (pairs.map line)).result = .ok rules ↔
        ∀ pair ∈ rules.toList, '=' ∉ pair.1.toList ∧ pair.2.Printable)) ∧
    (∀ (param body : String) (rule : Rule), (Rule.readBody param body).result = .ok rule →
      ((Rule.readBody param rule.text).result = .ok rule ↔
        ':' ∈ body.toList ∨ body ≠ "" ∧ ' ' ∉ body.toList)) ∧
    ∀ param value : String, '=' ∉ param.toList → ':' ∉ value.toList →
      ((read [param ++ "=" ++ value]).result =
          (read [param ++ "=" ++ "invariant:" ++ value]).result ↔
        value ≠ "" ∧ ' ' ∉ value.toList) :=
  ⟨fun _ _ permuted => read_lines_eq_ok_iff permuted,
    fun _ _ _ read => Rule.readBody_text_eq_ok_iff_of_read read,
    fun _ _ plain colon => read_short_eq_long_iff plain colon⟩

/-- Two rules come back from their lines in the other order, so they are printable; a value with a
space does not come back, and one without says the same in both forms. -/
theorem survives_printing_of_rows :
    (∀ pair ∈ (ofList [("rows", .ofEntries [.ofKey ">5" "5"]), ("start", .invariant "x")]).toList,
        '=' ∉ pair.1.toList ∧ pair.2.Printable) ∧
      (Rule.readBody "q" (Rule.invariant "a b").text).result ≠ .ok (.invariant "a b") ∧
      (read ["q=a"]).result = (read ["q=invariant:a"]).result := by
  refine ⟨?_, ?_, ?_⟩
  · have swapped : [("start", Rule.invariant "x"), ("rows", .ofEntries [.ofKey ">5" "5"])].Perm
        (ofList [("rows", .ofEntries [.ofKey ">5" "5"]), ("start", .invariant "x")]).toList :=
      .swap _ _ []
    exact (survives_printing.1 _ _ swapped).1 rfl
  · intro read
    have noSpace := (survives_printing.2.1 "q" "a b" (.invariant "a b") rfl).1 read
    revert noSpace
    decide
  · exact (survives_printing.2.2 "q" "a" (by decide) (by decide)).2 (by decide)

end RuleSet

end ParamRules
