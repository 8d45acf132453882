import Mathlib
import ParamRules.Proofs.Json.Number
import ParamRules.Proofs.Json.Text

/-!
# The grammar of JSON

The texts of RFC 8259 and the values that they stand for, and that the reader accepts a text if and
only if it is one of these, with the value that it stands for (`read?_eq_some_iff`).

The readers of nested values count down, so the inductions are on the bound on the depth. It is
enough for a value if it is no less than the length of its spelling.
-/

namespace ParamRules.Json

def AreBlank (blanks : List Char) : Prop :=
  ∀ blank ∈ blanks, isBlank blank

mutual

/-- The spellings of a value, without blanks around it. -/
inductive IsValue : List Char → Value → Prop where
  | nullWord : IsValue ['n', 'u', 'l', 'l'] .null
  | trueWord : IsValue ['t', 'r', 'u', 'e'] (.bool true)
  | falseWord : IsValue ['f', 'a', 'l', 's', 'e'] (.bool false)
  | number {spelling : List Char} (isNumber : IsNumber spelling) :
      IsValue spelling (.number (String.ofList spelling))
  | string {spelling content : List Char} (spelled : SpellsText spelling content) :
      IsValue ('"' :: spelling ++ ['"']) (.string (String.ofList content))
  | noItems {blanks : List Char} (areBlank : AreBlank blanks) :
      IsValue ('[' :: blanks ++ [']']) (.array [])
  | array {blanks spelling : List Char} {items : List Value} (areBlank : AreBlank blanks)
      (areItems : AreItems spelling items) :
      IsValue ('[' :: blanks ++ spelling ++ [']']) (.array items)
  | noMembers {blanks : List Char} (areBlank : AreBlank blanks) :
      IsValue ('{' :: blanks ++ ['}']) (.object [])
  | object {blanks spelling : List Char} {members : List (String × Value)}
      (areBlank : AreBlank blanks) (areMembers : AreMembers spelling members) :
      IsValue ('{' :: blanks ++ spelling ++ ['}']) (.object members)

/-- The spellings of the items of an array, from the first item to the closing bracket. -/
inductive AreItems : List Char → List Value → Prop where
  | last {spelling behind : List Char} {item : Value} (isItem : IsValue spelling item)
      (blankBehind : AreBlank behind) : AreItems (spelling ++ behind) [item]
  | more {spelling behind before rest : List Char} {item : Value} {items : List Value}
      (isItem : IsValue spelling item) (blankBehind : AreBlank behind)
      (blankBefore : AreBlank before) (others : AreItems rest items) :
      AreItems (spelling ++ behind ++ ',' :: before ++ rest) (item :: items)

/-- The spelling of a name and a value with a colon between them. -/
inductive IsMember : List Char → String × Value → Prop where
  | named {nameSpelling name behind before spelling : List Char} {value : Value}
      (spelled : SpellsText nameSpelling name) (blankBehind : AreBlank behind)
      (blankBefore : AreBlank before) (isValue : IsValue spelling value) :
      IsMember ('"' :: nameSpelling ++ '"' :: behind ++ ':' :: before ++ spelling)
        (String.ofList name, value)

/-- The spellings of the members of an object, from the first name to the closing brace. -/
inductive AreMembers : List Char → List (String × Value) → Prop where
  | last {spelling behind : List Char} {member : String × Value}
      (isMember : IsMember spelling member) (blankBehind : AreBlank behind) :
      AreMembers (spelling ++ behind) [member]
  | more {spelling behind before rest : List Char} {member : String × Value}
      {members : List (String × Value)} (isMember : IsMember spelling member)
      (blankBehind : AreBlank behind) (blankBefore : AreBlank before)
      (others : AreMembers rest members) :
      AreMembers (spelling ++ behind ++ ',' :: before ++ rest) (member :: members)

end

/-- The JSON texts that stand for a value, blanks around it included. -/
inductive IsDocument : List Char → Value → Prop where
  | padded {before spelling behind : List Char} {value : Value} (blankBefore : AreBlank before)
      (isValue : IsValue spelling value) (blankBehind : AreBlank behind) :
      IsDocument (before ++ spelling ++ behind) value

/-! ## Blanks -/

theorem skipBlanks_cons {blanks rest : List Char} {next : Char} (areBlank : AreBlank blanks)
    (visible : isBlank next = false) : skipBlanks (blanks ++ next :: rest) = next :: rest := by
  rw [skipBlanks, List.dropWhile_append_of_pos areBlank, List.dropWhile_cons_of_neg]
  simp [visible]

theorem exists_blanks_append_skipBlanks (ahead : List Char) :
    ∃ blanks, AreBlank blanks ∧ ahead = blanks ++ skipBlanks ahead :=
  ⟨ahead.takeWhile isBlank, fun _ mem => List.mem_takeWhile_imp mem,
    List.takeWhile_append_dropWhile.symm⟩

theorem Ends.blanks {blanks after : List Char} (ends : Ends after) (areBlank : AreBlank blanks) :
    Ends (blanks ++ after) := by
  intro next mem
  rcases mem_head?_append mem with mem | mem
  · have blank := areBlank next (List.mem_of_mem_head? mem)
    simp only [isBlank, Bool.or_eq_true, beq_iff_eq, or_assoc] at blank
    rcases blank with rfl | rfl | rfl | rfl <;> decide
  · exact ends next mem

/-! ## First characters -/

theorem IsValue.head {spelling : List Char} {value : Value} (isValue : IsValue spelling value) :
    ∃ first rest, spelling = first :: rest ∧ isBlank first = false ∧ first ≠ ']' := by
  cases isValue with
  | number isNumber =>
      rcases isNumber.head with ⟨first, rest, rfl, other⟩
      exact ⟨first, rest, rfl, by simp [isBlank, other], other ']' (by decide) rfl⟩
  | _ => exact ⟨_, _, rfl, by decide⟩

theorem IsValue.skipBlanks_append {blanks spelling : List Char} {value : Value}
    (isValue : IsValue spelling value) (areBlank : AreBlank blanks) (rest : List Char) :
    skipBlanks (blanks ++ (spelling ++ rest)) = spelling ++ rest := by
  rcases isValue.head with ⟨first, others, rfl, visible, -⟩
  exact skipBlanks_cons areBlank visible

theorem IsMember.head {spelling : List Char} {member : String × Value}
    (isMember : IsMember spelling member) : ∃ rest, spelling = '"' :: rest := by
  cases isMember with
  | named => exact ⟨_, rfl⟩

theorem AreItems.head {spelling : List Char} {items : List Value}
    (areItems : AreItems spelling items) :
    ∃ first rest, spelling = first :: rest ∧ isBlank first = false ∧ first ≠ ']' := by
  cases areItems with
  | last isItem blankBehind =>
      rcases isItem.head with ⟨first, rest, rfl, shape⟩
      exact ⟨first, _, rfl, shape⟩
  | more isItem blankBehind blankBefore others =>
      rcases isItem.head with ⟨first, rest, rfl, shape⟩
      exact ⟨first, _, rfl, shape⟩

theorem AreMembers.head {spelling : List Char} {members : List (String × Value)}
    (areMembers : AreMembers spelling members) : ∃ rest, spelling = '"' :: rest := by
  cases areMembers with
  | last isMember blankBehind =>
      rcases isMember.head with ⟨rest, rfl⟩
      exact ⟨_, rfl⟩
  | more isMember blankBehind blankBefore others =>
      rcases isMember.head with ⟨rest, rfl⟩
      exact ⟨_, rfl⟩

/-- After a member stand the closing brace, or a comma and the other members. -/
inductive MembersEnd (depth : Nat) (next after : List Char) : List (String × Value) → Prop where
  | last (closing : skipBlanks next = '}' :: after) : MembersEnd depth next after []
  | more {rest : List Char} {members : List (String × Value)}
      (comma : skipBlanks next = ',' :: rest)
      (readMembers : readMembers depth (skipBlanks rest) = some (members, after)) :
      MembersEnd depth next after members

/-! ## What is in the grammar is read -/

/-- The readers that may go down so far read every spelling short enough for it. -/
structure ReadsSpellings (depth : Nat) : Prop where
  value : ∀ {spelling after : List Char} {value : Value}, IsValue spelling value → Ends after →
    spelling.length ≤ depth → readValue depth (spelling ++ after) = some (value, after)
  items : ∀ {spelling after : List Char} {items : List Value}, AreItems spelling items →
    spelling.length < depth → readItems depth (spelling ++ ']' :: after) = some (items, after)
  members : ∀ {spelling after : List Char} {members : List (String × Value)},
    AreMembers spelling members → spelling.length < depth →
      readMembers depth (spelling ++ '}' :: after) = some (members, after)

theorem readValue_number {depth : Nat} {spelling after : List Char} (isNumber : IsNumber spelling)
    (ends : Ends after) :
    readValue (depth + 1) (spelling ++ after) = some (.number (String.ofList spelling), after) := by
  rw [← readNumber_append isNumber ends]
  rcases isNumber.head with ⟨first, rest, rfl, other⟩
  simp [readValue, other]

theorem readValue_succ {depth : Nat} (ih : ReadsSpellings depth) {spelling after : List Char}
    {value : Value} (isValue : IsValue spelling value) (ends : Ends after)
    (enough : spelling.length ≤ depth + 1) :
    readValue (depth + 1) (spelling ++ after) = some (value, after) := by
  cases isValue with
  | nullWord => simp [readValue]
  | trueWord => simp [readValue]
  | falseWord => simp [readValue]
  | number isNumber => exact readValue_number isNumber ends
  | string spelled => simp [readValue, readText_of_spellsText spelled]
  | @noItems blanks areBlank =>
      have closing : skipBlanks (blanks ++ ']' :: after) = ']' :: after :=
        skipBlanks_cons areBlank rfl
      simp [readValue, closing]
  | @array blanks spelling items areBlank areItems =>
      have read : readItems depth (spelling ++ ']' :: after) = some (items, after) :=
        ih.items areItems (by simp at enough; omega)
      rcases areItems.head with ⟨first, rest, rfl, visible, notClosing⟩
      have skipped : skipBlanks (blanks ++ first :: (rest ++ ']' :: after)) =
          first :: (rest ++ ']' :: after) := skipBlanks_cons areBlank visible
      simp only [List.cons_append] at read
      simp [readValue, skipped, notClosing, read]
  | @noMembers blanks areBlank =>
      have closing : skipBlanks (blanks ++ '}' :: after) = '}' :: after :=
        skipBlanks_cons areBlank rfl
      simp [readValue, closing]
  | @object blanks spelling members areBlank areMembers =>
      have read : readMembers depth (spelling ++ '}' :: after) = some (members, after) :=
        ih.members areMembers (by simp at enough; omega)
      rcases areMembers.head with ⟨rest, rfl⟩
      have skipped : skipBlanks (blanks ++ '"' :: (rest ++ '}' :: after)) =
          '"' :: (rest ++ '}' :: after) := skipBlanks_cons areBlank rfl
      simp only [List.cons_append] at read
      simp [readValue, skipped, read]

theorem readItems_succ {depth : Nat} (ih : ReadsSpellings depth) {spelling after : List Char}
    {items : List Value} (areItems : AreItems spelling items)
    (enough : spelling.length < depth + 1) :
    readItems (depth + 1) (spelling ++ ']' :: after) = some (items, after) := by
  cases areItems with
  | @last spelling behind item isItem blankBehind =>
      simp only [List.length_append] at enough
      have ends : Ends (behind ++ ']' :: after) := (ends_cons rfl (by decide)).blanks blankBehind
      have read := ih.value isItem ends (by omega)
      have closing : skipBlanks (behind ++ ']' :: after) = ']' :: after :=
        skipBlanks_cons blankBehind rfl
      simp [readItems, read, closing]
  | @more spelling behind before rest item items isItem blankBehind blankBefore others =>
      simp only [List.length_append, List.length_cons] at enough
      have ends : Ends (behind ++ ',' :: (before ++ (rest ++ ']' :: after))) :=
        (ends_cons rfl (by decide)).blanks blankBehind
      have read := ih.value isItem ends (by omega)
      have comma : skipBlanks (behind ++ ',' :: (before ++ (rest ++ ']' :: after))) =
          ',' :: (before ++ (rest ++ ']' :: after)) := skipBlanks_cons blankBehind rfl
      have readRest : readItems depth (rest ++ ']' :: after) = some (items, after) :=
        ih.items others (by omega)
      have skipped : skipBlanks (before ++ (rest ++ ']' :: after)) = rest ++ ']' :: after := by
        rcases others.head with ⟨first, others, rfl, visible, -⟩
        exact skipBlanks_cons blankBefore visible
      simp [readItems, read, comma, skipped, readRest]

theorem readMembers_member {depth : Nat} (ih : ReadsSpellings depth)
    {spelling next after : List Char} {member : String × Value} {others : List (String × Value)}
    (isMember : IsMember spelling member) (ends : Ends next) (enough : spelling.length ≤ depth)
    (ending : MembersEnd depth next after others) :
    readMembers (depth + 1) (spelling ++ next) = some (member :: others, after) := by
  cases isMember with
  | @named nameSpelling name behind before spelling value spelled blankBehind blankBefore isValue =>
      simp only [List.length_append, List.length_cons] at enough
      have readName := readText_of_spellsText spelled
        (behind ++ ':' :: (before ++ (spelling ++ next)))
      have colon : skipBlanks (behind ++ ':' :: (before ++ (spelling ++ next))) =
          ':' :: (before ++ (spelling ++ next)) := skipBlanks_cons blankBehind rfl
      have skipped := isValue.skipBlanks_append blankBefore next
      have read := ih.value isValue ends (by omega)
      cases ending with
      | last closing => simp [readMembers, readName, colon, skipped, read, closing]
      | more comma readOthers =>
          simp [readMembers, readName, colon, skipped, read, comma, readOthers]

theorem readMembers_succ {depth : Nat} (ih : ReadsSpellings depth) {spelling after : List Char}
    {members : List (String × Value)} (areMembers : AreMembers spelling members)
    (enough : spelling.length < depth + 1) :
    readMembers (depth + 1) (spelling ++ '}' :: after) = some (members, after) := by
  cases areMembers with
  | @last spelling behind member isMember blankBehind =>
      simp only [List.length_append] at enough
      have ends : Ends (behind ++ '}' :: after) := (ends_cons rfl (by decide)).blanks blankBehind
      have closing : skipBlanks (behind ++ '}' :: after) = '}' :: after :=
        skipBlanks_cons blankBehind rfl
      rw [List.append_assoc]
      exact readMembers_member ih isMember ends (by omega) (.last closing)
  | @more spelling behind before rest member members isMember blankBehind blankBefore others =>
      simp only [List.length_append, List.length_cons] at enough
      have ends : Ends (behind ++ ',' :: (before ++ (rest ++ '}' :: after))) :=
        (ends_cons rfl (by decide)).blanks blankBehind
      have comma : skipBlanks (behind ++ ',' :: (before ++ (rest ++ '}' :: after))) =
          ',' :: (before ++ (rest ++ '}' :: after)) := skipBlanks_cons blankBehind rfl
      have skipped : skipBlanks (before ++ (rest ++ '}' :: after)) = rest ++ '}' :: after := by
        rcases others.head with ⟨others, rfl⟩
        exact skipBlanks_cons blankBefore rfl
      have readRest : readMembers depth (skipBlanks (before ++ (rest ++ '}' :: after))) =
          some (members, after) := by
        rw [skipped]
        exact ih.members others (by omega)
      simp only [List.append_assoc, List.cons_append]
      exact readMembers_member ih isMember ends (by omega) (.more comma readRest)

theorem readsSpellings (depth : Nat) : ReadsSpellings depth := by
  induction depth with
  | zero =>
      refine ⟨?_, ?_, ?_⟩
      · intro spelling after value isValue ends enough
        rcases isValue.head with ⟨first, rest, rfl, -⟩
        simp at enough
      · intro spelling after items areItems enough
        omega
      · intro spelling after members areMembers enough
        omega
  | succ depth ih => exact ⟨readValue_succ ih, readItems_succ ih, readMembers_succ ih⟩

/-! ## What is read is in the grammar -/

/-- The readers that may go down so far accept nothing but spellings. -/
structure AcceptsSpellings (depth : Nat) : Prop where
  value : ∀ {ahead after : List Char} {value : Value},
    readValue depth ahead = some (value, after) →
      ∃ spelling, ahead = spelling ++ after ∧ IsValue spelling value
  items : ∀ {ahead after : List Char} {items : List Value},
    readItems depth ahead = some (items, after) →
      ∃ spelling, ahead = spelling ++ ']' :: after ∧ AreItems spelling items
  members : ∀ {ahead after : List Char} {members : List (String × Value)},
    readMembers depth ahead = some (members, after) →
      ∃ spelling, ahead = spelling ++ '}' :: after ∧ AreMembers spelling members

theorem isValue_of_readValue_succ {depth : Nat} (ih : AcceptsSpellings depth)
    {ahead after : List Char} {value : Value}
    (read : readValue (depth + 1) ahead = some (value, after)) :
    ∃ spelling, ahead = spelling ++ after ∧ IsValue spelling value := by
  unfold readValue at read
  split at read
  · cases read
    exact ⟨_, rfl, .nullWord⟩
  · cases read
    exact ⟨_, rfl, .trueWord⟩
  · cases read
    exact ⟨_, rfl, .falseWord⟩
  · next rest =>
      simp only [Option.bind_eq_bind, Option.bind_eq_some_iff, Option.pure_def, Option.some.injEq,
        Prod.exists] at read
      rcases read with ⟨content, others, readContent, result⟩
      cases result
      rcases readText_eq_some_iff.mp readContent with ⟨spelling, rfl, spelled⟩
      exact ⟨_, by simp, .string spelled⟩
  · next rest =>
      rcases exists_blanks_append_skipBlanks rest with ⟨blanks, areBlank, split⟩
      split at read
      · next others closing =>
          cases read
          rw [split, closing]
          exact ⟨_, by simp, .noItems areBlank⟩
      · simp only [Option.bind_eq_bind, Option.bind_eq_some_iff, Option.pure_def,
          Option.some.injEq, Prod.exists] at read
        rcases read with ⟨items, others, readItems, result⟩
        cases result
        rcases ih.items readItems with ⟨spelling, same, areItems⟩
        rw [split, same]
        exact ⟨_, by simp, .array areBlank areItems⟩
  · next rest =>
      rcases exists_blanks_append_skipBlanks rest with ⟨blanks, areBlank, split⟩
      split at read
      · next others closing =>
          cases read
          rw [split, closing]
          exact ⟨_, by simp, .noMembers areBlank⟩
      · simp only [Option.bind_eq_bind, Option.bind_eq_some_iff, Option.pure_def,
          Option.some.injEq, Prod.exists] at read
        rcases read with ⟨members, others, readMembers, result⟩
        cases result
        rcases ih.members readMembers with ⟨spelling, same, areMembers⟩
        rw [split, same]
        exact ⟨_, by simp, .object areBlank areMembers⟩
  · rcases isNumber_of_readNumber read with ⟨spelling, rfl, rfl, isNumber⟩
    exact ⟨spelling, rfl, .number isNumber⟩

theorem areItems_of_readItems_succ {depth : Nat} (ih : AcceptsSpellings depth)
    {ahead after : List Char} {items : List Value}
    (read : readItems (depth + 1) ahead = some (items, after)) :
    ∃ spelling, ahead = spelling ++ ']' :: after ∧ AreItems spelling items := by
  unfold readItems at read
  simp only [Option.bind_eq_bind, Option.bind_eq_some_iff, Prod.exists] at read
  rcases read with ⟨item, next, readItem, read⟩
  rcases ih.value readItem with ⟨spelling, rfl, isItem⟩
  rcases exists_blanks_append_skipBlanks next with ⟨behind, blankBehind, split⟩
  split at read
  · next others closing =>
      cases read
      rw [split, closing]
      exact ⟨_, by simp, .last isItem blankBehind⟩
  · next more comma =>
      simp only [Option.bind_eq_some_iff, Option.pure_def, Option.some.injEq, Prod.exists] at read
      rcases read with ⟨others, rest, readOthers, result⟩
      cases result
      rcases exists_blanks_append_skipBlanks more with ⟨before, blankBefore, splitMore⟩
      rcases ih.items readOthers with ⟨restSpelling, same, areItems⟩
      rw [split, comma, splitMore, same]
      exact ⟨_, by simp, .more isItem blankBehind blankBefore areItems⟩
  · simp at read

theorem exists_member_of_readMembers_succ {depth : Nat} (ih : AcceptsSpellings depth)
    {ahead after : List Char} {members : List (String × Value)}
    (read : readMembers (depth + 1) ahead = some (members, after)) :
    ∃ spelling next member others, ahead = spelling ++ next ∧ members = member :: others ∧
      IsMember spelling member ∧ MembersEnd depth next after others := by
  unfold readMembers at read
  split at read
  · next rest =>
      simp only [Option.bind_eq_bind, Option.bind_eq_some_iff, Prod.exists] at read
      rcases read with ⟨name, afterName, readName, read⟩
      rcases readText_eq_some_iff.mp readName with ⟨nameSpelling, rfl, spelled⟩
      rcases exists_blanks_append_skipBlanks afterName with ⟨behind, blankBehind, split⟩
      split at read
      · next beforeValue colon =>
          simp only [Option.bind_eq_some_iff, Prod.exists] at read
          rcases read with ⟨value, next, readValue, read⟩
          rcases exists_blanks_append_skipBlanks beforeValue with
            ⟨before, blankBefore, splitBefore⟩
          rcases ih.value readValue with ⟨spelling, same, isValue⟩
          have isMember := IsMember.named spelled blankBehind blankBefore isValue
          rw [split, colon, splitBefore, same]
          split at read
          · next rest closing =>
              cases read
              exact ⟨_, next, _, _, by simp, rfl, isMember, .last closing⟩
          · next more comma =>
              simp only [Option.bind_eq_some_iff, Option.pure_def, Option.some.injEq,
                Prod.exists] at read
              rcases read with ⟨others, rest, readOthers, result⟩
              cases result
              exact ⟨_, next, _, _, by simp, rfl, isMember, .more comma readOthers⟩
          · simp at read
      · simp at read
  · simp at read

theorem areMembers_of_readMembers_succ {depth : Nat} (ih : AcceptsSpellings depth)
    {ahead after : List Char} {members : List (String × Value)}
    (read : readMembers (depth + 1) ahead = some (members, after)) :
    ∃ spelling, ahead = spelling ++ '}' :: after ∧ AreMembers spelling members := by
  rcases exists_member_of_readMembers_succ ih read with
    ⟨spelling, next, member, others, rfl, rfl, isMember, ending⟩
  rcases exists_blanks_append_skipBlanks next with ⟨behind, blankBehind, split⟩
  rw [split]
  cases ending with
  | last closing =>
      rw [closing]
      exact ⟨_, by simp, .last isMember blankBehind⟩
  | @more rest _ comma readOthers =>
      rcases exists_blanks_append_skipBlanks rest with ⟨before, blankBefore, splitRest⟩
      rcases ih.members readOthers with ⟨restSpelling, same, areMembers⟩
      rw [comma, splitRest, same]
      exact ⟨_, by simp, .more isMember blankBehind blankBefore areMembers⟩

theorem acceptsSpellings (depth : Nat) : AcceptsSpellings depth := by
  induction depth with
  | zero =>
      refine ⟨?_, ?_, ?_⟩
      · intro ahead after value read
        simp [readValue] at read
      · intro ahead after items read
        simp [readItems] at read
      · intro ahead after members read
        simp [readMembers] at read
  | succ depth ih =>
      exact ⟨isValue_of_readValue_succ ih, areItems_of_readItems_succ ih,
        areMembers_of_readMembers_succ ih⟩

/-! ## Documents -/

/-- The reader accepts exactly the texts of RFC 8259, each with the value that it stands for. -/
theorem read?_eq_some_iff {text : String} {value : Value} :
    read? text = some value ↔ IsDocument text.toList value := by
  constructor
  · intro read
    rcases exists_blanks_append_skipBlanks text.toList with ⟨before, blankBefore, split⟩
    simp only [read?, Option.bind_eq_bind, Option.bind_eq_some_iff, Prod.exists] at read
    rcases read with ⟨found, after, readValue, guarded⟩
    rcases (acceptsSpellings _).value readValue with ⟨spelling, same, isValue⟩
    rcases exists_blanks_append_skipBlanks after with ⟨behind, blankBehind, splitAfter⟩
    simp only [Option.guard_eq_some', List.isEmpty_iff, Option.pure_def,
      Option.some.injEq] at guarded
    rcases guarded with ⟨-, nothing, rfl⟩
    rw [split, same, splitAfter, nothing, List.append_nil, ← List.append_assoc]
    exact .padded blankBefore isValue blankBehind
  · generalize shape : text.toList = ahead
    rintro ⟨blankBefore, isValue, blankBehind⟩
    next before spelling behind =>
      have skipped : skipBlanks text.toList = spelling ++ behind := by
        rw [shape, List.append_assoc]
        exact isValue.skipBlanks_append blankBefore behind
      have ends : Ends behind := by
        simpa using ends_nil.blanks blankBehind
      have read := (readsSpellings ((spelling ++ behind).length + 1)).value isValue ends
        (by simp only [List.length_append]; omega)
      have nothing : skipBlanks behind = [] := List.dropWhile_eq_nil_iff.mpr blankBehind
      simp only [read?, skipped, read]
      simp [nothing]

end ParamRules.Json
