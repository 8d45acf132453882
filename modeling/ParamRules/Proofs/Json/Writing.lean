import Mathlib
import ParamRules.Json.Writer
import ParamRules.Proofs.Json.Grammar

/-!
# What is written is JSON

A value in compact form is a JSON text that stands for this value, and so it is read back
(`read?_write`), provided that the numbers in it are spelled as numbers.
-/

namespace ParamRules.Json

mutual

/-- The numbers in a value are spelled as numbers. -/
def WellSpelled : Value → Prop
  | .number text => IsNumber text.toList
  | .array items => AllWellSpelled items
  | .object members => MembersWellSpelled members
  | _ => True

def AllWellSpelled : List Value → Prop
  | [] => True
  | item :: items => WellSpelled item ∧ AllWellSpelled items

def MembersWellSpelled : List (String × Value) → Prop
  | [] => True
  | (_, value) :: members => WellSpelled value ∧ MembersWellSpelled members

end

theorem allWellSpelled_iff {items : List Value} :
    AllWellSpelled items ↔ ∀ item ∈ items, WellSpelled item := by
  induction items with
  | nil => simp [AllWellSpelled]
  | cons item rest ih => simp [AllWellSpelled, ih]

theorem membersWellSpelled_iff {members : List (String × Value)} :
    MembersWellSpelled members ↔ ∀ member ∈ members, WellSpelled member.2 := by
  induction members with
  | nil => simp [MembersWellSpelled]
  | cons member rest ih => simp [MembersWellSpelled, ih]

/-! ## Texts -/

theorem value?_digit {number : Nat} (small : number < 16) :
    Text.Hexadecimal.value? (Text.Hexadecimal.digit number) = some number := by
  have every : ∀ number < 16,
      Text.Hexadecimal.value? (Text.Hexadecimal.digit number) = some number := by decide
  exact every number small

theorem writesUnit_control {code : Nat} (control : code < 0x20) :
    WritesUnit ['0', '0', Text.Hexadecimal.digit (code / 16), Text.Hexadecimal.digit (code % 16)]
      code := by
  have zero : Text.Hexadecimal.value? '0' = some 0 := by decide
  have written := WritesUnit.digits zero zero (value?_digit (show code / 16 < 16 by omega))
    (value?_digit (show code % 16 < 16 by omega))
  have whole : 4096 * 0 + 256 * 0 + 16 * (code / 16) + code % 16 = code := by omega
  rwa [whole] at written

theorem spellsCharacter_escape (character : Char) :
    SpellsCharacter (escape character) character := by
  unfold escape
  split
  case h_8 notQuote notBackslash _ _ _ _ _ =>
    dsimp only
    split_ifs with control
    · exact .unit (writesUnit_control control) rfl
    · exact .itself (Nat.le_of_not_lt control) notQuote notBackslash
  all_goals exact .short (by simp [shortEscapes])

theorem spellsText_escape (content : List Char) : SpellsText (content.flatMap escape) content := by
  induction content with
  | nil => exact .nil
  | cons character rest ih =>
      rw [List.flatMap_cons]
      exact .cons (spellsCharacter_escape character) ih

theorem isValue_writeString (text : String) : IsValue (writeString text) (.string text) := by
  have spelled := IsValue.string (spellsText_escape text.toList)
  rwa [String.ofList_toList] at spelled

theorem areBlank_nil : AreBlank [] := by
  simp [AreBlank]

theorem isMember_writeMember (name : String) {value : Value}
    (isValue : IsValue (writeValue value) value) :
    IsMember (writeString name ++ ':' :: writeValue value) (name, value) := by
  have named := IsMember.named (spellsText_escape name.toList) areBlank_nil areBlank_nil isValue
  simpa [writeString, String.ofList_toList] using named

/-! ## Values -/

mutual

theorem isValue_writeValue : (value : Value) → WellSpelled value → IsValue (writeValue value) value
  | .null, _ => .nullWord
  | .bool true, _ => .trueWord
  | .bool false, _ => .falseWord
  | .number text, wellSpelled => by
      have isNumber := IsValue.number wellSpelled
      rwa [String.ofList_toList] at isNumber
  | .string text, _ => isValue_writeString text
  | .array [], _ => .noItems areBlank_nil
  | .array (item :: items), wellSpelled =>
      .array areBlank_nil (areItems_writeItems (item :: items) (List.cons_ne_nil _ _) wellSpelled)
  | .object [], _ => .noMembers areBlank_nil
  | .object (member :: members), wellSpelled =>
      .object areBlank_nil
        (areMembers_writeMembers (member :: members) (List.cons_ne_nil _ _) wellSpelled)

theorem areItems_writeItems : (items : List Value) → items ≠ [] → AllWellSpelled items →
    AreItems (writeItems items) items
  | [], nonempty, _ => absurd rfl nonempty
  | [item], _, wellSpelled => by
      have last := AreItems.last (isValue_writeValue item wellSpelled.1) areBlank_nil
      simpa [writeItems] using last
  | item :: next :: items, _, wellSpelled => by
      have others := areItems_writeItems (next :: items) (List.cons_ne_nil _ _) wellSpelled.2
      have more := AreItems.more (isValue_writeValue item wellSpelled.1) areBlank_nil areBlank_nil
        others
      simpa [writeItems] using more

theorem areMembers_writeMembers : (members : List (String × Value)) → members ≠ [] →
    MembersWellSpelled members → AreMembers (writeMembers members) members
  | [], nonempty, _ => absurd rfl nonempty
  | [(name, value)], _, wellSpelled => by
      have isMember := isMember_writeMember name (isValue_writeValue value wellSpelled.1)
      simpa [writeMembers] using AreMembers.last isMember areBlank_nil
  | (name, value) :: next :: members, _, wellSpelled => by
      have isMember := isMember_writeMember name (isValue_writeValue value wellSpelled.1)
      have others := areMembers_writeMembers (next :: members) (List.cons_ne_nil _ _) wellSpelled.2
      simpa [writeMembers] using AreMembers.more isMember areBlank_nil areBlank_nil others

end

theorem read?_write {value : Value} (wellSpelled : WellSpelled value) :
    read? value.write = some value := by
  rw [read?_eq_some_iff, Value.write, String.toList_ofList]
  have document := IsDocument.padded areBlank_nil (isValue_writeValue value wellSpelled)
    areBlank_nil
  simpa using document

end ParamRules.Json
