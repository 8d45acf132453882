import Mathlib
import ParamRules.Text

/-!
# What cutting and splitting find

Each way of taking a text apart is described by what its pieces look like and how they make up the
text, and the description determines the pieces: `cut?_eq_some_iff` for the first separator,
`split_eq_iff` for all of them, `dropTrailing_eq_iff` for the characters at the end. A word of small
letters is recognised in each of its spellings (`lowerAscii_eq_iff`).
-/

namespace ParamRules.Text

/-- A text is cut at its first separator: before it there is none. -/
theorem cut?_eq_some_iff {separator : Char} {text before after : String} :
    cut? separator text = some (before, after) ↔
      text.toList = before.toList ++ separator :: after.toList ∧ separator ∉ before.toList := by
  simp only [cut?]
  have whole := List.takeWhile_append_dropWhile (p := (· != separator)) (l := text.toList)
  have beforeFree : separator ∉ text.toList.takeWhile (· != separator) := by
    intro mem
    simpa using List.mem_takeWhile_imp mem
  constructor
  · intro found
    split at found
    · cases found
    · rename_i head rest shape
      have headEq : head = separator := by
        have headFails := List.head?_dropWhile_not (· != separator) text.toList
        rw [shape] at headFails
        simpa using headFails
      simp only [Option.some.injEq, Prod.mk.injEq] at found
      rcases found with ⟨rfl, rfl⟩
      rw [shape, headEq] at whole
      exact ⟨by simpa using whole.symm, by simpa using beforeFree⟩
  · rintro ⟨shape, free⟩
    have passes : ∀ letter ∈ before.toList, (letter != separator) = true := by
      intro letter mem
      simp only [bne_iff_ne, ne_eq]
      rintro rfl
      exact free mem
    rw [shape, List.takeWhile_append_of_pos passes, List.dropWhile_append_of_pos passes]
    simp

theorem cut?_eq_none_iff {separator : Char} {text : String} :
    cut? separator text = none ↔ separator ∉ text.toList := by
  constructor
  · intro uncut mem
    rcases List.eq_append_cons_of_mem mem with ⟨before, after, shape, free⟩
    have found : cut? separator text = some (String.ofList before, String.ofList after) :=
      cut?_eq_some_iff.2 ⟨by simpa using shape, by simpa using free⟩
    rw [uncut] at found
    cases found
  · intro free
    cases found : cut? separator text with
    | none => rfl
    | some pieces =>
        rcases cut?_eq_some_iff.1 found with ⟨shape, _⟩
        exact absurd (by simp [shape]) free

theorem not_mem_of_mem_splitOn {separator : Char} {letters piece : List Char}
    (mem : piece ∈ letters.splitOn separator) : separator ∉ piece := by
  induction letters generalizing piece with
  | nil =>
      have empty : piece = [] := by simpa using mem
      simp [empty]
  | cons letter rest ih =>
      rw [List.splitOn_cons_eq_if_modifyHead] at mem
      split at mem
      · rcases List.mem_cons.1 mem with rfl | later
        · simp
        · exact ih later
      · rename_i different
        rcases shape : rest.splitOn separator with _ | ⟨first, others⟩
        · exact absurd shape (List.splitOn_ne_nil separator rest)
        · rw [shape] at mem ih
          rcases List.mem_cons.1 mem with rfl | later
          · have firstFree := ih (List.mem_cons_self (a := first))
            simp only [List.mem_cons, not_or]
            exact ⟨fun same => different (by simp [same]), firstFree⟩
          · exact ih (List.mem_cons_of_mem first later)

/-- Splitting finds the only way to write a text as pieces without the separator, joined by it. -/
theorem split_eq_iff {separator : Char} {text : String} {pieces : List String} :
    split separator text = pieces ↔
      pieces ≠ [] ∧ (∀ piece ∈ pieces, separator ∉ piece.toList) ∧
        (String.singleton separator).intercalate pieces = text := by
  simp only [split]
  constructor
  · rintro rfl
    refine ⟨by simp [List.splitOn_ne_nil], ?_, ?_⟩
    · intro piece mem
      rcases List.mem_map.1 mem with ⟨letters, lettersMem, rfl⟩
      simpa using not_mem_of_mem_splitOn lettersMem
    · rw [← String.toList_inj]
      simp [Function.comp_def]
  · rintro ⟨nonempty, free, rfl⟩
    have apart : ∀ letters ∈ pieces.map String.toList, separator ∉ letters := by
      intro letters mem
      rcases List.mem_map.1 mem with ⟨piece, pieceMem, rfl⟩
      exact free piece pieceMem
    rw [String.toList_intercalate, String.toList_singleton,
      List.splitOn_intercalate separator apart (by simpa using nonempty)]
    simp [Function.comp_def]

/-- What is left of a text is followed in it by that character alone and does not end in it. -/
theorem dropTrailing_eq_iff {character : Char} {text core : String} :
    dropTrailing character text = core ↔
      (∃ count, text = core ++ String.ofList (List.replicate count character)) ∧
        core.toList.getLast? ≠ some character := by
  simp only [dropTrailing]
  constructor
  · rintro rfl
    have whole := List.takeWhile_append_dropWhile (p := (· == character)) (l := text.toList.reverse)
    have dropped : text.toList.reverse.takeWhile (· == character) =
        List.replicate (text.toList.reverse.takeWhile (· == character)).length character := by
      rw [List.eq_replicate_iff]
      exact ⟨rfl, fun letter mem => by simpa using List.mem_takeWhile_imp mem⟩
    constructor
    · refine ⟨(text.toList.reverse.takeWhile (· == character)).length, ?_⟩
      rw [← String.toList_inj, String.toList_append, String.toList_ofList, String.toList_ofList,
        ← List.reverse_replicate, ← dropped, ← List.reverse_append, whole, List.reverse_reverse]
    · have headFails := List.head?_dropWhile_not (· == character) text.toList.reverse
      intro last
      simp only [String.toList_ofList, List.getLast?_reverse] at last
      simp [last] at headFails
  · rintro ⟨⟨count, rfl⟩, last⟩
    have matching : ∀ letter ∈ List.replicate count character, (letter == character) = true := by
      intro letter mem
      simpa using List.eq_of_mem_replicate mem
    rw [String.toList_append, String.toList_ofList, List.reverse_append, List.reverse_replicate,
      List.dropWhile_append_of_pos matching, List.dropWhile_beq_eq_self_of_head?_ne]
    · simp
    · simpa using last

theorem startsWith_iff {start text : String} :
    startsWith start text = true ↔ start.toList <+: text.toList :=
  List.isPrefixOf_iff_prefix

/-- A text that is some word, each of its letters in lower or in upper case. -/
def Spells (text word : String) : Prop :=
  List.Forall₂ (fun written letter => written = letter ∨ written = letter.toUpper)
    text.toList word.toList

theorem toLower_eq_iff {written letter : Char} (small : letter.isLower = true) :
    written.toLower = letter ↔ written = letter ∨ written = letter.toUpper := by
  simp only [Char.isLower, Bool.and_eq_true, decide_eq_true_eq, ge_iff_le] at small
  simp only [Char.toLower, Char.toUpper]
  split <;> simp only [Char.ext_iff] <;> grind

/-- The texts that become a word of small letters are its spellings. -/
theorem lowerAscii_eq_iff {text word : String}
    (small : ∀ letter ∈ word.toList, letter.isLower = true) :
    lowerAscii text = word ↔ Spells text word := by
  simp only [lowerAscii, Spells]
  rw [← String.toList_inj, String.toList_ofList]
  generalize word.toList = letters at small
  induction text.toList generalizing letters with
  | nil => simp [eq_comm]
  | cons written rest ih =>
      cases letters with
      | nil => simp
      | cons letter others =>
          have letterSmall : letter.isLower = true := small letter (by simp)
          rw [List.map_cons, List.cons.injEq, List.forall₂_cons, toLower_eq_iff letterSmall,
            ih others fun later mem => small later (by simp [mem])]

end ParamRules.Text
