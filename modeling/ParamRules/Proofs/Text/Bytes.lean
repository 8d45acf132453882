import Mathlib
import ParamRules.Text.Bytes

/-!
# Texts and their bytes

Texts are compared character by character. The bytes of a lesser character come before those of a
greater one, whatever follows them (`encode_append_lt`), so comparing texts byte by byte in UTF-8
gives the same order (`lt_iff_bytes_lt`). The bytes of a text show that text again
(`ofBytes_bytes`).
-/

namespace ParamRules.Text

variable {low high : Nat} {lowRest highRest : List UInt8}

theorem cons_ofNat_lt (bound : high < 256) (order : low < high ∨ low = high ∧ lowRest < highRest) :
    UInt8.ofNat low :: lowRest < UInt8.ofNat high :: highRest := by
  rw [List.cons_lt_cons_iff, UInt8.lt_iff_toNat_lt]
  rcases order with less | ⟨same, less⟩
  · left
    simp only [UInt8.toNat_ofNat']
    omega
  · right
    exact ⟨by rw [same], less⟩

/-! The bytes after the first hold six bits each. Where all bits before them are the same they are
in the order of the codes. -/

theorem lastByte_lt (less : low < high) (same : low / 64 = high / 64) :
    UInt8.ofNat (low % 64 + 128) :: lowRest < UInt8.ofNat (high % 64 + 128) :: highRest := by
  apply cons_ofNat_lt (by omega)
  left
  omega

theorem lastTwoBytes_lt (less : low < high) (same : low / 4096 = high / 4096) :
    UInt8.ofNat (low / 64 % 64 + 128) :: UInt8.ofNat (low % 64 + 128) :: lowRest <
      UInt8.ofNat (high / 64 % 64 + 128) :: UInt8.ofNat (high % 64 + 128) :: highRest := by
  apply cons_ofNat_lt (by omega)
  by_cases front : low / 64 = high / 64
  · right
    exact ⟨by rw [front], lastByte_lt less front⟩
  · left
    omega

theorem lastThreeBytes_lt (less : low < high) (same : low / 262144 = high / 262144) :
    UInt8.ofNat (low / 4096 % 64 + 128) :: UInt8.ofNat (low / 64 % 64 + 128) ::
        UInt8.ofNat (low % 64 + 128) :: lowRest <
      UInt8.ofNat (high / 4096 % 64 + 128) :: UInt8.ofNat (high / 64 % 64 + 128) ::
        UInt8.ofNat (high % 64 + 128) :: highRest := by
  apply cons_ofNat_lt (by omega)
  by_cases front : low / 4096 = high / 4096
  · right
    exact ⟨by rw [front], lastTwoBytes_lt less front⟩
  · left
    omega

theorem code_lt (character : Char) : character.val.toNat < 0x110000 := by
  have valid := character.valid
  simp only [UInt32.isValidChar, Nat.isValidChar] at valid
  omega

theorem encode_append_lt {left right : Char} (less : left < right)
    (leftRest rightRest : List UInt8) :
    String.utf8EncodeChar left ++ leftRest < String.utf8EncodeChar right ++ rightRest := by
  have codes : left.val.toNat < right.val.toNat := less
  have bound := code_lt right
  simp only [String.utf8EncodeChar]
  generalize left.val.toNat = low at codes ⊢
  generalize right.val.toNat = high at codes bound ⊢
  split_ifs
  -- The lesser character does not take more bytes, and if it takes fewer its first byte is less.
  all_goals try omega
  all_goals simp only [List.cons_append, List.nil_append]
  all_goals apply cons_ofNat_lt (by omega)
  all_goals try (left; omega)
  · by_cases front : low / 64 = high / 64
    · right
      exact ⟨by rw [front], lastByte_lt codes front⟩
    · left
      omega
  · by_cases front : low / 4096 = high / 4096
    · right
      exact ⟨by rw [front], lastTwoBytes_lt codes front⟩
    · left
      omega
  · by_cases front : low / 262144 = high / 262144
    · right
      exact ⟨by rw [front], lastThreeBytes_lt codes front⟩
    · left
      omega

theorem encode_lt_of_lt {left right : List Char} (less : left < right) :
    left.flatMap String.utf8EncodeChar < right.flatMap String.utf8EncodeChar := by
  induction left generalizing right with
  | nil =>
      rcases right with _ | ⟨first, rest⟩
      · exact absurd less (List.lt_irrefl [])
      · rcases shape : String.utf8EncodeChar first with _ | ⟨byte, others⟩
        · exact absurd shape String.utf8EncodeChar_ne_nil
        · simp [shape]
  | cons head tail ih =>
      rcases right with _ | ⟨first, rest⟩
      · exact absurd less (List.not_lt_nil _)
      · rw [List.flatMap_cons, List.flatMap_cons]
        rcases List.cons_lt_cons_iff.1 less with headLess | ⟨rfl, tailLess⟩
        · exact encode_append_lt headLess _ _
        · exact List.append_left_lt (ih tailLess)

theorem encode_lt_iff {left right : List Char} :
    left.flatMap String.utf8EncodeChar < right.flatMap String.utf8EncodeChar ↔ left < right := by
  constructor
  · intro bytesLess
    rcases lt_trichotomy left right with less | rfl | greater
    · exact less
    · exact absurd bytesLess (List.lt_irrefl _)
    · exact absurd (encode_lt_of_lt greater) (List.lt_asymm bytesLess)
  · exact encode_lt_of_lt

theorem bytes_eq_flatMap (text : String) :
    bytes text = text.toList.flatMap String.utf8EncodeChar := by
  have encoded : text.toByteArray = text.toList.utf8Encode := by
    conv => lhs; rw [← String.ofList_toList (s := text)]
    rfl
  rw [bytes, String.toUTF8_eq_toByteArray, encoded, List.utf8Encode, List.toList_data_toByteArray]

/-- Comparing texts byte by byte is comparing them character by character. -/
theorem lt_iff_bytes_lt {left right : String} : left < right ↔ bytes left < bytes right := by
  rw [bytes_eq_flatMap, bytes_eq_flatMap, encode_lt_iff]
  rfl

/-! ## Showing bytes -/

theorem charactersOf_encode_append (character : Char) (rest : List UInt8) :
    charactersOf (String.utf8EncodeChar character ++ rest) =
      character :: charactersOf rest := by
  rcases shape : String.utf8EncodeChar character ++ rest with _ | ⟨first, others⟩
  · exact absurd (List.append_eq_nil_iff.1 shape).1 String.utf8EncodeChar_ne_nil
  · have decoded : (first :: others).toByteArray.utf8DecodeChar? 0 = some character := by
      rw [← shape, List.toByteArray_append]
      exact ByteArray.utf8DecodeChar?_utf8EncodeChar_append
    have remaining : (first :: others).drop character.utf8Size = rest := by
      rw [← shape, ← String.length_utf8EncodeChar, List.drop_left]
    rw [charactersOf]
    simp only [decoded, remaining]

/-- The bytes of a text show that text. -/
theorem ofBytes_bytes (text : String) : ofBytes (bytes text) = text := by
  have shown : ∀ characters : List Char,
      charactersOf (characters.flatMap String.utf8EncodeChar) = characters := by
    intro characters
    induction characters with
    | nil => simp [charactersOf]
    | cons character rest ih =>
        rw [List.flatMap_cons, charactersOf_encode_append, ih]
  rw [ofBytes, bytes_eq_flatMap, shown, String.ofList_toList]

end ParamRules.Text
