import ParamRules.Text

/-!
# Texts as bytes

The system keeps names and paths as bytes. `bytes` gives those of a text, in UTF-8. Other bytes may
stand in a name too, and `ofBytes` shows them all the same: where they are no character, the mark
U+FFFD stands for them. A character that breaks off in the middle is shown as one mark, and any
other byte that belongs to no character as a mark of its own.
-/

namespace ParamRules.Text

/-- The bytes of a text in UTF-8. -/
def bytes (text : String) : List UInt8 :=
  text.toUTF8.data.toList

/-- Whether a byte is one of those after the first byte of a character. -/
def isContinuation (byte : UInt8) : Bool :=
  0x80 ≤ byte && byte ≤ 0xbf

/-- Whether two bytes can begin a character of three or four bytes. -/
def beginLong (first second : UInt8) : Bool :=
  if first = 0xe0 then 0xa0 ≤ second && second ≤ 0xbf
  else if first = 0xed then 0x80 ≤ second && second ≤ 0x9f
  else if first = 0xf0 then 0x90 ≤ second && second ≤ 0xbf
  else if first = 0xf4 then 0x80 ≤ second && second ≤ 0x8f
  else 0xe1 ≤ first && first ≤ 0xf3 && isContinuation second

/-- The number of bytes that share a mark with the first one, where they begin no character. -/
def brokenOff (first : UInt8) : List UInt8 → Nat
  | second :: third :: _ =>
      if beginLong first second then
        if 0xf0 ≤ first && isContinuation third then 2 else 1
      else 0
  | [second] => if beginLong first second then 1 else 0
  | [] => 0

/-- The characters that bytes show. -/
def charactersOf (given : List UInt8) : List Char :=
  match given with
  | [] => []
  | first :: rest =>
      match (first :: rest).toByteArray.utf8DecodeChar? 0 with
      | some character => character :: charactersOf ((first :: rest).drop character.utf8Size)
      | none => '\uFFFD' :: charactersOf (rest.drop (brokenOff first rest))
termination_by given.length
decreasing_by
  · have := character.utf8Size_pos
    simp only [List.length_drop, List.length_cons]
    omega
  · simp only [List.length_drop, List.length_cons]
    omega

/-- The text that bytes show. -/
def ofBytes (given : List UInt8) : String :=
  String.ofList (charactersOf given)

end ParamRules.Text
