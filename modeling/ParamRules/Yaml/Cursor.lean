/-!
# Places in a YAML text

YAML is read line by line and column by column, since indentation has meaning. A `Cursor` is a
place in a text: the characters ahead of it and where it stands.
-/

namespace ParamRules.Yaml

/-- The characters that separate words within a line. -/
def isBlank (character : Char) : Bool :=
  character == ' ' || character == '\t'

def isBreak (character : Char) : Bool :=
  character == '\n' || character == '\r' || character == '\x85' || character == '\u2028'
    || character == '\u2029'

/-- The characters that may occur in a text: no control character but the tab and line breaks. -/
def isAllowed (character : Char) : Bool :=
  let code := character.toNat
  code == 0x09 || code == 0x0a || code == 0x0d || (0x20 ≤ code && code ≤ 0x7e) || code == 0x85
    || (0xa0 ≤ code && code ≤ 0xfffd) || 0x10000 ≤ code

/-- Whether a word ends here: before a blank, a line break or the end of the text. -/
def endsWord : List Char → Bool
  | [] => true
  | character :: _ => isBlank character || isBreak character

structure Cursor where
  ahead : List Char
  /-- How many bytes of UTF-8 came before. -/
  offset : Nat := 0
  /-- How many lines came before. -/
  line : Nat := 0
  /-- How many characters of this line came before. -/
  column : Nat := 0

namespace Cursor

/-- The number of bytes that the first few characters ahead take. -/
def byteCount (cursor : Cursor) (count : Nat) : Nat :=
  (cursor.ahead.take count).foldl (fun bytes character => bytes + character.utf8Size) 0

/-- The place some characters further on the same line. -/
def advance (cursor : Cursor) (count : Nat) : Cursor where
  ahead := cursor.ahead.drop count
  offset := cursor.offset + cursor.byteCount count
  line := cursor.line
  column := cursor.column + count

/-- The place after the line break ahead; a carriage return and a line feed are one break. -/
def skipBreak (cursor : Cursor) : Cursor :=
  let length := if ['\r', '\n'].isPrefixOf cursor.ahead then 2 else 1
  { ahead := cursor.ahead.drop length
    offset := cursor.offset + cursor.byteCount length
    line := cursor.line + 1 }

/-- Whether three of a character stand alone at the start of a line. -/
def atMarker (cursor : Cursor) (character : Char) : Bool :=
  cursor.column == 0 && (List.replicate 3 character).isPrefixOf cursor.ahead
    && endsWord (cursor.ahead.drop 3)

def atDocumentMarker (cursor : Cursor) : Bool :=
  cursor.atMarker '-' || cursor.atMarker '.'

end Cursor

end ParamRules.Yaml
