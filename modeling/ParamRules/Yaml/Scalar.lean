import ParamRules.Text.Hexadecimal
import ParamRules.Yaml.Cursor

/-!
# YAML scalars

A scalar is written plain, between single quotes or between double quotes. Each form may go on over
several lines: a single line break within a scalar reads as a space, and of several breaks in a row
the first is dropped. Only between double quotes are there escapes.

The readers take a cursor and give the text that they read with the cursor after it. They fail where
the text is not well formed.
-/

namespace ParamRules.Yaml

/-- How a scalar is written; only a plain one can mean anything but a text. -/
inductive Style where
  | plain
  | quoted
deriving DecidableEq

/-- Blanks and line breaks between two words of a scalar. -/
structure Gap where
  blanks : List Char := []
  broken : Bool := false
  /-- The first line break, unless it was escaped. -/
  first? : Option Char := none
  /-- The line breaks after the first. -/
  later : List Char := []

namespace Gap

def text (gap : Gap) : List Char :=
  if !gap.broken then gap.blanks
  else match gap.first? with
    | none => gap.later
    | some '\n' => if gap.later.isEmpty then [' '] else gap.later
    | some separator => separator :: gap.later

/-- The gap with one more line break, given by its character. Line and paragraph separators are
kept; all other breaks become line feeds. -/
def addBreak (gap : Gap) (character : Char) : Gap :=
  let kept := if character == '\u2028' || character == '\u2029' then character else '\n'
  if gap.broken then { gap with later := gap.later ++ [kept] }
  else { gap with broken := true, first? := some kept }

end Gap

/-- Reads on in a gap. After a line break, a tab must not stand left of the least column of the
scalar, where it would count as indentation. -/
def readGap (leastColumn : Nat) (gap : Gap) (cursor : Cursor) : Option (Gap × Cursor) :=
  match _ahead : cursor.ahead with
  | [] => some (gap, cursor)
  | character :: _ =>
      if isBlank character then
        if gap.broken then
          if character == '\t' && cursor.column < leastColumn then none
          else readGap leastColumn gap (cursor.advance 1)
        else readGap leastColumn { gap with blanks := gap.blanks ++ [character] } (cursor.advance 1)
      else if isBreak character then
        readGap leastColumn (gap.addBreak character) cursor.skipBreak
      else some (gap, cursor)
termination_by cursor.ahead.length
decreasing_by
  · simp [Cursor.advance, _ahead]
  · simp [Cursor.advance, _ahead]
  · simp only [Cursor.skipBreak, _ahead, List.length_drop, List.length_cons]
    split <;> omega

/-! ## Plain scalars -/

/-- Reads a word of a plain scalar. It ends before a blank or a line break, before a colon that
ends a key and, in a flow collection, before an indicator of the collection. A colon right before
such an indicator is an error. -/
def readWord (inFlow : Bool) (cursor : Cursor) : Option (List Char × Cursor) :=
  match _ahead : cursor.ahead with
  | [] => some ([], cursor)
  | character :: rest =>
      if isBlank character || isBreak character then some ([], cursor)
      else if inFlow && character == ':'
          && rest.head?.any ([',', '?', '[', ']', '{', '}'].contains ·) then
        none
      else if character == ':' && endsWord rest
          || inFlow && [',', '[', ']', '{', '}'].contains character then
        some ([], cursor)
      else
        (readWord inFlow (cursor.advance 1)).map fun read => (character :: read.1, read.2)
termination_by cursor.ahead.length
decreasing_by simp [Cursor.advance, _ahead]

structure PlainText where
  text : List Char
  /-- Whether the scalar was followed by a line break, so that a new line has begun. -/
  endsLine : Bool
  /-- The place after the scalar and the gap that follows it. -/
  after : Cursor

/-- Reads on in a plain scalar after a gap. The scalar ends at a comment, at the start or end of a
document and, outside of flow collections, at a line that starts left of the least column. -/
def readPlain (inFlow : Bool) (leastColumn : Nat) (gap : Gap) (cursor : Cursor) :
    Option PlainText :=
  if cursor.atDocumentMarker || cursor.ahead.head? == some '#' then
    some { text := [], endsLine := gap.broken, after := cursor }
  else
    match readWord inFlow cursor with
    | none => none
    | some ([], after) => some { text := [], endsLine := gap.broken, after }
    | some (word, afterWord) =>
        match readGap leastColumn {} afterWord with
        | none => none
        | some (next, after) =>
            let read := gap.text ++ word
            if after.offset == afterWord.offset || !inFlow && after.column < leastColumn then
              some { text := read, endsLine := next.broken, after }
            else if _progress : after.ahead.length < cursor.ahead.length then
              (readPlain inFlow leastColumn next after).map fun more =>
                { more with text := read ++ more.text }
            else none
termination_by cursor.ahead.length

/-! ## Quoted scalars -/

/-- The character that a backslash and this character stand for. -/
def shortEscape? : Char → Option Char
  | '0' => some '\x00'
  | 'a' => some '\x07'
  | 'b' => some '\x08'
  | 't' | '\t' => some '\t'
  | 'n' => some '\n'
  | 'v' => some '\x0b'
  | 'f' => some '\x0c'
  | 'r' => some '\r'
  | 'e' => some '\x1b'
  | ' ' => some ' '
  | '"' => some '"'
  | '/' => some '/'
  | '\\' => some '\\'
  | 'N' => some '\x85'
  | '_' => some '\xa0'
  | 'L' => some '\u2028'
  | 'P' => some '\u2029'
  | _ => none

/-- How many hexadecimal digits follow the letter of an escape. -/
def codeLength? : Char → Option Nat
  | 'x' => some 2
  | 'u' => some 4
  | 'U' => some 8
  | _ => none

def ofCode? (code : Nat) : Option Char :=
  if code < 0xd800 ∨ 0xe000 ≤ code ∧ code ≤ 0x10ffff then some (Char.ofNat code) else none

/-- Reads what follows a backslash: the character that it stands for and how long it is. -/
def readEscape : List Char → Option (Char × Nat)
  | [] => none
  | letter :: digits =>
      match codeLength? letter with
      | none => (shortEscape? letter).map fun character => (character, 1)
      | some length => do
          guard (length ≤ digits.length)
          let character ← ofCode? (← Text.Hexadecimal.read? (digits.take length))
          return (character, 1 + length)

/-- Reads the rest of a quoted scalar, up to and including the closing quote. -/
def readQuoted (quote : Char) (cursor : Cursor) : Option (List Char × Cursor) :=
  /- Reads on from a later place and puts a text in front of what is read there. -/
  let readOn (read : List Char) (next : Cursor) : Option (List Char × Cursor) :=
    if _progress : next.ahead.length < cursor.ahead.length then
      (readQuoted quote next).map fun more => (read ++ more.1, more.2)
    else none
  if cursor.atDocumentMarker then none
  else match cursor.ahead with
    | [] => none
    | character :: rest =>
        if isBlank character || isBreak character then
          match readGap 0 {} cursor with
          | none => none
          | some (gap, next) => readOn gap.text next
        else if quote == '\'' && character == '\'' && rest.head? == some '\'' then
          readOn ['\''] (cursor.advance 2)
        else if character == quote then some ([], cursor.advance 1)
        else if quote == '"' && character == '\\' then
          if rest.head?.any isBreak then
            match readGap 0 { broken := true } (cursor.advance 1).skipBreak with
            | none => none
            | some (gap, next) => readOn gap.text next
          else match readEscape rest with
            | none => none
            | some (escaped, length) => readOn [escaped] (cursor.advance (1 + length))
        else readOn [character] (cursor.advance 1)
termination_by cursor.ahead.length

end ParamRules.Yaml
