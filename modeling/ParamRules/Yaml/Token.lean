import ParamRules.Yaml.Scalar

/-!
# YAML tokens

`Token.scan` takes a YAML text apart into the signs and scalars that it is made of and makes its
layout explicit: where indentation starts or ends a block sequence or a block mapping, a token says
so, and a `key` token stands in front of each key of a mapping, although a text shows only the
colon after it.

That a scalar or a flow collection is a key is known only when its colon is reached. Until then the
place where it started is kept as a `Candidate`; a key must start and end on one line.

Directives, tags, anchors, aliases and block scalars are not part of the language that is read.
-/

namespace ParamRules.Yaml

/-- A sign, a scalar, or a mark of the layout. -/
inductive Token where
  /-- The sign `---`. -/
  | documentStart
  /-- The sign `...`. -/
  | documentEnd
  /-- A sequence of entries that are marked by dashes starts. -/
  | blockSequence
  /-- A mapping that is laid out by indentation starts. -/
  | blockMapping
  /-- The innermost collection that is laid out by indentation ends. -/
  | blockEnd
  | flowSequence
  | flowSequenceEnd
  | flowMapping
  | flowMappingEnd
  /-- A dash in front of an entry. -/
  | blockEntry
  /-- A comma in a flow collection. -/
  | flowEntry
  | key
  /-- A colon; a value follows. -/
  | value
  | scalar (style : Style) (text : String)
deriving DecidableEq

/-- Where something started that is a key if a colon follows it. -/
structure Candidate where
  /-- How many tokens came before it. -/
  token : Nat
  start : Cursor
  /-- Whether it stands where only a key can stand. -/
  required : Bool

/-- What has been scanned of a text. -/
structure Layout where
  cursor : Cursor
  tokens : Array Token := #[]
  /-- The columns of the block collections that are open, innermost first. -/
  blocks : List Nat := []
  /-- Whether a key may start here. -/
  keyAllowed : Bool := true
  /-- What may turn out to be a key of the innermost open collection. -/
  candidate : Option Candidate := none
  /-- The same for the collections around each open flow collection, innermost first. -/
  outer : List (Option Candidate) := []

namespace Layout

/-- Whether a flow collection is open, in which indentation means nothing. -/
def inFlow (layout : Layout) : Bool :=
  !layout.outer.isEmpty

/-- The least column at which a plain scalar may go on. -/
def leastColumn (layout : Layout) : Nat :=
  match layout.blocks with
  | [] => 0
  | column :: _ => column + 1

/-- Adds a token and goes some characters further. -/
def push (layout : Layout) (token : Token) (length : Nat) : Layout :=
  { layout with
    tokens := layout.tokens.push token
    cursor := layout.cursor.advance length }

/-- Skips blanks, comments and line breaks. At the start of a line outside of flow collections,
where a tab would count as indentation, tabs are not skipped. A byte order mark may start a line. -/
def skipSpace (layout : Layout) : Layout :=
  let goOn (next : Cursor) (keyAllowed : Bool) : Layout :=
    if _progress : next.ahead.length < layout.cursor.ahead.length then
      skipSpace { layout with cursor := next, keyAllowed }
    else layout
  let cursor := layout.cursor
  match cursor.ahead with
  | [] => layout
  | character :: _ =>
      if character == ' ' || character == '\t' && (layout.inFlow || !layout.keyAllowed)
          || character == '\ufeff' && cursor.column == 0 then
        goOn (cursor.advance 1) layout.keyAllowed
      else if character == '#' then
        goOn (cursor.advance (cursor.ahead.takeWhile (!isBreak ·)).length) layout.keyAllowed
      else if isBreak character then
        goOn cursor.skipBreak (layout.keyAllowed || !layout.inFlow)
      else layout
termination_by layout.cursor.ahead.length

/-- Ends the block collections that lie right of a column. -/
def closeBlocks (layout : Layout) (column : Nat) : Layout :=
  if layout.inFlow then layout
  else
    let closed := layout.blocks.takeWhile (column < ·)
    { layout with
      blocks := layout.blocks.drop closed.length
      tokens := layout.tokens ++ closed.map fun _ => Token.blockEnd }

def closeAllBlocks (layout : Layout) : Layout :=
  if layout.inFlow then layout
  else
    { layout with
      blocks := []
      tokens := layout.tokens ++ layout.blocks.map fun _ => Token.blockEnd }

/-- Starts a block collection at a column, unless one starts there already. Its token goes before
the token at a position. -/
def openBlock (layout : Layout) (column position : Nat) (token : Token) : Layout :=
  if layout.inFlow || layout.blocks.head?.any (column ≤ ·) then layout
  else
    { layout with
      blocks := column :: layout.blocks
      tokens := layout.tokens.insertIdxIfInBounds position token }

/-- Gives up what might have been a key; fails if it had to be one. -/
def dropCandidate (layout : Layout) : Option Layout :=
  if layout.candidate.any (·.required) then none else some { layout with candidate := none }

/-- Notes that a key may start here. In the first column of a block collection it must. -/
def saveCandidate (layout : Layout) : Option Layout :=
  if layout.keyAllowed then do
    let layout ← layout.dropCandidate
    let required := !layout.inFlow && layout.blocks.head? == some layout.cursor.column
    let candidate := { token := layout.tokens.size, start := layout.cursor, required }
    return { layout with candidate := some candidate }
  else some layout

/-- Whether something that started as a candidate can still be a key: it must lie on one line and
must not be longer than 1024 bytes. -/
def isKey (layout : Layout) (candidate : Candidate) : Bool :=
  candidate.start.line == layout.cursor.line
    && layout.cursor.offset ≤ candidate.start.offset + 1024

def takeDocumentMarker (layout : Layout) (token : Token) : Option Layout := do
  let layout ← layout.closeAllBlocks.dropCandidate
  return { layout with keyAllowed := false }.push token 3

def takeFlowStart (layout : Layout) (token : Token) : Option Layout := do
  let layout ← layout.saveCandidate
  let inside :=
    { layout with keyAllowed := true, candidate := none, outer := layout.candidate :: layout.outer }
  return inside.push token 1

def takeFlowEnd (layout : Layout) (token : Token) : Option Layout := do
  let layout ← layout.dropCandidate
  let outside := match layout.outer with
    | [] => layout
    | candidate :: outer => { layout with candidate, outer }
  return { outside with keyAllowed := false }.push token 1

def takeFlowEntry (layout : Layout) : Option Layout := do
  let layout ← layout.dropCandidate
  return { layout with keyAllowed := true }.push .flowEntry 1

def takeBlockEntry (layout : Layout) : Option Layout := do
  guard (layout.inFlow || layout.keyAllowed)
  let layout ← (layout.openBlock layout.cursor.column layout.tokens.size .blockSequence)
    |>.dropCandidate
  return { layout with keyAllowed := true }.push .blockEntry 1

def takeKey (layout : Layout) : Option Layout := do
  guard (layout.inFlow || layout.keyAllowed)
  let layout ← (layout.openBlock layout.cursor.column layout.tokens.size .blockMapping)
    |>.dropCandidate
  return { layout with keyAllowed := !layout.inFlow }.push .key 1

/-- Takes the colon in front of a value that follows no key of its own line. -/
def takeBareValue (layout : Layout) : Option Layout := do
  guard (layout.inFlow || layout.keyAllowed)
  let layout := layout.openBlock layout.cursor.column layout.tokens.size .blockMapping
  return { layout with keyAllowed := !layout.inFlow }.push .value 1

/-- Takes the colon in front of a value. What was a candidate until now is its key. -/
def takeValue (layout : Layout) : Option Layout :=
  match layout.candidate with
  | none => layout.takeBareValue
  | some candidate =>
      if layout.isKey candidate then
        let marked :=
          { layout with
            tokens := layout.tokens.insertIdxIfInBounds candidate.token .key
            candidate := none
            keyAllowed := false }
        some ((marked.openBlock candidate.start.column candidate.token .blockMapping).push .value 1)
      else if candidate.required then none
      else { layout with candidate := none }.takeBareValue

def takeQuoted (layout : Layout) (quote : Char) : Option Layout := do
  let layout ← layout.saveCandidate
  let (text, after) ← readQuoted quote (layout.cursor.advance 1)
  return {
    layout with
    tokens := layout.tokens.push (.scalar .quoted (String.ofList text))
    cursor := after
    keyAllowed := false }

/-- Takes a plain scalar. After one that ends its line a key may start. -/
def takePlain (layout : Layout) : Option Layout := do
  let layout ← layout.saveCandidate
  let plain ← readPlain layout.inFlow layout.leastColumn {} layout.cursor
  return {
    layout with
    tokens := layout.tokens.push (.scalar .plain (String.ofList plain.text))
    cursor := plain.after
    keyAllowed := plain.endsLine }

/-- The characters that cannot start a plain scalar. A dash, a question mark or a colon can if a
word goes on behind it; `startsPlain` deals with them. -/
def indicators : List Char :=
  ['-', '?', ':', ',', '[', ']', '{', '}', '#', '&', '*', '!', '|', '>', '\'', '"', '%', '@',
    '\x60']

/-- Whether a plain scalar starts with these characters. -/
def startsPlain (inFlow : Bool) : List Char → Bool
  | [] => false
  | character :: rest =>
      !(isBlank character || isBreak character || indicators.contains character)
        || character == '-' && !rest.head?.any isBlank
        || !inFlow && (character == '?' || character == ':') && !endsWord rest

/-- Takes the token ahead, of which the first character is given. -/
def takeToken (layout : Layout) (character : Char) (rest : List Char) : Option Layout :=
  let cursor := layout.cursor
  if cursor.column == 0 && character == '%' then none
  else if cursor.atMarker '-' then layout.takeDocumentMarker .documentStart
  else if cursor.atMarker '.' then layout.takeDocumentMarker .documentEnd
  else if character == '[' then layout.takeFlowStart .flowSequence
  else if character == '{' then layout.takeFlowStart .flowMapping
  else if character == ']' then layout.takeFlowEnd .flowSequenceEnd
  else if character == '}' then layout.takeFlowEnd .flowMappingEnd
  else if character == ',' then layout.takeFlowEntry
  else if character == '-' && endsWord rest then layout.takeBlockEntry
  else if character == '?' && (layout.inFlow || endsWord rest) then layout.takeKey
  else if character == ':' && (layout.inFlow || endsWord rest) then layout.takeValue
  else if character == '\'' || character == '"' then layout.takeQuoted character
  else if startsPlain layout.inFlow cursor.ahead then layout.takePlain
  else none

def scanRest (layout : Layout) : Option (List Token) :=
  let spaced := layout.skipSpace
  match spaced.cursor.ahead with
  | [] => spaced.closeAllBlocks.dropCandidate.map (·.tokens.toList)
  | character :: rest =>
      match (spaced.closeBlocks spaced.cursor.column).takeToken character rest with
      | none => none
      | some next =>
          if _progress : next.cursor.ahead.length < layout.cursor.ahead.length then next.scanRest
          else none
termination_by layout.cursor.ahead.length

end Layout

/-- The tokens of a text, if the text is well formed as far as tokens go. -/
def Token.scan (text : String) : Option (List Token) :=
  if text.toList.all isAllowed then Layout.scanRest { cursor := { ahead := text.toList } } else none

end ParamRules.Yaml
