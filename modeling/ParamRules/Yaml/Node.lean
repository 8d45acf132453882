import ParamRules.Yaml.Token

/-!
# YAML documents

A document is a tree of scalars, sequences and mappings. Whatever is left out, such as a value after
a colon, reads as an empty plain scalar, and so does an empty text as a whole. A mapping keeps its
entries in the order in which they were written, repeated keys included.

The readers take the tokens ahead and give what they read with the tokens after it. They count down
from a bound of four for each token: of four readers in a row that call each other, at least one
takes a token.
-/

namespace ParamRules.Yaml

inductive Node where
  | scalar (style : Style) (text : String)
  | sequence (items : List Node)
  | mapping (entries : List (Node × Node))

namespace Node

def empty : Node :=
  .scalar .plain ""

instance : Inhabited Node := ⟨empty⟩

/-- Where a node stands, which decides what kinds of node can stand there. -/
inductive Place where
  /-- Inside a flow collection, where nothing is laid out by indentation. -/
  | flow
  /-- Where a collection that is laid out by indentation can start. -/
  | block
  /-- The same as a key of a mapping or its value, where a sequence can also start at the column of
  the key, without a token that starts it. -/
  | atKey
deriving DecidableEq

def Place.allowsBlock (place : Place) : Bool :=
  place != .flow

def Place.allowsFlush (place : Place) : Bool :=
  place == .atKey

mutual

/-- Reads a node that stands at a place. -/
def read (bound : Nat) (place : Place) (ahead : List Token) : Option (Node × List Token) :=
  match bound, ahead with
  | _ + 1, .scalar style text :: rest => some (.scalar style text, rest)
  | bound + 1, .flowSequence :: rest =>
      (readFlowItems bound rest).map fun read => (.sequence read.1, read.2)
  | bound + 1, .flowMapping :: rest =>
      (readFlowEntries bound rest).map fun read => (.mapping read.1, read.2)
  | bound + 1, .blockSequence :: rest =>
      if place.allowsBlock then
        (readBlockItems bound rest).map fun read => (.sequence read.1, read.2)
      else none
  | bound + 1, .blockMapping :: rest =>
      if place.allowsBlock then
        (readBlockEntries bound rest).map fun read => (.mapping read.1, read.2)
      else none
  | bound + 1, .blockEntry :: _ =>
      if place.allowsFlush then
        (readFlushItems bound ahead).map fun read => (.sequence read.1, read.2)
      else none
  | _, _ => none

/-- Reads a node, or nothing in front of one of the given tokens. -/
def readOrEmpty (bound : Nat) (place : Place) (enders : List Token) (ahead : List Token) :
    Option (Node × List Token) :=
  match bound with
  | 0 => none
  | bound + 1 =>
      if ahead.head?.any (enders.contains ·) then some (empty, ahead) else read bound place ahead

/-- Reads the value of a key if a colon is ahead, and nothing otherwise. -/
def readValue (bound : Nat) (place : Place) (enders : List Token) (ahead : List Token) :
    Option (Node × List Token) :=
  match bound, ahead with
  | 0, _ => none
  | bound + 1, .value :: rest => readOrEmpty bound place enders rest
  | _, _ => some (empty, ahead)

def readBlockItems (bound : Nat) (ahead : List Token) : Option (List Node × List Token) :=
  match bound, ahead with
  | _, .blockEnd :: rest => some ([], rest)
  | bound + 1, .blockEntry :: rest => do
      let (item, next) ← readOrEmpty bound .block [.blockEntry, .blockEnd] rest
      let (items, after) ← readBlockItems bound next
      return (item :: items, after)
  | _, _ => none

/-- Reads the items of a sequence at the column of its key, which ends with the last dash. -/
def readFlushItems (bound : Nat) (ahead : List Token) : Option (List Node × List Token) :=
  match bound, ahead with
  | 0, _ => none
  | bound + 1, .blockEntry :: rest => do
      let (item, next) ← readOrEmpty bound .block [.blockEntry, .key, .value, .blockEnd] rest
      let (items, after) ← readFlushItems bound next
      return (item :: items, after)
  | _, _ => some ([], ahead)

def readBlockEntries (bound : Nat) (ahead : List Token) :
    Option (List (Node × Node) × List Token) :=
  match bound, ahead with
  | _, .blockEnd :: rest => some ([], rest)
  | bound + 1, .key :: rest => do
      let (key, afterKey) ← readOrEmpty bound .atKey [.key, .value, .blockEnd] rest
      let (value, next) ← readValue bound .atKey [.key, .value, .blockEnd] afterKey
      let (entries, after) ← readBlockEntries bound next
      return ((key, value) :: entries, after)
  | _, _ => none

/-- Reads an item of a flow sequence. One with a colon in it, or with a question mark in front, is a
mapping of one entry. A key that is left out takes the sign right after it along, whatever that sign
would have meant there. -/
def readFlowItem (bound : Nat) (ahead : List Token) : Option (Node × List Token) :=
  match bound, ahead with
  | 0, _ => none
  | bound + 1, .key :: rest => do
      let (key, afterKey) ← match rest with
        | .value :: later | .flowEntry :: later | .flowSequenceEnd :: later =>
            some (empty, later)
        | _ => read bound .flow rest
      let (value, after) ← readValue bound .flow [.flowEntry, .flowSequenceEnd] afterKey
      return (.mapping [(key, value)], after)
  | bound + 1, _ => read bound .flow ahead

/-- Reads the items of a flow sequence to its end. A comma may follow the last one. -/
def readFlowItems (bound : Nat) (ahead : List Token) : Option (List Node × List Token) :=
  match bound, ahead with
  | _, .flowSequenceEnd :: rest => some ([], rest)
  | bound + 1, _ => do
      match ← readFlowItem bound ahead with
      | (item, .flowEntry :: next) =>
          let (items, after) ← readFlowItems bound next
          return (item :: items, after)
      | (item, .flowSequenceEnd :: after) => return ([item], after)
      | _ => none
  | _, _ => none

/-- Reads an entry of a flow mapping. A key alone has an empty value. -/
def readFlowEntry (bound : Nat) (ahead : List Token) : Option ((Node × Node) × List Token) :=
  match bound, ahead with
  | 0, _ => none
  | bound + 1, .key :: rest => do
      let (key, afterKey) ← readOrEmpty bound .flow [.value, .flowEntry, .flowMappingEnd] rest
      let (value, after) ← readValue bound .flow [.flowEntry, .flowMappingEnd] afterKey
      return ((key, value), after)
  | bound + 1, _ => do
      let (key, after) ← read bound .flow ahead
      return ((key, empty), after)

/-- Reads the entries of a flow mapping to its end. A comma may follow the last one. -/
def readFlowEntries (bound : Nat) (ahead : List Token) :
    Option (List (Node × Node) × List Token) :=
  match bound, ahead with
  | _, .flowMappingEnd :: rest => some ([], rest)
  | bound + 1, _ => do
      match ← readFlowEntry bound ahead with
      | (entry, .flowEntry :: next) =>
          let (entries, after) ← readFlowEntries bound next
          return (entry :: entries, after)
      | (entry, .flowMappingEnd :: after) => return ([entry], after)
      | _ => none
  | _, _ => none

end

/-- A bound that no reader reaches on these tokens. -/
def bound (ahead : List Token) : Nat :=
  4 * ahead.length + 4

/-- Reads the content of a document that was started by its sign. -/
def readContent (ahead : List Token) : Option (Node × List Token) :=
  match ahead with
  | [] | .documentStart :: _ | .documentEnd :: _ => some (empty, ahead)
  | _ => read (bound ahead) .block ahead

/-- Reads the documents after the first one. Each of them must be started by its sign. -/
def readLater (ahead : List Token) : Option (List Node) :=
  match ahead with
  | [] => some []
  | .documentEnd :: rest => readLater rest
  | .documentStart :: rest =>
      match readContent rest with
      | none => none
      | some (node, after) =>
          if _progress : after.length ≤ rest.length then
            (readLater after).map (node :: ·)
          else none
  | _ => none
termination_by ahead.length

/-- The documents of a text, of which there is at least one, if the text is well formed. -/
def documents (text : String) : Option (List Node) := do
  match ← Token.scan text with
  | [] => return [empty]
  | .documentStart :: rest => readLater (.documentStart :: rest)
  | ahead => do
      let (node, after) ← read (bound ahead) .block ahead
      return node :: (← readLater after)

def document (text : String) : Option Node := do
  match ← documents text with
  | [node] => return node
  | _ => none

end Node

end ParamRules.Yaml
