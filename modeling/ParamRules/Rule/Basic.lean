import ParamRules.Rule.Condition

/-!
# Rules

A rule is an ordered list of entries for one parameter. Each condition occurs in it at most once:
`push` adds an entry at the end, or, when the rule has an entry with that condition already, gives
that entry the new replacement and leaves it where it is. `Rule.ofEntries` pushes a whole list.
-/

namespace ParamRules

/-- The entries of a rule for one parameter, in the order in which they are tried. -/
@[ext]
structure Rule where
  entries : List Entry := []
  /-- No two entries have the same condition. -/
  distinct : (entries.map Entry.condition).Nodup := by exact .nil
deriving DecidableEq

namespace Rule

/-- A list of entries with one more: in the place of the entry with its condition, or at the end. -/
def pushEntry (entry : Entry) : List Entry → List Entry
  | [] => [entry]
  | head :: tail =>
      if head.sameCondition entry then
        { head with replacement := entry.replacement } :: tail
      else head :: pushEntry entry tail

theorem condition_of_mem_pushEntry {entry member : Entry} {entries : List Entry}
    (mem : member ∈ pushEntry entry entries) :
    member.condition = entry.condition ∨
      ∃ old ∈ entries, old.condition = member.condition := by
  induction entries with
  | nil => simp_all [pushEntry]
  | cons head tail ih =>
      rw [pushEntry] at mem
      split at mem
      · rcases List.mem_cons.1 mem with rfl | later
        · exact .inr ⟨head, by simp⟩
        · exact .inr ⟨member, by simp [later]⟩
      · rcases List.mem_cons.1 mem with rfl | later
        · exact .inr ⟨member, by simp⟩
        · rcases ih later with same | ⟨old, oldMem, same⟩
          · exact .inl same
          · exact .inr ⟨old, by simp [oldMem], same⟩

theorem distinct_pushEntry (entry : Entry) {entries : List Entry}
    (distinct : (entries.map Entry.condition).Nodup) :
    ((pushEntry entry entries).map Entry.condition).Nodup := by
  induction entries with
  | nil => simp [pushEntry]
  | cons head tail ih =>
      obtain ⟨headFresh, tailDistinct⟩ := List.nodup_cons.1 distinct
      rw [pushEntry]
      split
      · exact distinct
      · rename_i different
        refine List.nodup_cons.2 ⟨fun found => ?_, ih tailDistinct⟩
        obtain ⟨member, mem, same⟩ := List.mem_map.1 found
        rcases condition_of_mem_pushEntry mem with isNew | ⟨old, oldMem, isOld⟩
        · exact different (by simp [Entry.sameCondition, ← same, isNew])
        · exact headFresh (List.mem_map.2 ⟨old, oldMem, isOld.trans same⟩)

instance : EmptyCollection Rule := ⟨{}⟩

instance : Inhabited Rule := ⟨∅⟩

/-- The rule with one more entry, or with a new replacement for the entry of that condition. -/
def push (rule : Rule) (entry : Entry) : Rule where
  entries := pushEntry entry rule.entries
  distinct := distinct_pushEntry entry rule.distinct

def ofEntries (entries : List Entry) : Rule :=
  entries.foldl push ∅

/-- The rule that gives the parameter one value, whatever the request says. -/
def invariant (value : String) : Rule where
  entries := [⟨.invariant, value⟩]
  distinct := by simp

def replacement? (rule : Rule) (condition : Condition) : Option String :=
  (rule.entries.find? (·.condition == condition)).map Entry.replacement

def size (rule : Rule) : Nat :=
  rule.entries.length

def isEmpty (rule : Rule) : Bool :=
  rule.entries.isEmpty

/-- The body of a rule as the rule language writes it: the entries with one space between them. -/
def text (rule : Rule) : String :=
  " ".intercalate (rule.entries.map Entry.text)

end Rule

end ParamRules
