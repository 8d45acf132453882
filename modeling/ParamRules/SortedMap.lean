/-!
# Text-keyed maps in key order

A `SortedMap` holds its entries in strictly increasing order of key, so two maps with the same
look-ups are the same list of entries. Keys are compared character by character, which is also the
order of their UTF-8 bytes. Request parameters, replacement values and rule sets are all kept in
such maps: `alter` is the one operation that changes a map, and `find?_alter` says what it does to
every look-up.
-/

namespace ParamRules

universe u

/-- A finite map from texts, its entries in strictly increasing order of key. -/
@[ext]
structure SortedMap (α : Type u) where
  entries : List (String × α) := []
  /-- Keys increase strictly, so none occurs twice. -/
  increasing : entries.Pairwise fun left right => left.1 < right.1 := by exact .nil
deriving DecidableEq

namespace SortedMap

variable {α : Type u}

/-- Sorted entries with the value at one key replaced by what `change` makes of the present one. -/
def alterEntries (key : String) (change : Option α → α) :
    List (String × α) → List (String × α)
  | [] => [(key, change none)]
  | (head, value) :: tail =>
      if key < head then (key, change none) :: (head, value) :: tail
      else if key = head then (key, change (some value)) :: tail
      else (head, value) :: alterEntries key change tail

theorem key_of_mem_alterEntries {key : String} {change : Option α → α} {entry : String × α}
    {entries : List (String × α)} (mem : entry ∈ alterEntries key change entries) :
    entry.1 = key ∨ entry ∈ entries := by
  induction entries with
  | nil => simp_all [alterEntries]
  | cons first tail ih =>
      obtain ⟨head, value⟩ := first
      grind [alterEntries]

theorem increasing_alterEntries (key : String) (change : Option α → α)
    {entries : List (String × α)}
    (increasing : entries.Pairwise fun left right => left.1 < right.1) :
    (alterEntries key change entries).Pairwise fun left right => left.1 < right.1 := by
  induction entries with
  | nil => simp [alterEntries]
  | cons first tail ih =>
      obtain ⟨head, value⟩ := first
      obtain ⟨headLess, tailIncreasing⟩ := List.pairwise_cons.1 increasing
      rw [alterEntries]
      split
      · rename_i less
        refine List.pairwise_cons.2 ⟨fun entry mem => ?_, increasing⟩
        rcases List.mem_cons.1 mem with rfl | later
        · exact less
        · exact String.lt_trans less (headLess entry later)
      · split
        · rename_i same
          subst same
          exact List.pairwise_cons.2 ⟨headLess, tailIncreasing⟩
        · rename_i notLess different
          refine List.pairwise_cons.2 ⟨fun entry mem => ?_, ih tailIncreasing⟩
          rcases key_of_mem_alterEntries mem with same | old
          · have headLe : head ≤ key := String.not_lt.1 notLess
            rw [same]
            exact Std.lt_of_le_of_ne headLe fun equal => different equal.symm
          · exact headLess entry old

instance : EmptyCollection (SortedMap α) := ⟨{}⟩

instance : Inhabited (SortedMap α) := ⟨∅⟩

def find? (map : SortedMap α) (key : String) : Option α :=
  map.entries.lookup key

def contains (map : SortedMap α) (key : String) : Bool :=
  (map.find? key).isSome

def keys (map : SortedMap α) : List String :=
  map.entries.map Prod.fst

def size (map : SortedMap α) : Nat :=
  map.entries.length

def isEmpty (map : SortedMap α) : Bool :=
  map.entries.isEmpty

/-- The map whose value at one key is what `change` makes of the present one. -/
def alter (map : SortedMap α) (key : String) (change : Option α → α) : SortedMap α where
  entries := alterEntries key change map.entries
  increasing := increasing_alterEntries key change map.increasing

/-- The map with a value put at a key, in place of any earlier one. -/
def insert (map : SortedMap α) (key : String) (value : α) : SortedMap α :=
  map.alter key fun _ => value

/-- The map of a list of pairs; of several values for a key the last is kept. -/
def ofList (pairs : List (String × α)) : SortedMap α :=
  pairs.foldl (fun map pair => map.insert pair.1 pair.2) ∅

theorem lookup_alterEntries (key name : String) (change : Option α → α)
    {entries : List (String × α)}
    (increasing : entries.Pairwise fun left right => left.1 < right.1) :
    (alterEntries key change entries).lookup name =
      if name = key then some (change (entries.lookup key)) else entries.lookup name := by
  induction entries with
  | nil => grind [alterEntries]
  | cons first tail ih =>
      obtain ⟨head, value⟩ := first
      obtain ⟨headLess, tailIncreasing⟩ := List.pairwise_cons.1 increasing
      have absent : key < head → (tail.lookup key) = none := by
        intro less
        refine List.lookup_eq_none_iff.2 fun entry mem => ?_
        have := String.lt_trans less (headLess entry mem)
        simp only [bne_iff_ne, ne_eq]
        rintro rfl
        exact String.lt_irrefl _ this
      have ihTail := ih tailIncreasing
      have irrefl : ¬ head < head := String.lt_irrefl head
      simp only [alterEntries]
      grind

/-- Altering one key leaves every other look-up alone. -/
@[simp]
theorem find?_alter (map : SortedMap α) (key name : String) (change : Option α → α) :
    (map.alter key change).find? name =
      if name = key then some (change (map.find? key)) else map.find? name :=
  lookup_alterEntries key name change map.increasing

@[simp]
theorem find?_insert (map : SortedMap α) (key name : String) (value : α) :
    (map.insert key value).find? name = if name = key then some value else map.find? name :=
  find?_alter map key name fun _ => value

@[simp]
theorem find?_empty (name : String) : (∅ : SortedMap α).find? name = none :=
  rfl

end SortedMap

end ParamRules
