import ParamRules.Proofs.Occurrence
import ParamRules.SortedMap

/-!
# Sorted maps and their look-ups

The entries of a sorted map are exactly what its look-ups give (`mem_entries_iff`), so maps with the
same look-ups are equal (`ext_find?`). Of a list of pairs the last value for each key is kept
(`find?_ofList`); when the keys differ the order of the pairs does not matter (`ofList_of_perm`).
The union of two maps is collected from the entries of both.
-/

namespace ParamRules.SortedMap

universe u

variable {α : Type u}

theorem pairwise_mergeSort {κ : Type} [LE κ] [DecidableLE κ] [Std.IsLinearPreorder κ]
    (keys : List κ) :
    (keys.mergeSort fun left right => decide (left ≤ right)).Pairwise (· ≤ ·) := by
  have sorted : (keys.mergeSort fun left right => decide (left ≤ right)).Pairwise
      fun left right => decide (left ≤ right) = true := by
    apply List.pairwise_mergeSort
    · intro first second third
      simpa using Std.le_trans
    · intro left right
      simpa using Std.le_total
  simpa using sorted

/-- Sorting puts distinct keys into strictly increasing order. -/
theorem increasing_mergeSort {keys : List String} (distinct : keys.Nodup) :
    (keys.mergeSort fun left right => decide (left ≤ right)).Pairwise (· < ·) := by
  have permuted := List.mergeSort_perm keys fun left right => decide (left ≤ right)
  refine (pairwise_mergeSort keys).imp₂ ?_ (permuted.nodup_iff.2 distinct)
  intro left right ordered different
  exact Std.lt_of_le_of_ne ordered different

theorem nodup_keys (map : SortedMap α) : (map.entries.map Prod.fst).Nodup := by
  rw [List.Nodup, List.pairwise_map]
  refine map.increasing.imp fun {left right} less same => ?_
  rw [same] at less
  exact String.lt_irrefl _ less

theorem nodup_entries (map : SortedMap α) : map.entries.Nodup :=
  List.Nodup.of_map Prod.fst map.nodup_keys

theorem mem_entries_iff {map : SortedMap α} {key : String} {value : α} :
    (key, value) ∈ map.entries ↔ map.find? key = some value :=
  (Occurrence.lookup_eq_some_iff_mem map.nodup_keys).symm

theorem mem_keys_iff {map : SortedMap α} {key : String} :
    key ∈ map.keys ↔ ∃ value, map.find? key = some value := by
  simp [keys, mem_entries_iff]

/-- The entries that stand before one of a map are those with a lesser key. -/
theorem mem_before_iff {map : SortedMap α} {before after : List (String × α)}
    {entry other : String × α} (shape : map.entries = before ++ other :: after) :
    entry ∈ before ↔ entry ∈ map.entries ∧ entry.1 < other.1 := by
  have increasing := map.increasing
  rw [shape, List.pairwise_append, List.pairwise_cons] at increasing
  rcases increasing with ⟨_, ⟨greater, _⟩, less⟩
  rw [shape]
  constructor
  · intro mem
    exact ⟨by simp [mem], less entry mem other (by simp)⟩
  · rintro ⟨mem, entryLess⟩
    rcases List.mem_append.1 mem with beforeMem | rest
    · exact beforeMem
    · rcases List.mem_cons.1 rest with rfl | afterMem
      · exact absurd entryLess (String.lt_irrefl _)
      · exact absurd (String.lt_trans entryLess (greater entry afterMem)) (String.lt_irrefl _)

theorem ext_find? {left right : SortedMap α} (agree : ∀ key, left.find? key = right.find? key) :
    left = right := by
  have sameMembers : ∀ entry, entry ∈ left.entries ↔ entry ∈ right.entries := by
    rintro ⟨key, value⟩
    rw [mem_entries_iff, mem_entries_iff, agree]
  have permuted : left.entries.Perm right.entries :=
    (List.perm_ext_iff_of_nodup left.nodup_entries right.nodup_entries).2 sameMembers
  ext1
  exact permuted.eq_of_pairwise
    (fun _ _ _ _ less greater => absurd (String.lt_trans less greater) (String.lt_irrefl _))
    left.increasing right.increasing

theorem find?_foldl_insert (pairs : List (String × α)) (map : SortedMap α) (key : String) :
    (pairs.foldl (fun map pair => map.insert pair.1 pair.2) map).find? key =
      (pairs.reverse.lookup key).or (map.find? key) := by
  induction pairs generalizing map with
  | nil => simp
  | cons pair rest ih =>
      rcases pair with ⟨head, value⟩
      rw [List.foldl_cons, ih, List.reverse_cons, List.lookup_append, Option.or_assoc]
      congr 1
      by_cases same : key = head
      · simp [same]
      · simp [Occurrence.lookup_cons_eq_ite, same]

theorem find?_ofList (pairs : List (String × α)) (key : String) :
    (ofList pairs).find? key = pairs.reverse.lookup key := by
  rw [ofList, find?_foldl_insert, find?_empty, Option.or_none]

/-- The entries of a map, in any order, make up the map. -/
theorem ofList_of_perm {map : SortedMap α} {pairs : List (String × α)}
    (permuted : pairs.Perm map.entries) : ofList pairs = map := by
  refine ext_find? fun key => ?_
  have reversed : pairs.reverse.Perm map.entries := (List.reverse_perm pairs).trans permuted
  have distinct : (pairs.reverse.map Prod.fst).Nodup :=
    (reversed.map Prod.fst).nodup_iff.2 map.nodup_keys
  rw [find?_ofList]
  refine Option.ext fun value => ?_
  rw [Occurrence.lookup_eq_some_iff_mem distinct, reversed.mem_iff, mem_entries_iff]

theorem lookup_reverse_entries (map : SortedMap α) (key : String) :
    map.entries.reverse.lookup key = map.find? key := by
  rw [← find?_ofList, ofList_of_perm (.refl _)]

/-- Going through all entries and keeping those of one key finds the value of the key. -/
theorem flatMap_entries_eq {β : Type u} (map : SortedMap (List β)) (key : String) :
    (map.entries.flatMap fun entry => if entry.1 = key then entry.2 else []) =
      (map.find? key).getD [] := by
  have distinct := map.nodup_keys
  rw [find?]
  generalize map.entries = entries at distinct ⊢
  induction entries with
  | nil => rfl
  | cons head tail ih =>
      rw [List.map_cons, List.nodup_cons] at distinct
      rw [List.flatMap_cons, ih distinct.2, Occurrence.lookup_cons_eq_ite head.1 head.2]
      by_cases same : key = head.1
      · have absent : tail.lookup key = none := by
          rw [List.lookup_eq_none_iff]
          intro entry mem
          rw [same, bne_iff_ne]
          exact fun found => distinct.1 (List.mem_map.2 ⟨entry, mem, found.symm⟩)
        simp [same, same ▸ absent]
      · simp [same, Ne.symm same]

/-- The entries of two maps; where both have a value for a key, that of the second. -/
def union (left right : SortedMap α) : SortedMap α :=
  ofList (left.entries ++ right.entries)

instance : Union (SortedMap α) := ⟨union⟩

theorem find?_union (left right : SortedMap α) (key : String) :
    (left ∪ right).find? key = (right.find? key).or (left.find? key) := by
  change (ofList (left.entries ++ right.entries)).find? key = _
  rw [find?_ofList, List.reverse_append, List.lookup_append, lookup_reverse_entries,
    lookup_reverse_entries]

end ParamRules.SortedMap
