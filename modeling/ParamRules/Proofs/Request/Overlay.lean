import ParamRules.Proofs.SortedMap
import ParamRules.Request.Overlay

/-!
# Overlays and their look-ups

An overlay is a sorted map of replacements: its look-ups determine it, and pairs that are sorted by
name are its entries as they stand.
-/

namespace ParamRules.Overlay

theorem mem_toList_iff {overlay : Overlay} {name value : String} :
    (name, value) ∈ overlay.toList ↔ overlay.find? name = some value :=
  SortedMap.mem_entries_iff

theorem ext_find? {left right : Overlay} (agree : ∀ name, left.find? name = right.find? name) :
    left = right := by
  ext1
  exact SortedMap.ext_find? agree

theorem replacements_foldl_insert (pairs : List (String × String)) (overlay : Overlay) :
    (pairs.foldl (fun overlay pair => overlay.insert pair.1 pair.2) overlay).replacements =
      pairs.foldl (fun map pair => map.insert pair.1 pair.2) overlay.replacements := by
  induction pairs generalizing overlay with
  | nil => rfl
  | cons pair rest ih => rw [List.foldl_cons, ih, List.foldl_cons, insert]

theorem replacements_ofList (pairs : List (String × String)) :
    (ofList pairs).replacements = SortedMap.ofList pairs :=
  replacements_foldl_insert pairs ∅

theorem toList_ofList {pairs : List (String × String)}
    (increasing : pairs.Pairwise fun left right => left.1 < right.1) :
    (ofList pairs).toList = pairs := by
  let map : SortedMap String := ⟨pairs, increasing⟩
  have made : SortedMap.ofList pairs = map := SortedMap.ofList_of_perm (.refl _)
  rw [toList, replacements_ofList, made]

/-- The replacements of two overlays; where both have one, that of the second. -/
def union (left right : Overlay) : Overlay where
  replacements := left.replacements ∪ right.replacements

instance : Union Overlay := ⟨union⟩

theorem find?_union (left right : Overlay) (name : String) :
    (left ∪ right).find? name = (right.find? name).or (left.find? name) :=
  SortedMap.find?_union left.replacements right.replacements name

end ParamRules.Overlay
