import Mathlib
import ParamRules.CommandLine.Report
import ParamRules.Proofs.Json.Writing
import ParamRules.Proofs.Request.Overlay
import ParamRules.Proofs.Text.Bytes

/-!
# Overlays in JSON

The JSON text of an overlay is one object with a text for each replacement, in order of name. A
strict reader gives the object back, and collecting its members gives the overlay back, so the JSON
text of an overlay determines it (`json_loses_nothing`).
-/

namespace ParamRules.Overlay

/-- A replacement as a member of an object. -/
def asMember (pair : String × String) : String × Json.Value :=
  (pair.1, .string pair.2)

/-- The overlay of the members of an object, if all of them are texts. -/
def ofMembers? (members : List (String × Json.Value)) : Option Overlay := do
  let pairs ← members.mapM fun (name, value) => value.string?.map (name, ·)
  return ofList pairs

/-- The members of an object that say what an overlay holds. -/
structure EncodedBy (overlay : Overlay) (members : List (String × Json.Value)) : Prop where
  pairs : members = overlay.toList.map asMember
  /-- Names are in strictly increasing order of their bytes. -/
  increasing : (members.map Prod.fst).Pairwise fun left right => Text.bytes left < Text.bytes right
  distinct : (members.map Prod.fst).Nodup
  /-- Collected in any order, the members make up the overlay. -/
  collected : ∀ others : List (String × Json.Value), others.Perm members →
    ofMembers? others = some overlay

theorem ofMembers?_map_asMember (pairs : List (String × String)) :
    ofMembers? (pairs.map asMember) = some (ofList pairs) := by
  have texts : (pairs.map asMember).mapM (fun (name, value) => value.string?.map (name, ·)) =
      some pairs := by
    induction pairs with
    | nil => rfl
    | cons pair rest ih =>
        rw [List.map_cons, List.mapM_cons, ih]
        rfl
  rw [ofMembers?, texts]
  rfl

theorem ofList_of_perm {overlay : Overlay} {pairs : List (String × String)}
    (permuted : pairs.Perm overlay.toList) : ofList pairs = overlay := by
  ext1
  rw [replacements_ofList]
  exact SortedMap.ofList_of_perm permuted

theorem ofMembers?_of_perm {overlay : Overlay} {members : List (String × Json.Value)}
    (permuted : members.Perm (overlay.toList.map asMember)) :
    ofMembers? members = some overlay := by
  have comes : Relation.Comp (· = List.map asMember ·) List.Perm members overlay.toList := by
    rw [List.eq_map_comp_perm]
    exact permuted
  rcases comes with ⟨pairs, rfl, samePairs⟩
  rw [ofMembers?_map_asMember, ofList_of_perm samePairs]

theorem map_fst_map_asMember (pairs : List (String × String)) :
    (pairs.map asMember).map Prod.fst = pairs.map Prod.fst := by
  rw [List.map_map]
  rfl

theorem encodedBy_map_asMember (overlay : Overlay) :
    overlay.EncodedBy (overlay.toList.map asMember) where
  pairs := rfl
  increasing := by
    rw [map_fst_map_asMember, List.pairwise_map]
    exact overlay.replacements.increasing.imp Text.lt_iff_bytes_lt.mp
  distinct := by
    rw [map_fst_map_asMember]
    exact overlay.replacements.nodup_keys
  collected := fun _ permuted => ofMembers?_of_perm permuted

theorem wellSpelled_toJson (overlay : Overlay) : Json.WellSpelled overlay.toJson := by
  rw [toJson, Json.WellSpelled, Json.membersWellSpelled_iff]
  intro member mem
  rcases List.mem_map.1 mem with ⟨pair, _, rfl⟩
  trivial

theorem read?_write_toJson (overlay : Overlay) :
    Json.read? overlay.toJson.write = some (.object (overlay.toList.map asMember)) :=
  Json.read?_write overlay.wellSpelled_toJson

theorem write_toJson_inj {left right : Overlay} :
    left.toJson.write = right.toJson.write ↔ left = right := by
  constructor
  · intro same
    have read := left.read?_write_toJson
    rw [same, read?_write_toJson, Option.some.injEq, Json.Value.object.injEq] at read
    have collected := left.encodedBy_map_asMember.collected _ (.of_eq read)
    rw [right.encodedBy_map_asMember.collected _ (.refl _), Option.some.injEq] at collected
    exact collected.symm
  · rintro rfl
    rfl

/-- A reader that accepts exactly the texts of RFC 8259 takes the JSON text of an overlay as one
object, which holds the overlay; and different overlays have different JSON texts. -/
theorem json_loses_nothing :
    (∀ text value, Json.read? text = some value ↔ Json.IsDocument text.toList value) ∧
    (∀ overlay : Overlay, ∃ members, Json.read? overlay.toJson.write = some (.object members) ∧
      overlay.EncodedBy members) ∧
    ∀ left right : Overlay, left.toJson.write = right.toJson.write ↔ left = right := by
  refine ⟨fun _ _ => Json.read?_eq_some_iff, ?_, fun _ _ => write_toJson_inj⟩
  intro overlay
  exact ⟨_, overlay.read?_write_toJson, overlay.encodedBy_map_asMember⟩

example : (ofList [("start", "0"), ("rows", "100")]).toJson.write =
    "\x7b\"rows\":\"100\",\"start\":\"0\"\x7d" := by
  decide

example : (ofList [("q", "a\"b\\\n\x01é")]).toJson.write =
    "\x7b\"q\":\"a\\\"b\\\\\\n\\u0001é\"\x7d" := by
  decide

end ParamRules.Overlay
