import Mathlib

/-!
# First and last occurrences

A list without its later repetitions keeps each element where it stands first, and a look-up in the
reversed list finds the pair that stands last. Both orders meet in this library: what comes first
keeps its place and what comes last keeps its value.
-/

namespace ParamRules.Occurrence

universe u v w

variable {α : Type u} [BEq α] [LawfulBEq α]

theorem eraseDups_of_nodup {items : List α} (distinct : items.Nodup) : items.eraseDups = items := by
  induction items with
  | nil => simp
  | cons head tail ih =>
      rcases List.nodup_cons.1 distinct with ⟨fresh, tailDistinct⟩
      have unchanged : tail.filter (fun item => !item == head) = tail := by
        rw [List.filter_eq_self]
        intro item mem
        simp only [Bool.not_eq_eq_eq_not, Bool.not_true, beq_eq_false_iff_ne, ne_eq]
        rintro rfl
        exact fresh mem
      rw [List.eraseDups_cons, unchanged, ih tailDistinct]

theorem eraseDups_append_of_nodup {front back : List α} (frontDistinct : front.Nodup)
    (backDistinct : back.Nodup) :
    (front ++ back).eraseDups = front ++ back.filter fun item => !front.contains item := by
  rw [List.eraseDups_append, eraseDups_of_nodup frontDistinct]
  congr 1
  exact eraseDups_of_nodup (backDistinct.filter _)

theorem eraseDups_append_cons_of_mem {before after : List α} {item : α} (mem : item ∈ before) :
    (before ++ item :: after).eraseDups = (before ++ after).eraseDups := by
  rw [List.eraseDups_append, List.eraseDups_append]
  simp [List.removeAll, mem]

theorem eraseDups_map_of_injective {β : Type v} [BEq β] [LawfulBEq β] {rename : α → β}
    (injective : Function.Injective rename) (items : List α) :
    (items.map rename).eraseDups = items.eraseDups.map rename := by
  match items with
  | [] => simp
  | head :: tail =>
      have sameFilter : (tail.map rename).filter (fun item => !item == rename head) =
          (tail.filter fun item => !item == head).map rename := by
        rw [List.filter_map]
        congr 1
        refine List.filter_congr fun item _ => ?_
        rw [Bool.eq_iff_iff]
        simp [injective.eq_iff]
      rw [List.map_cons, List.eraseDups_cons, List.eraseDups_cons, List.map_cons, sameFilter,
        eraseDups_map_of_injective injective (tail.filter fun item => !item == head)]
termination_by items.length
decreasing_by exact Nat.lt_succ_of_le (List.length_filter_le _ _)

/-- Without later repetitions, elements stand in the order in which they first occur. -/
theorem pairwise_idxOf_eraseDups (items : List α) :
    items.eraseDups.Pairwise fun earlier later => items.idxOf earlier < items.idxOf later := by
  induction items using List.reverseRecOn with
  | nil => simp
  | append_singleton front item ih =>
      have within : ∀ other ∈ front.eraseDups, (front ++ [item]).idxOf other = front.idxOf other :=
        fun other mem => List.idxOf_append_of_mem (List.mem_eraseDups.1 mem)
      have frontOrdered : front.eraseDups.Pairwise fun earlier later =>
          (front ++ [item]).idxOf earlier < (front ++ [item]).idxOf later := by
        refine ih.imp_of_mem fun {earlier later} earlierMem laterMem less => ?_
        rwa [within earlier earlierMem, within later laterMem]
      by_cases mem : item ∈ front
      · have unchanged : (front ++ [item]).eraseDups = front.eraseDups := by
          rw [eraseDups_append_cons_of_mem mem, List.append_nil]
        rw [unchanged]
        exact frontOrdered
      · have added : (front ++ [item]).eraseDups = front.eraseDups ++ [item] := by
          simp [List.eraseDups_append, List.removeAll, mem, List.eraseDups_cons]
        have last : (front ++ [item]).idxOf item = front.length := by
          simp [List.idxOf_append, mem]
        rw [added]
        refine List.pairwise_append.2 ⟨frontOrdered, List.pairwise_singleton _ _, ?_⟩
        intro earlier earlierMem later laterMem
        rw [List.mem_singleton.1 laterMem, last, within earlier earlierMem]
        exact List.idxOf_lt_length_of_mem (List.mem_eraseDups.1 earlierMem)

/-- The elements that stand before an element occurs for the first time. -/
def before (item : α) (items : List α) : List α :=
  items.takeWhile (· != item)

theorem before_append_cons {front : List α} {item : α} (fresh : item ∉ front) (back : List α) :
    before item (front ++ item :: back) = front := by
  have different : ∀ other ∈ front, (other != item) = true := by
    intro other mem
    rw [bne_iff_ne]
    rintro rfl
    exact fresh mem
  rw [before, List.takeWhile_append_of_pos different]
  simp

theorem not_mem_before (item : α) (items : List α) : item ∉ before item items := by
  intro mem
  simpa using List.mem_takeWhile_imp mem

theorem exists_eq_before_append {items : List α} {item : α} (mem : item ∈ items) :
    ∃ back, items = before item items ++ item :: back := by
  rcases List.eq_append_cons_of_mem mem with ⟨front, back, rfl, fresh⟩
  exact ⟨back, by rw [before_append_cons fresh]⟩

theorem filter_before {select : α → Bool} {item : α} (selected : select item = true)
    (items : List α) : (before item items).filter select = before item (items.filter select) := by
  simp only [before]
  induction items with
  | nil => rfl
  | cons head tail ih =>
      by_cases same : head = item
      · simp [same, selected]
      · by_cases kept : select head = true
        · simp [same, kept, ih]
        · simp [same, kept, ih]

/-- Of two elements of a list one occurs before the other. -/
theorem mem_before_iff_not_mem_before {items : List α} {left right : α} (leftMem : left ∈ items)
    (rightMem : right ∈ items) (different : left ≠ right) :
    left ∈ before right items ↔ right ∉ before left items := by
  simp only [before]
  induction items with
  | nil => cases leftMem
  | cons head tail ih =>
      by_cases isLeft : head = left
      · simp [isLeft, different]
      by_cases isRight : head = right
      · simp [isRight, different.symm]
      have leftLater : left ∈ tail := (List.mem_cons.1 leftMem).resolve_left (Ne.symm isLeft)
      have rightLater : right ∈ tail := (List.mem_cons.1 rightMem).resolve_left (Ne.symm isRight)
      simp [isLeft, isRight, Ne.symm isLeft, Ne.symm isRight, ih leftLater rightLater]

variable {β : Type v} {pairs : List (α × β)} {key : α} {value : β}

theorem lookup_cons_eq_ite [DecidableEq α] (head : α) (first : β) :
    ((head, first) :: pairs).lookup key = if key = head then some first else pairs.lookup key := by
  rw [List.lookup_cons]
  by_cases same : key = head
  · simp [same]
  · simp [same, beq_eq_false_iff_ne.2 same]

theorem lookup_map_of_injective {γ : Type w} [BEq γ] [LawfulBEq γ] {rename : α → γ}
    (injective : Function.Injective rename) (pairs : List (α × β)) (key : α) :
    (pairs.map fun pair => (rename pair.1, pair.2)).lookup (rename key) = pairs.lookup key := by
  induction pairs with
  | nil => simp
  | cons head rest ih =>
      rw [List.map_cons, List.lookup_cons, List.lookup_cons, ih]
      by_cases same : key = head.1
      · simp [same]
      · simp [beq_eq_false_iff_ne.2 same, beq_eq_false_iff_ne.2 (injective.ne same)]

/-- Where no key occurs twice, looking a key up finds exactly the pair that holds it. -/
theorem lookup_eq_some_iff_mem (distinct : (pairs.map Prod.fst).Nodup) :
    pairs.lookup key = some value ↔ (key, value) ∈ pairs := by
  rw [List.lookup_eq_some_iff]
  constructor
  · rintro ⟨before, after, rfl, _⟩
    simp
  · intro mem
    rcases List.append_of_mem mem with ⟨before, after, rfl⟩
    refine ⟨before, after, rfl, fun earlier earlierMem => ?_⟩
    rw [List.map_append, List.nodup_append] at distinct
    have different := distinct.2.2 earlier.1 (List.mem_map_of_mem earlierMem) key (by simp)
    simpa using different.symm

/-- The look-up in the reversed list finds the last pair with the key. -/
theorem lookup_reverse_eq_some_iff :
    pairs.reverse.lookup key = some value ↔
      ∃ before after, pairs = before ++ (key, value) :: after ∧ ∀ later ∈ after, later.1 ≠ key := by
  rw [List.lookup_eq_some_iff]
  constructor
  · rintro ⟨after, before, shape, fresh⟩
    refine ⟨before.reverse, after.reverse, by simpa using congrArg List.reverse shape, ?_⟩
    intro later mem same
    simpa [same] using fresh later (by simpa using mem)
  · rintro ⟨before, after, rfl, fresh⟩
    refine ⟨after.reverse, before.reverse, by simp, ?_⟩
    intro later mem
    simpa using (fresh later (by simpa using mem)).symm

/-- Where no key occurs twice, a search for a key finds exactly the element that has it. -/
theorem find?_eq_some_iff_of_nodup {keyOf : β → α} {items : List β} {item : β}
    (distinct : (items.map keyOf).Nodup) :
    items.find? (fun other => keyOf other == key) = some item ↔
      item ∈ items ∧ keyOf item = key := by
  constructor
  · intro found
    have same := List.find?_some found
    exact ⟨List.mem_of_find?_eq_some found, beq_iff_eq.1 same⟩
  · rintro ⟨mem, rfl⟩
    cases found : items.find? fun other => keyOf other == keyOf item with
    | none => exact absurd (beq_self_eq_true _) (List.find?_eq_none.1 found item mem)
    | some other =>
        have same := List.find?_some found
        have otherMem := List.mem_of_find?_eq_some found
        rw [List.inj_on_of_nodup_map distinct otherMem mem (beq_iff_eq.1 same)]

/-- An element among others has a partner at its place in a list that corresponds. -/
theorem forall₂_append_cons_left {γ : Type w} {related : β → γ → Prop} {before after : List β}
    {item : β} {partners : List γ}
    (correspond : List.Forall₂ related (before ++ item :: after) partners) :
    ∃ before' partner after', partners = before' ++ partner :: after' ∧
      List.Forall₂ related before before' ∧ related item partner ∧
      List.Forall₂ related after after' := by
  induction before generalizing partners with
  | nil =>
      rcases List.forall₂_cons_left_iff.1 correspond with ⟨partner, after', here, rest, rfl⟩
      exact ⟨[], partner, after', rfl, .nil, here, rest⟩
  | cons head before ih =>
      rcases List.forall₂_cons_left_iff.1 correspond with ⟨first, others, here, rest, rfl⟩
      rcases ih rest with ⟨before', partner, after', rfl, firsts, pair, lasts⟩
      exact ⟨first :: before', partner, after', rfl, .cons here firsts, pair, lasts⟩

end ParamRules.Occurrence
