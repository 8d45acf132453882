import Mathlib

/-!
# Attempts over lists

Attempts made for the items of a list, in order, stop at the first one that fails. They all succeed
exactly when each of them does (`mapM_eq_some_iff`, `mapM_eq_ok_iff`), and otherwise the first one
that fails says why (`mapM_eq_error_iff`).
-/

namespace ParamRules.Attempt

universe u v w

variable {ι : Type w} {α : Type u} {ε : Type v} {items : List ι} {values : List α}

theorem mapM_congr {m : Type u → Type v} [Monad m] [LawfulMonad m] {make other : ι → m α}
    (same : ∀ item ∈ items, make item = other item) : items.mapM make = items.mapM other := by
  induction items with
  | nil => rfl
  | cons head rest ih =>
      have sameHead : make head = other head := same head (by simp)
      have sameRest : rest.mapM make = rest.mapM other :=
        ih fun item mem => same item (by simp [mem])
      rw [List.mapM_cons, List.mapM_cons, sameHead, sameRest]

theorem mapM_eq_some_iff {make : ι → Option α} :
    items.mapM make = some values ↔
      List.Forall₂ (fun item value => make item = some value) items values := by
  induction items generalizing values with
  | nil =>
      rw [List.mapM_nil, List.forall₂_nil_left_iff]
      simp [eq_comm]
  | cons item rest ih =>
      simp only [List.mapM_cons, Option.bind_eq_bind, Option.bind_eq_some_iff, Option.pure_def,
        Option.some.injEq, ih]
      constructor
      · rintro ⟨value, made, others, restMade, rfl⟩
        exact .cons made restMade
      · rintro (_ | ⟨made, restMade⟩)
        exact ⟨_, made, _, restMade, rfl⟩

theorem bind_eq_ok_iff {β : Type u} {result : Except ε α} {next : α → Except ε β} {value : β} :
    (result >>= next) = .ok value ↔ ∃ middle, result = .ok middle ∧ next middle = .ok value := by
  cases result with
  | error failure => simp [bind, Except.bind]
  | ok middle => simp [bind, Except.bind]

theorem bind_eq_error_iff {β : Type u} {result : Except ε α} {next : α → Except ε β} {failure : ε} :
    (result >>= next) = .error failure ↔
      result = .error failure ∨ ∃ middle, result = .ok middle ∧ next middle = .error failure := by
  cases result with
  | error first => simp [bind, Except.bind]
  | ok middle => simp [bind, Except.bind]

theorem mapM_eq_ok_iff {make : ι → Except ε α} :
    items.mapM make = .ok values ↔
      List.Forall₂ (fun item value => make item = .ok value) items values := by
  induction items generalizing values with
  | nil =>
      rw [List.mapM_nil, List.forall₂_nil_left_iff]
      simp [pure, Except.pure, eq_comm]
  | cons item rest ih =>
      simp only [List.mapM_cons, bind_eq_ok_iff, ih]
      constructor
      · rintro ⟨value, made, others, restMade, ⟨⟩⟩
        exact .cons made restMade
      · rintro (_ | ⟨made, restMade⟩)
        exact ⟨_, made, _, restMade, rfl⟩

theorem mapM_eq_error_iff {make : ι → Except ε α} {failure : ε} :
    items.mapM make = .error failure ↔
      ∃ before item after, items = before ++ item :: after ∧
        (∀ earlier ∈ before, ∃ value, make earlier = .ok value) ∧ make item = .error failure := by
  induction items with
  | nil => simp [pure, Except.pure]
  | cons head rest ih =>
      simp only [List.mapM_cons, bind_eq_error_iff, pure, Except.pure, reduceCtorEq, and_false,
        exists_false, or_false, ih]
      constructor
      · rintro (headFails | ⟨value, headMade, before, item, after, rfl, beforeMade, itemFails⟩)
        · exact ⟨[], head, rest, rfl, by simp, headFails⟩
        · refine ⟨head :: before, item, after, rfl, ?_, itemFails⟩
          intro earlier earlierMem
          rcases List.mem_cons.1 earlierMem with rfl | earlierMem
          · exact ⟨value, headMade⟩
          · exact beforeMade earlier earlierMem
      · rintro ⟨before, item, after, shape, beforeMade, itemFails⟩
        rcases before with _ | ⟨first, before⟩
        · rcases List.cons.inj shape with ⟨rfl, rfl⟩
          exact Or.inl itemFails
        · rcases List.cons.inj shape with ⟨rfl, rfl⟩
          rcases beforeMade head (by simp) with ⟨value, headMade⟩
          refine Or.inr ⟨value, headMade, before, item, after, rfl, ?_, itemFails⟩
          intro earlier earlierMem
          exact beforeMade earlier (by simp [earlierMem])

end ParamRules.Attempt
