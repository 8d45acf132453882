import ParamRules.Proofs.Attempt
import ParamRules.Run

/-!
# Runs over lists

A list of runs made in order stops at the first failure. `mapM_eq_ok_iff` says when every run of the
list succeeds and `mapM_eq_error_iff` names the run that fails. A loop that carries a state along
makes the same runs as the plain list, and `foldlM_eq_mapM` separates the two.
-/

namespace ParamRules.Run

universe u v

variable {α β : Type u}

@[simp]
theorem result_fail (failure : Failure) : (fail failure : Run α).result = .error failure :=
  rfl

@[simp]
theorem result_log (event : Event) : (log event).result = .ok ⟨⟩ :=
  rfl

@[simp]
theorem result_map (change : α → β) (run : Run α) :
    (change <$> run).result = run.result.map change := by
  rw [map_eq_pure_bind, result_bind]
  cases run.result <;> rfl

@[simp]
theorem events_fail (failure : Failure) : (fail failure : Run α).events = [] :=
  rfl

@[simp]
theorem events_log (event : Event) : (log event).events = [event] :=
  rfl

@[simp]
theorem result_ofExcept (result : Except Failure α) : (ofExcept result).result = result :=
  rfl

@[simp]
theorem events_ofExcept (result : Except Failure α) : (ofExcept result).events = [] :=
  rfl

theorem events_bind_of_ok {run : Run α} {value : α} (succeeded : run.result = .ok value)
    (next : α → Run β) : (run >>= next).events = run.events ++ (next value).events := by
  rw [events_bind, succeeded]
  rfl

theorem events_bind_of_error {run : Run α} {failure : Failure}
    (failed : run.result = .error failure) (next : α → Run β) :
    (run >>= next).events = run.events := by
  rw [events_bind, failed]
  exact List.append_nil run.events

theorem events_log_bind (event : Event) (next : PUnit → Run α) :
    (log event >>= next).events = event :: (next ⟨⟩).events :=
  events_bind_of_ok rfl next

@[simp]
theorem events_map (change : α → β) (run : Run α) : (change <$> run).events = run.events := by
  rw [map_eq_pure_bind]
  cases ended : run.result with
  | error failure => exact events_bind_of_error ended _
  | ok value => rw [events_bind_of_ok ended, events_pure, List.append_nil]

@[simp]
theorem ok_bind {ε : Type v} {γ δ : Type u} (value : γ) (next : γ → Except ε δ) :
    (Except.ok value).bind next = next value :=
  rfl

@[simp]
theorem error_bind {ε : Type v} {γ δ : Type u} (failure : ε) (next : γ → Except ε δ) :
    (Except.error failure).bind next = .error failure :=
  rfl

@[simp]
theorem map_eq_ok_iff {ε : Type v} {γ δ : Type u} {result : Except ε γ} {change : γ → δ}
    {value : δ} :
    result.map change = .ok value ↔ ∃ middle, result = .ok middle ∧ change middle = value := by
  cases result with
  | error failure => simp [Except.map]
  | ok middle => simp [Except.map]

@[simp]
theorem map_eq_error_iff {ε : Type v} {γ δ : Type u} {result : Except ε γ} {change : γ → δ}
    {failure : ε} :
    result.map change = .error failure ↔ result = .error failure := by
  cases result with
  | error first => simp [Except.map]
  | ok middle => simp [Except.map]

theorem bind_eq_ok_iff {run : Run α} {next : α → Run β} {value : β} :
    (run >>= next).result = .ok value ↔
      ∃ middle, run.result = .ok middle ∧ (next middle).result = .ok value := by
  rw [result_bind]
  exact Attempt.bind_eq_ok_iff

theorem bind_eq_error_iff {run : Run α} {next : α → Run β} {failure : Failure} :
    (run >>= next).result = .error failure ↔
      run.result = .error failure ∨
        ∃ middle, run.result = .ok middle ∧ (next middle).result = .error failure := by
  rw [result_bind]
  exact Attempt.bind_eq_error_iff

theorem ok_or_error (run : Run α) :
    (∃ value, run.result = .ok value) ∨ ∃ failure, run.result = .error failure := by
  cases run.result with
  | error failure => exact Or.inr ⟨failure, rfl⟩
  | ok value => exact Or.inl ⟨value, rfl⟩

variable {ι : Type u} {items : List ι} {make : ι → Run α}

theorem result_mapM (make : ι → Run α) (items : List ι) :
    (items.mapM make).result = items.mapM fun item => (make item).result := by
  induction items with
  | nil => rfl
  | cons item rest ih =>
      rw [List.mapM_cons, List.mapM_cons, ← ih, result_bind]
      simp only [result_bind, result_pure]
      rfl

theorem mapM_eq_ok_iff {values : List α} :
    (items.mapM make).result = .ok values ↔
      List.Forall₂ (fun item value => (make item).result = .ok value) items values := by
  rw [result_mapM, Attempt.mapM_eq_ok_iff]

/-- A list of runs fails with the failure of the first run that fails. -/
theorem mapM_eq_error_iff {failure : Failure} :
    (items.mapM make).result = .error failure ↔
      ∃ before item after, items = before ++ item :: after ∧
        (∀ earlier ∈ before, ∃ value, (make earlier).result = .ok value) ∧
        (make item).result = .error failure := by
  rw [result_mapM, Attempt.mapM_eq_error_iff]

/-- A list of runs that all succeed logs what each of them logs, in order. -/
theorem events_mapM_of_ok (succeed : ∀ item ∈ items, ∃ value, (make item).result = .ok value) :
    (items.mapM make).events = items.flatMap fun item => (make item).events := by
  induction items with
  | nil => simp
  | cons head rest ih =>
      rcases succeed head (by simp) with ⟨value, headOk⟩
      have restEvents := ih fun item mem => succeed item (by simp [mem])
      rw [List.mapM_cons, events_bind_of_ok headOk, bind_pure_comp, events_map, restEvents,
        List.flatMap_cons]

/-- A list of runs logs nothing after the run that fails. -/
theorem events_mapM_of_error {before after : List ι} {item : ι} {failure : Failure}
    (succeed : ∀ earlier ∈ before, ∃ value, (make earlier).result = .ok value)
    (fails : (make item).result = .error failure) :
    ((before ++ item :: after).mapM make).events =
      (before.flatMap fun earlier => (make earlier).events) ++ (make item).events := by
  induction before with
  | nil =>
      rw [List.nil_append, List.mapM_cons, events_bind_of_error fails, List.flatMap_nil,
        List.nil_append]
  | cons head rest ih =>
      rcases succeed head (by simp) with ⟨value, headOk⟩
      have restEvents := ih fun earlier mem => succeed earlier (by simp [mem])
      rw [List.cons_append, List.mapM_cons, events_bind_of_ok headOk, bind_pure_comp, events_map,
        restEvents, List.flatMap_cons, List.append_assoc]

/-- A loop whose steps make a run and then only put its value into a state makes the runs of the
whole list and puts their values into the state at the end. -/
theorem foldlM_eq_mapM {σ : Type u} (add : σ → α → σ) (start : σ) :
    items.foldlM (fun state item => make item >>= fun value => pure (add state value)) start =
      items.mapM make >>= fun values => pure (values.foldl add start) := by
  induction items generalizing start with
  | nil => simp
  | cons item rest ih =>
      simp only [List.foldlM_cons, List.mapM_cons, bind_assoc, pure_bind, ih, List.foldl_cons]

end ParamRules.Run
