import ParamRules.Event
import ParamRules.Failure

/-!
# Runs

A run is a computation that logs events and ends in a value or in a failure. It is data: the result
and the events, which are kept also when the run fails. A run that follows another starts only if
that one succeeded, and its events come after. `result_bind` and `events_bind` say so; with them
the two halves of a run can be reasoned about apart.
-/

namespace ParamRules

universe u

/-- A value or a failure, with the events logged on the way to it. -/
@[ext]
structure Run (α : Type u) where
  result : Except Failure α
  /-- What it logged, first event first. -/
  events : List Event := []

namespace Run

variable {α β : Type u}

/-- One run and then, if it succeeded, the run that its value leads to. -/
def andThen (run : Run α) (next : α → Run β) : Run β :=
  match run.result with
  | .error failure => ⟨.error failure, run.events⟩
  | .ok value => ⟨(next value).result, run.events ++ (next value).events⟩

instance : Monad Run where
  pure value := ⟨.ok value, []⟩
  bind := andThen

instance : LawfulMonad Run := by
  refine LawfulMonad.mk' Run ?_ ?_ ?_
  · intro α run
    change run.andThen _ = run
    obtain ⟨result, events⟩ := run
    cases result <;> simp [andThen]
  · intro α β value next
    change andThen ⟨.ok value, []⟩ next = next value
    simp [andThen]
  · intro α β γ run next later
    change (run.andThen next).andThen later = run.andThen fun value => (next value).andThen later
    obtain ⟨result, events⟩ := run
    cases result with
    | error failure => simp [andThen]
    | ok value =>
        simp only [andThen]
        cases (next value).result <;> simp

def log (event : Event) : Run PUnit :=
  ⟨.ok ⟨⟩, [event]⟩

def fail (failure : Failure) : Run α :=
  ⟨.error failure, []⟩

/-- The run of a result, which logs nothing. -/
def ofExcept (result : Except Failure α) : Run α :=
  ⟨result, []⟩

@[simp]
theorem result_pure (value : α) : (pure value : Run α).result = .ok value :=
  rfl

@[simp]
theorem events_pure (value : α) : (pure value : Run α).events = [] :=
  rfl

@[simp]
theorem result_bind (run : Run α) (next : α → Run β) :
    (run >>= next).result = run.result.bind fun value => (next value).result := by
  change (run.andThen next).result = _
  unfold andThen Except.bind
  split <;> simp_all

@[simp]
theorem events_bind (run : Run α) (next : α → Run β) :
    (run >>= next).events =
      run.events ++ (run.result.toOption.elim [] fun value => (next value).events) := by
  change (run.andThen next).events = _
  unfold andThen
  split <;> simp_all [Except.toOption]

end Run

end ParamRules
