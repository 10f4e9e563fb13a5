/-! A run folds a step over its events. What its last state holds and its first did not was brought
by one of the events, and no later event took it away. -/
namespace FileGateway
variable {σ ε : Type}

/-- Whether a condition holds of each event of a run, in the state that the event meets. -/
def Throughout (step : σ → ε → σ) (holds : σ → ε → Prop) (state : σ) : List ε → Prop
  | [] => True
  | event :: rest => holds state event ∧ Throughout step holds (step state event) rest

theorem throughout_iff_forall (step : σ → ε → σ) (holds : ε → Prop) (state : σ)
    (events : List ε) :
    Throughout step (fun _ event => holds event) state events ↔ ∀ event ∈ events, holds event := by
  induction events generalizing state with
  | nil => simp [Throughout]
  | cons event rest ih => rw [Throughout, ih, List.forall_mem_cons]

/-- Some event of a run brings a thing, in the state that it meets, and no later event takes it. -/
def Originates (step : σ → ε → σ) (brings takes : σ → ε → Prop) (initial : σ)
    (events : List ε) : Prop :=
  ∃ before event after, events = before ++ event :: after ∧
    brings (before.foldl step initial) event ∧
    Throughout step (fun state event => ¬ takes state event)
      (step (before.foldl step initial) event) after

variable {step : σ → ε → σ} {brings takes : σ → ε → Prop}

/-- What a sound run ends with was there at its beginning and stayed, or has its origin in the
run. Soundness is what the step needs to know of a state. -/
theorem kept_or_originates (sound held : σ → Prop)
    (keeps : ∀ state event, sound state → sound (step state event))
    (stepwise : ∀ state event, sound state → held (step state event) →
      held state ∧ ¬ takes state event ∨ brings state event)
    {initial : σ} (start : sound initial) (events : List ε)
    (last : held (events.foldl step initial)) :
    held initial ∧ Throughout step (fun state event => ¬ takes state event) initial events ∨
      Originates step brings takes initial events := by
  induction events generalizing initial with
  | nil => exact .inl ⟨last, trivial⟩
  | cons event rest ih =>
    rcases ih (keeps initial event start) last with ⟨present, untouched⟩ | origin
    · rcases stepwise initial event start present with ⟨former, stays⟩ | brought
      · exact .inl ⟨former, stays, untouched⟩
      · exact .inr ⟨[], event, rest, rfl, brought, untouched⟩
    · obtain ⟨before, source, after, rfl, brought, untouched⟩ := origin
      exact .inr ⟨event :: before, source, after, rfl, brought, untouched⟩

/-- What was not there at the beginning has its origin in the run. -/
theorem originates_of_held (sound held : σ → Prop)
    (keeps : ∀ state event, sound state → sound (step state event))
    (stepwise : ∀ state event, sound state → held (step state event) →
      held state ∧ ¬ takes state event ∨ brings state event)
    {initial : σ} (start : sound initial) (absent : ¬ held initial) {events : List ε}
    (last : held (events.foldl step initial)) : Originates step brings takes initial events :=
  (kept_or_originates sound held keeps stepwise start events last).resolve_left
    (fun present => absent present.1)

end FileGateway
