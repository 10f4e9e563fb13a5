import FileGateway.Proofs.Hub.Advance

/-! Every step of a fan-out is one step of one task, and brings all of them nearer to their end.
What the tasks gave is put at the places of their hosts, whenever it came. -/
namespace FileGateway.FanOut
variable {α : Type}

namespace State

theorem step_cases {question : Question α} {state next : State α} {index : Nat}
    (stepped : state.step question index = some next) :
    ∃ task stage hub, state.tasks[index]? = some task ∧ state.lets task = true ∧
      task.stage.advance question state.now task.host state.hub = some (stage, hub) ∧
      next = { state with
        hub
        tasks := state.tasks.set index { task with stage }
        given := state.given ++ (stage.outcome?.map (index, ·)).toList } := by
  simp only [step, Option.bind_eq_bind, Option.bind_eq_some_iff] at stepped
  obtain ⟨task, present, _, free, ⟨stage, hub⟩, moved, result⟩ := stepped
  have lets : state.lets task = true := by
    by_contra kept
    rw [guard, if_neg kept] at free
    contradiction
  exact ⟨task, stage, hub, present, lets, moved, (Option.some.inj result).symm⟩

/-- Whether what the tasks gave is on record, and nothing else. -/
def Recorded (state : State α) : Prop :=
  ∀ index outcome, (index, outcome) ∈ state.given ↔
    ∃ task, state.tasks[index]? = some task ∧ task.stage = .finished outcome

theorem recorded_step {question : Question α} {state next : State α} {index : Nat}
    (recorded : state.Recorded) (stepped : state.step question index = some next) :
    next.Recorded := by
  obtain ⟨task, stage, hub, present, _, moved, rfl⟩ := step_cases stepped
  obtain ⟨bound, _⟩ := List.getElem?_eq_some_iff.mp present
  intro place outcome
  simp only [List.mem_append, recorded place outcome, Option.mem_toList,
    Option.map_eq_some_iff, Stage.outcome?_eq_some_iff]
  by_cases same : index = place
  · subst same
    have unfinished : task.stage ≠ .finished outcome := by
      intro finished
      rw [finished] at moved
      contradiction
    simp only [present, List.getElem?_set_self bound, Option.some.injEq, exists_eq_left',
      unfinished, false_or, Prod.mk.injEq, true_and, exists_eq_right]
  · simp [same]

/-- How many steps the tasks have still to take at most. -/
def rank (state : State α) : Nat := (state.tasks.map (fun task => task.stage.rank)).sum

theorem sum_map_set_lt {β : Type} {weight : β → Nat} {entries : List β} {index : Nat}
    {former later : β} (present : entries[index]? = some former)
    (lighter : weight later < weight former) :
    ((entries.set index later).map weight).sum < (entries.map weight).sum := by
  induction entries generalizing index with
  | nil => contradiction
  | cons entry rest ih =>
    cases index with
    | zero =>
      cases present
      simpa using lighter
    | succ index =>
      simpa using ih present

theorem rank_step {question : Question α} {state next : State α} {index : Nat}
    (stepped : state.step question index = some next) : next.rank < state.rank := by
  obtain ⟨task, stage, hub, present, _, moved, rfl⟩ := step_cases stepped
  exact sum_map_set_lt present (rank_advance moved)

theorem length_run {question : Question α} {state last : State α} {schedule : List Nat}
    (ran : state.run question schedule = some last) :
    schedule.length + last.rank ≤ state.rank := by
  induction schedule generalizing state with
  | nil =>
    cases ran
    exact Nat.le_of_eq (Nat.zero_add _)
  | cons index schedule ih =>
    simp only [run, Option.bind_eq_bind, Option.bind_eq_some_iff] at ran
    obtain ⟨next, stepped, ran⟩ := ran
    have rest := ih ran
    have lower := rank_step stepped
    rw [List.length_cons]
    omega

theorem rank_start (hub : Hub) (now : Nat) (hosts : List String) :
    (start (α := α) hub now hosts).rank = 7 * hosts.length := by
  simp [rank, start, Stage.rank, Function.comp_def, Nat.mul_comm]

theorem getElem?_place (values : List (Option α)) (index place : Nat) (outcome : Outcome α) :
    (State.place values (place, outcome))[index]? =
      if place = index then values[index]?.map (fun value => outcome.toOption.getD value)
      else values[index]? := by
  cases outcome with
  | error error => simp [State.place, Except.toOption]
  | ok value =>
    by_cases same : place = index
    · subst same
      rw [State.place, List.getElem?_set_self', if_pos rfl]
      rfl
    · rw [State.place, List.getElem?_set_ne same, if_neg same]

/-- A value at its place stays there. -/
theorem getElem?_foldl_place_of_placed {given : List (Nat × Outcome α)} {index : Nat}
    {outcome : Outcome α} (same : ∀ other, (index, other) ∈ given → other = outcome)
    {values : List (Option α)} (placed : values[index]? = some outcome.toOption.join) :
    (given.foldl State.place values)[index]? = some outcome.toOption.join := by
  induction given generalizing values with
  | nil => exact placed
  | cons entry given ih =>
    obtain ⟨place, other⟩ := entry
    refine ih (fun later member => same later (List.mem_cons_of_mem _ member)) ?_
    rw [getElem?_place, placed]
    split
    · rename_i here
      subst here
      rw [same other List.mem_cons_self]
      cases outcome <;> rfl
    · rfl

theorem getElem?_foldl_place {given : List (Nat × Outcome α)} {index : Nat}
    {outcome : Outcome α} (same : ∀ other, (index, other) ∈ given → other = outcome)
    (member : (index, outcome) ∈ given) {values : List (Option α)}
    (empty : values[index]? = some none) :
    (given.foldl State.place values)[index]? = some outcome.toOption.join := by
  induction given generalizing values with
  | nil => contradiction
  | cons entry given ih =>
    obtain ⟨place, other⟩ := entry
    have same' : ∀ later, (index, later) ∈ given → later = outcome :=
      fun later member => same later (List.mem_cons_of_mem _ member)
    by_cases here : place = index
    · subst here
      refine getElem?_foldl_place_of_placed same' ?_
      rw [getElem?_place, if_pos rfl, empty, same other List.mem_cons_self]
      cases outcome <;> rfl
    · refine ih same' ?_ ?_
      · refine (List.mem_cons.mp member).resolve_left ?_
        intro first
        exact here (congrArg Prod.fst first).symm
      · rw [getElem?_place, if_neg here, empty]

theorem map_host_move {question : Question α} {state next : State α} {move : Move}
    (moved : state.move question move = some next) :
    next.tasks.map Task.host = state.tasks.map Task.host := by
  cases move with
  | task index =>
    obtain ⟨task, stage, hub, present, _, _, rfl⟩ := step_cases moved
    exact map_host_set present stage
  | fault index reply fault =>
    simp only [State.move, Option.bind_eq_bind, Option.bind_eq_some_iff] at moved
    obtain ⟨task, present, ⟨stage, hub⟩, _, result⟩ := moved
    cases result
    exact map_host_set present stage
  | gateways _ | arrival _ _ | advance _ =>
    cases moved
    rfl

theorem map_host_play {question : Question α} {state last : State α} {moves : List Move}
    (played : state.play question moves = some last) :
    last.tasks.map Task.host = state.tasks.map Task.host := by
  refine play_induction (motive := fun reached =>
    reached.tasks.map Task.host = state.tasks.map Task.host) ?_ rfl played
  exact fun kept moved => (map_host_move moved).trans kept

theorem length_foldl_place (given : List (Nat × Outcome α)) (values : List (Option α)) :
    (given.foldl place values).length = values.length := by
  induction given generalizing values with
  | nil => rfl
  | cons entry given ih =>
    obtain ⟨index, outcome⟩ := entry
    refine (ih _).trans ?_
    cases outcome with
    | ok value => exact List.length_set
    | error error => rfl

/-- There is one answer for each task, under its host. -/
theorem map_host_answers (state : State α) :
    state.answers.map HostAnswer.host = state.tasks.map Task.host := by
  refine List.ext_getElem? ?_
  intro index
  rw [answers, List.getElem?_map, List.getElem?_zipWith, List.getElem?_map]
  cases present : state.tasks[index]? with
  | none => rfl
  | some task =>
    obtain ⟨bound, _⟩ := List.getElem?_eq_some_iff.mp present
    have placed : index < (state.given.foldl place
        (List.replicate state.tasks.length none)).length := by
      rwa [length_foldl_place, List.length_replicate]
    rw [List.getElem?_eq_getElem placed]
    rfl

end State

end FileGateway.FanOut
