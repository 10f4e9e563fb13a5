import FileGateway.Hub.FanOut.Sending
import FileGateway.Proofs.Hub.Schedule
import FileGateway.Proofs.Network.Sending

/-! A fan-out connects to no host twice, and asks none twice: a task that has connected never comes
back to it, and a task that has asked is as good as finished. -/
namespace FileGateway.FanOut
variable {α : Type} {question : Question α} {now : Nat} {host : String} {hub hub' : Hub}
  {stage stage' : Stage α} {event : NetworkEvent}

namespace Stage

/-- The turn of the event that comes next in a task, if there is one to come. -/
def turn : Stage α → Nat
  | waiting | lookup | approach _ | recheck _ | connect _ => 0
  | query _ => 1
  | discard _ | finished _ => 2

theorem turn_of_sends? (sends : stage.sends? question hub = some event) :
    event.turn = stage.turn := by
  cases stage with
  | connect address =>
    cases sends
    rfl
  | query id =>
    obtain ⟨frame, _, rfl⟩ := Network.sends?_eq_some_iff.mp sends
    rfl
  | _ => contradiction

/-- A task goes on to another turn when it sends, and never goes back. -/
theorem turn_advance (moved : stage.advance question now host hub = some (stage', hub')) :
    stage.turn ≤ stage'.turn ∧
      ∀ event, stage.sends? question hub = some event → stage.turn < stage'.turn := by
  cases stage with
  | waiting | approach address | discard error =>
    cases moved
    simp [turn, sends?]
  | lookup =>
    simp only [advance] at moved
    split at moved
    · cases moved
      simp [turn, sends?]
    · split at moved <;> cases moved <;> simp [turn, sends?]
  | recheck address =>
    simp only [advance] at moved
    split at moved <;> cases moved <;> simp [turn, sends?]
  | connect address | query id =>
    simp only [advance] at moved
    split at moved <;> cases moved <;> simp [turn]
  | finished outcome => cases moved

theorem turn_breakOff {reply : Reply} {fault : LinkFault}
    (moved : stage.breakOff question reply fault hub = some (stage', hub')) :
    stage.turn < stage'.turn := by
  cases stage with
  | connect address =>
    cases moved
    simp [turn]
  | query id =>
    simp only [breakOff] at moved
    split at moved
    · cases moved
      simp [turn]
    · contradiction
  | _ => contradiction

end Stage

/-- Each slot was taken once, by a task that is past it. -/
structure Once (state : State α) (sent : List Sending) : Prop where
  distinct : (sent.map Sending.slot).Nodup
  past : ∀ sending ∈ sent, ∃ task, state.tasks[sending.place]? = some task ∧
    sending.event.turn < task.stage.turn

variable {state next last : State α} {sent : List Sending} {index : Nat} {task : Task α}

/-- One task moves, and perhaps it sends something. -/
theorem Once.advance (once : Once state sent) (present : state.tasks[index]? = some task)
    (onward : task.stage.turn ≤ stage.turn) {sends : Option NetworkEvent}
    (turns : ∀ event ∈ sends, event.turn = task.stage.turn ∧ event.turn < stage.turn)
    (hub : Hub) (given : List (Nat × Outcome α)) :
    Once { state with hub, tasks := state.tasks.set index { task with stage }, given }
      (sent ++ (sends.map (Sending.mk index)).toList) := by
  obtain ⟨bound, _⟩ := List.getElem?_eq_some_iff.mp present
  have moved : (state.tasks.set index { task with stage })[index]? = some { task with stage } :=
    List.getElem?_set_self bound
  have past : ∀ sending ∈ sent, ∃ other, (state.tasks.set index { task with stage })[
      sending.place]? = some other ∧ sending.event.turn < other.stage.turn := by
    intro sending former
    obtain ⟨other, there, earlier⟩ := once.past sending former
    by_cases same : index = sending.place
    · rw [same] at present
      cases present.symm.trans there
      rw [← same]
      exact ⟨_, moved, Nat.lt_of_lt_of_le earlier onward⟩
    · rw [List.getElem?_set_ne same]
      exact ⟨other, there, earlier⟩
  cases sends with
  | none =>
    rw [Option.map_none, Option.toList_none, List.append_nil]
    exact ⟨once.distinct, past⟩
  | some event =>
    obtain ⟨due, done⟩ := turns event rfl
    refine ⟨?_, ?_⟩
    · have fresh : Sending.slot ⟨index, event⟩ ∉ sent.map Sending.slot := by
        intro taken
        obtain ⟨sending, former, same⟩ := List.mem_map.mp taken
        obtain ⟨place, turn⟩ := Prod.ext_iff.mp same
        obtain ⟨other, there, earlier⟩ := once.past sending former
        simp only [Sending.slot] at place turn
        rw [place, present] at there
        cases there
        omega
      rw [List.map_append, List.nodup_append]
      refine ⟨once.distinct, List.nodup_singleton _, ?_⟩
      rintro slot former other added rfl
      rw [List.mem_singleton.mp added] at former
      exact fresh former
    · intro sending member
      rcases List.mem_append.mp member with former | added
      · exact past sending former
      · rw [List.mem_singleton.mp added]
        exact ⟨_, moved, done⟩

theorem sends?_of_present (present : state.tasks[index]? = some task) {move : Move}
    (own : move = .task index ∨ ∃ reply fault, move = .fault index reply fault) :
    state.sends? question move =
      (task.stage.sends? question state.hub).map (Sending.mk index) := by
  rcases own with rfl | ⟨reply, fault, rfl⟩ <;>
    simp [State.sends?, present, Option.map_eq_bind]

theorem once_move (once : Once state sent) {move : Move}
    (moved : state.move question move = some next) :
    Once next (sent ++ (state.sends? question move).toList) := by
  cases move with
  | task index =>
    obtain ⟨task, stage, hub, present, _, advanced, rfl⟩ := State.step_cases moved
    rw [sends?_of_present present (.inl rfl)]
    obtain ⟨onward, later⟩ := Stage.turn_advance advanced
    refine once.advance present onward ?_ ..
    intro event sends
    have due := Stage.turn_of_sends? sends
    exact ⟨due, due ▸ later event sends⟩
  | fault index reply fault =>
    simp only [State.move, Option.bind_eq_bind, Option.bind_eq_some_iff] at moved
    obtain ⟨task, present, ⟨stage, hub⟩, broken, result⟩ := moved
    cases result
    rw [sends?_of_present present (.inr ⟨reply, fault, rfl⟩)]
    have later := Stage.turn_breakOff broken
    refine once.advance present (Nat.le_of_lt later) ?_ ..
    intro event sends
    have due := Stage.turn_of_sends? sends
    exact ⟨due, due ▸ later⟩
  | gateways gateways | arrival id reply | advance duration =>
    cases moved
    rw [State.sends?, Option.toList_none, List.append_nil]
    exact ⟨once.distinct, once.past⟩

theorem once_play (once : Once state sent) {moves : List Move}
    (played : state.play question moves = some last) :
    Once last (sent ++ state.sendings question moves) := by
  induction moves generalizing state sent with
  | nil =>
    cases played
    rw [State.sendings, List.append_nil]
    exact once
  | cons move moves ih =>
    simp only [State.play, Option.bind_eq_bind, Option.bind_eq_some_iff] at played
    obtain ⟨next, moved, played⟩ := played
    simp only [State.sendings, moved, ← List.append_assoc]
    exact ih (once_move once moved) played

/-- In a fan-out no host is connected to twice, and none is asked twice. -/
theorem nodup_sendings {moves : List Move}
    (played : state.play question moves = some last) :
    ((state.sendings question moves).map Sending.slot).Nodup := by
  have unsent : Once state [] := ⟨List.nodup_nil, fun _ none => absurd none List.not_mem_nil⟩
  exact (once_play unsent played).distinct

end FileGateway.FanOut
