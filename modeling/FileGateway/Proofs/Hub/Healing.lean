import FileGateway.Proofs.Hub.Advance
import FileGateway.Proofs.Hub.Schedule

/-! A fan-out leaves no closed client under an address of its hosts. Until it ends, every such
client is one that some task has still to see to: it has not looked yet, or it has a failure to
clear away. -/
namespace FileGateway.FanOut
variable {α : Type}

namespace Stage

/-- Whether a task has still to look at the client of its address, or to forget it. -/
def attends : Stage α → Bool
  | waiting | lookup | approach _ | recheck _ => true
  | discard error => error.isFatal
  | connect _ | query _ | finished _ => false

/-- Whether a task has just emptied the place of its address. -/
def hasEmptied : Stage α → Bool
  | connect _ => true
  | finished (.error error) => error.isFatal
  | waiting | lookup | approach _ | recheck _ | query _ | discard _ | finished (.ok _) => false

end Stage

section Advances
variable {now : Nat} {address : String} {hub : Hub} {stage : Stage α} {next : Stage α × Hub}

/-- A client that is closed after a step was there and closed before it, or it is the one of the
task's address. A task that attended to it still does. -/
theorem Advances.closed (advances : Advances now address hub stage next)
    (consistent : hub.Consistent now) (tied : stage.Tied hub.network address)
    {entry : ExpiringCache.Entry String ClientId}
    (stored : entry ∈ next.2.pool.clients.entries)
    (closed : (next.2.network.client entry.value).closed = true) :
    (entry ∈ hub.pool.clients.entries ∧ (hub.network.client entry.value).closed = true ∧
        (entry.key = address → stage.attends = true → next.1.attends = true)) ∨
      (entry.key = address ∧ next.1.attends = true) := by
  cases advances with
  | begun => exact .inl ⟨stored, closed, fun _ _ => rfl⟩
  | missed absent =>
    obtain ⟨former, other⟩ := ExpiringCache.mem_erase.mp stored
    exact .inl ⟨former, closed, fun same => absurd same other⟩
  | passed => exact .inl ⟨stored, closed, fun _ _ => rfl⟩
  | missedAgain absent =>
    obtain ⟨former, other⟩ := ExpiringCache.mem_erase.mp stored
    exact .inl ⟨former, closed, fun same => absurd same other⟩
  | found looks usable =>
    refine .inl ⟨stored, closed, ?_⟩
    intro same
    obtain ⟨entry', present, rfl, _, opened⟩ := Pool.usable?_eq_some_iff.mp usable
    have owned := (ExpiringCache.find?_eq_some_iff consistent.pool.distinct).mpr ⟨stored, same⟩
    cases present.symm.trans owned
    rw [opened] at closed
    contradiction
  | refused fault same =>
    rw [Network.client_eq_of_clients_eq same] at closed
    exact .inl ⟨stored, closed, fun _ attends => absurd attends nofun⟩
  | connected routed =>
    rcases ExpiringCache.mem_of_mem_insert stored with ⟨former, other⟩ | rfl
    · have known := hub.network.client_connect_of_lt address (consistent.known entry former)
      exact .inl ⟨former, known ▸ closed, fun same => absurd same other⟩
    · have fresh := congrArg Client.closed (Network.client_connect_self routed)
      cases fresh.symm.trans closed
  | @failed id error network asked =>
    by_cases here : entry.value = id
    · subst here
      rcases asked.closed closed with former | ⟨cause, same, fatal⟩
      · exact .inl ⟨stored, former, fun _ attends => absurd attends nofun⟩
      · cases same
        exact .inr ⟨(consistent.address entry stored).symm.trans tied.2, fatal⟩
    · have former : (hub.network.client entry.value).closed = true :=
        asked.others _ here ▸ closed
      exact .inl ⟨stored, former, fun _ attends => absurd attends nofun⟩
  | @answered id value network asked =>
    refine .inl ⟨stored, ?_, fun _ attends => absurd attends nofun⟩
    by_cases here : entry.value = id
    · subst here
      exact (asked.closed closed).resolve_right nofun
    · exact asked.others _ here ▸ closed
  | forgotten fatal =>
    obtain ⟨former, other⟩ := ExpiringCache.mem_erase.mp stored
    exact .inl ⟨former, closed, fun same => absurd same other⟩
  | kept harmless =>
    refine .inl ⟨stored, closed, ?_⟩
    intro _ attends
    exact absurd attends (Bool.eq_false_iff.mp harmless)

/-- A place is empty after the step that empties it, and a task leaves it so. -/
theorem Advances.emptied (advances : Advances now address hub stage next)
    (before : stage.hasEmptied = true → hub.pool.clients.find? address = none)
    (hasEmptied : next.1.hasEmptied = true) : next.2.pool.clients.find? address = none := by
  cases advances with
  | missedAgain absent => exact ExpiringCache.find?_erase_self ..
  | refused fault same => exact before rfl
  | forgotten fatal => exact ExpiringCache.find?_erase_self ..
  | kept harmless => exact absurd hasEmptied (Bool.eq_false_iff.mp harmless)
  | _ => contradiction

end Advances

/-- The host at a place of a list is the only one of its address. -/
def Lone (settings : Settings) (hosts : List String) (index : Nat) (address : String) : Prop :=
  ∀ (other : Nat) (host : String), hosts[other]? = some host →
    settings.resolve host = .ok address → other = index

/-- What holds of a fan-out at any time. -/
structure Healing (settings : Settings) (hosts : List String) (state : State α) : Prop where
  unchanged : state.hub.pool.settings = settings
  consistent : state.hub.Consistent state.now
  listed : state.tasks.map Task.host = hosts
  tied : ∀ task ∈ state.tasks, ∀ address, settings.resolve task.host = .ok address →
    task.stage.Tied state.hub.network address
  attended : ∀ entry ∈ state.hub.pool.clients.entries,
    (state.hub.network.client entry.value).closed = true →
      (∃ host ∈ hosts, settings.resolve host = .ok entry.key) →
        ∃ (index : Nat) (task : Task α), state.tasks[index]? = some task ∧
          settings.resolve task.host = .ok entry.key ∧ task.stage.attends = true
  emptied : ∀ (index : Nat) (task : Task α), state.tasks[index]? = some task → ∀ address,
    settings.resolve task.host = .ok address → Lone settings hosts index address →
      task.stage.hasEmptied = true → state.hub.pool.clients.find? address = none

variable {settings : Settings} {hosts : List String} {question : Question α}
  {state next : State α} {index : Nat} {task : Task α}

theorem healing_start {hub : Hub} {now : Nat} (consistent : hub.Consistent now)
    (hosts : List String) :
    Healing hub.pool.settings hosts (State.start (α := α) hub now hosts) where
  unchanged := rfl
  consistent := consistent
  listed := by
    rw [State.start, List.map_map]
    exact List.map_id hosts
  tied := by
    intro task member address resolved
    obtain ⟨host, _, rfl⟩ := List.mem_map.mp member
    trivial
  attended := by
    rintro entry stored closed ⟨host, listed, resolved⟩
    obtain ⟨index, present⟩ := List.getElem?_of_mem listed
    refine ⟨index, { host }, ?_, resolved, rfl⟩
    rw [State.start, List.getElem?_map, present]
    rfl
  emptied := by
    intro index task present address resolved lone hasEmptied
    obtain ⟨host, _, rfl⟩ := List.mem_map.mp (List.mem_of_getElem? present)
    contradiction

theorem Healing.host (healing : Healing settings hosts state)
    (present : state.tasks[index]? = some task) : hosts[index]? = some task.host := by
  rw [← healing.listed, List.getElem?_map, present]
  rfl

/-- One task takes a step. The others stay, and so does what they remember and attend to. -/
theorem Healing.advance (healing : Healing settings hosts state)
    (present : state.tasks[index]? = some task) {address : String}
    (resolved : settings.resolve task.host = .ok address) {stage : Stage α} {hub : Hub}
    (advances : Advances state.now address state.hub task.stage (stage, hub))
    (given : List (Nat × Outcome α)) :
    Healing settings hosts { state with
      hub
      tasks := state.tasks.set index { task with stage }
      given } := by
  have tied := healing.tied task (List.mem_of_getElem? present) address resolved
  obtain ⟨grows, tied'⟩ := advances.tied healing.consistent tied
  obtain ⟨bound, _⟩ := List.getElem?_eq_some_iff.mp present
  have here := healing.host present
  have moved : (state.tasks.set index { task with stage })[index]? = some { task with stage } :=
    List.getElem?_set_self bound
  refine ⟨advances.settings.trans healing.unchanged, advances.consistent healing.consistent,
    ?_, ?_, ?_, ?_⟩
  · exact (map_host_set present stage).trans healing.listed
  · intro other member place resolved'
    rcases List.mem_or_eq_of_mem_set member with former | rfl
    · exact (healing.tied other former place resolved').of_grows grows
    · cases resolved.symm.trans resolved'
      exact tied'
  · intro entry stored closed listed
    rcases advances.closed healing.consistent tied stored closed with
      ⟨former, formerly, still⟩ | ⟨same, attends⟩
    · obtain ⟨place, other, present', resolved', attends⟩ :=
        healing.attended entry former formerly listed
      by_cases same : index = place
      · subst same
        cases present.symm.trans present'
        cases resolved.symm.trans resolved'
        exact ⟨index, _, moved, resolved, still rfl attends⟩
      · refine ⟨place, other, ?_, resolved', attends⟩
        rw [List.getElem?_set_ne same]
        exact present'
    · exact ⟨index, _, moved, same ▸ resolved, attends⟩
  · intro place other present' key resolved' lone hasEmptied
    by_cases same : index = place
    · subst same
      cases moved.symm.trans present'
      cases resolved.symm.trans resolved'
      exact advances.emptied (healing.emptied index task present address resolved lone) hasEmptied
    · rw [List.getElem?_set_ne same] at present'
      have before := healing.emptied place other present' key resolved' lone hasEmptied
      refine ExpiringCache.find?_eq_none_iff.mpr ?_
      intro entry stored owned
      rcases advances.keys stored with former | own
      · exact ExpiringCache.find?_eq_none_iff.mp before entry former owned
      · exact same (lone index task.host here (own.symm.trans owned ▸ resolved))

/-- Between the steps of tasks time passes, gateways change, and octets come to clients. -/
theorem Healing.drift (healing : Healing settings hosts state) {network : Network}
    (grows : state.hub.network.Grows network)
    (same : ∀ id, (network.client id).closed = (state.hub.network.client id).closed)
    (duration : Nat) :
    Healing settings hosts { state with
      hub := { state.hub with network }
      now := state.now + duration } where
  unchanged := healing.unchanged
  consistent := by
    have later := ExpiringCache.consistent_step healing.consistent.pool (.advance duration)
    have waited : state.hub.Consistent (state.now + duration) :=
      ⟨later, healing.consistent.known, healing.consistent.address⟩
    exact waited.grow grows
  listed := healing.listed
  tied task member address resolved :=
    (healing.tied task member address resolved).of_grows grows
  attended entry stored closed := healing.attended entry stored (same _ ▸ closed)
  emptied := healing.emptied

theorem healing_move (resolves : ∀ host ∈ hosts, ∃ address, settings.resolve host = .ok address)
    (healing : Healing settings hosts state) {move : Move}
    (moved : state.move question move = some next) : Healing settings hosts next := by
  have ofTask {index : Nat} {task : Task α} (present : state.tasks[index]? = some task) :
      ∃ address, settings.resolve task.host = .ok address ∧
        task.stage.Tied state.hub.network address := by
    obtain ⟨address, resolved⟩ := resolves _ (List.mem_of_getElem? (healing.host present))
    exact ⟨address, resolved, healing.tied _ (List.mem_of_getElem? present) _ resolved⟩
  cases move with
  | task index =>
    obtain ⟨task, stage, hub, present, _, advanced, rfl⟩ := State.step_cases moved
    obtain ⟨address, resolved, tied⟩ := ofTask present
    have advances := advances_of_advance (healing.unchanged ▸ resolved) tied advanced
    exact healing.advance present resolved advances _
  | fault index reply fault =>
    simp only [State.move, Option.bind_eq_bind, Option.bind_eq_some_iff] at moved
    obtain ⟨task, present, ⟨stage, hub⟩, broken, result⟩ := moved
    cases result
    obtain ⟨address, resolved, tied⟩ := ofTask present
    exact healing.advance present resolved (advances_of_breakOff tied broken state.now) _
  | gateways gateways =>
    cases moved
    have grows : state.hub.network.Grows { state.hub.network with gateways } := .of_clients_eq rfl
    exact healing.drift grows (fun _ => rfl) 0
  | arrival id reply =>
    cases moved
    have grows := state.hub.network.grows_arrival id reply
    exact healing.drift grows (state.hub.network.closed_client_arrival id reply) 0
  | advance duration =>
    cases moved
    exact healing.drift (.refl _) (fun _ => rfl) duration

theorem healing_play (resolves : ∀ host ∈ hosts, ∃ address, settings.resolve host = .ok address)
    (healing : Healing settings hosts state) {moves : List Move} {last : State α}
    (played : state.play question moves = some last) : Healing settings hosts last :=
  State.play_induction (fun kept moved => healing_move resolves kept moved) healing played

/-- Whoever has finished attends to nothing, so in the end every client of the hosts is open. -/
theorem Healing.opened (healing : Healing settings hosts state) (done : state.isDone = true)
    {entry : ExpiringCache.Entry String ClientId}
    (stored : entry ∈ state.hub.pool.clients.entries) {host : String} (listed : host ∈ hosts)
    (resolved : settings.resolve host = .ok entry.key) :
    (state.hub.network.client entry.value).closed = false := by
  by_contra closed
  rw [Bool.not_eq_false] at closed
  obtain ⟨index, task, present, _, attends⟩ :=
    healing.attended entry stored closed ⟨host, listed, resolved⟩
  have ended := List.all_eq_true.mp done task (List.mem_of_getElem? present)
  obtain ⟨outcome, finished⟩ := Option.isSome_iff_exists.mp ended
  rw [Stage.outcome?_eq_some_iff.mp finished] at attends
  contradiction

end FileGateway.FanOut
