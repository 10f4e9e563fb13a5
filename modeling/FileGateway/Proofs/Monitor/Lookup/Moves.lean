import FileGateway.Proofs.Hub.Healing
import FileGateway.Proofs.Monitor.Lookup.Effect

/-! A lookup goes through its list from the front, one host after another. All that a move can do
is to leave a host that failed, to take a step at the host that is visited, or to change what is
outside. -/
namespace FileGateway.Lookup

/-- A lookup of a path stands at the host of the list that comes after those that failed. -/
structure Placed (settings : Settings) (hosts : List String) (path : String) (state : State) :
    Prop where
  unchanged : state.hub.pool.settings = settings
  path : state.path = path
  consistent : state.hub.Consistent state.now
  visiting : state.hosts = hosts.drop state.failures.length
  within : state.failures.length ≤ hosts.length
  idle : state.hosts = [] → state.stage = .lookup
  tied : ∀ host, state.hosts.head? = some host → ∀ address,
    settings.resolve host = .ok address → state.stage.task.Tied state.hub.network address

/-- What a move comes to. -/
inductive Moves (settings : Settings) (state : State) (move : Move) : State → Prop where
  | left {host : String} {rest : List String} {error : GatewayError} (own : move.isOwn = true)
    (here : state.hosts = host :: rest) (failed : state.stage = .failed error) :
    Moves settings state move { state with
      hosts := rest
      failures := state.failures ++ [error]
      stage := .lookup }
  | acted {host address : String} {stage : Stage} {stats : StatCache} {hub : Hub}
    (own : move.isOwn = true) (here : state.hosts.head? = some host)
    (resolved : settings.resolve host = .ok address)
    (effect : Effect state.now state.path address state.stats state.hub state.stage
      (stage, stats, hub)) :
    Moves settings state move { state with hub, stats, stage }
  | drifted {network : Network} (outside : move.isOwn = false)
    (grows : state.hub.network.Grows network)
    (same : network.history = state.hub.network.history) (duration : Nat) :
    Moves settings state move { state with
      hub := { state.hub with network }
      now := state.now + duration }

variable {settings : Settings} {hosts : List String} {path : String} {state next last : State}
  {move : Move}

theorem Placed.head? (placed : Placed settings hosts path state) :
    state.hosts.head? = hosts[state.failures.length]? := by
  rw [placed.visiting, List.head?_drop]

theorem Placed.eq_lookup_of_head?_eq_none (placed : Placed settings hosts path state)
    (ended : state.hosts.head? = none) : state.stage = .lookup :=
  placed.idle (List.head?_eq_none_iff.mp ended)

theorem placed_start {monitor : Monitor} {hub : Hub} {now : Nat} (consistent : hub.Consistent now)
    (path : String) :
    Placed hub.pool.settings monitor.hosts path (State.start monitor hub now path) where
  unchanged := rfl
  path := rfl
  consistent := consistent
  visiting := rfl
  within := Nat.zero_le _
  idle _ := rfl
  tied _ _ _ _ := trivial

theorem moves_of_move (resolves : ∀ host ∈ hosts, ∃ address, settings.resolve host = .ok address)
    (placed : Placed settings hosts path state) (moved : state.move move = some next) :
    Moves settings state move next := by
  have ofHost {host : String} (here : state.hosts.head? = some host) :
      ∃ address, settings.resolve host = .ok address ∧
        state.stage.task.Tied state.hub.network address := by
    obtain ⟨address, resolved⟩ := resolves host (List.mem_of_getElem? (placed.head? ▸ here))
    exact ⟨address, resolved, placed.tied host here address resolved⟩
  cases move with
  | step =>
    simp only [State.move, State.step] at moved
    split at moved
    · contradiction
    · rename_i host rest error here failed
      cases moved
      exact .left rfl here failed
    · rename_i host rest here _
      simp only [Option.bind_eq_bind, Option.bind_eq_some_iff] at moved
      obtain ⟨⟨stage, stats, hub⟩, advanced, result⟩ := moved
      cases result
      have visited : state.hosts.head? = some host := congrArg List.head? here
      obtain ⟨address, resolved, tied⟩ := ofHost visited
      exact .acted rfl visited resolved
        (effect_of_advance (placed.unchanged ▸ resolved) tied advanced)
  | fault reply fault =>
    simp only [State.move, Option.bind_eq_bind, Option.bind_eq_some_iff] at moved
    obtain ⟨⟨stage, hub⟩, broken, result⟩ := moved
    cases result
    cases here : state.hosts.head? with
    | none =>
      rw [placed.eq_lookup_of_head?_eq_none here] at broken
      contradiction
    | some host =>
      obtain ⟨address, resolved, tied⟩ := ofHost here
      exact .acted rfl here resolved (effect_of_breakOff tied broken state.now state.stats)
  | gateways gateways =>
    cases moved
    have grows : state.hub.network.Grows { state.hub.network with gateways } := .of_clients_eq rfl
    exact .drifted rfl grows rfl 0
  | arrival id reply =>
    cases moved
    exact .drifted rfl (state.hub.network.grows_arrival id reply) rfl 0
  | advance duration =>
    cases moved
    exact .drifted rfl (.refl _) rfl duration

theorem Effect.tied {now : Nat} {address : String} {stats : StatCache} {hub : Hub} {stage : Stage}
    {next : Stage × StatCache × Hub} (effect : Effect now path address stats hub stage next)
    (consistent : hub.Consistent now) (tied : stage.task.Tied hub.network address) :
    next.2.2.Consistent now ∧ next.1.task.Tied next.2.2.network address ∧
      next.2.2.pool.settings = hub.pool.settings := by
  rcases effect.advances with ⟨same, task⟩ | advances
  · rw [same, task]
    exact ⟨consistent, tied, rfl⟩
  · exact ⟨advances.consistent consistent, (advances.tied consistent tied).2, advances.settings⟩

theorem Placed.moves (placed : Placed settings hosts path state)
    (moves : Moves settings state move next) : Placed settings hosts path next := by
  cases moves with
  | @left host rest error own here failed =>
    have dropped : host :: rest = hosts.drop state.failures.length := here ▸ placed.visiting
    obtain ⟨bound, _⟩ := List.getElem?_eq_some_iff.mp
      ((congrArg List.head? dropped).trans List.head?_drop).symm
    refine { placed with
      visiting := ?visiting
      within := ?within
      idle := fun _ => rfl
      tied := fun _ _ _ _ => trivial }
    case visiting =>
      rw [List.length_append, List.length_singleton, ← List.tail_drop, ← dropped, List.tail_cons]
    case within =>
      rw [List.length_append, List.length_singleton]
      exact bound
  | @acted host address stage stats hub own here resolved effect =>
    obtain ⟨consistent, tied, kept⟩ :=
      effect.tied placed.consistent (placed.tied host here address resolved)
    refine { placed with
      unchanged := kept.trans placed.unchanged
      consistent
      idle := ?idle
      tied := ?tied }
    case idle =>
      intro ended
      rw [show state.hosts = [] from ended] at here
      contradiction
    case tied =>
      intro other here' address' resolved'
      cases here.symm.trans here'
      cases resolved.symm.trans resolved'
      exact tied
  | @drifted network outside grows same duration =>
    have later := ExpiringCache.consistent_step placed.consistent.pool (.advance duration)
    have waited : state.hub.Consistent (state.now + duration) :=
      ⟨later, placed.consistent.known, placed.consistent.address⟩
    refine { placed with
      consistent := waited.grow grows
      tied := ?_ }
    intro host here address resolved
    exact (placed.tied host here address resolved).of_grows grows

/-- What every move keeps of a lookup and of what it has sent, a run keeps. -/
theorem placed_play (kept : State → List Sending → Prop)
    (resolves : ∀ host ∈ hosts, ∃ address, settings.resolve host = .ok address)
    (keeps : ∀ {state next move sent}, Placed settings hosts path state → kept state sent →
      Moves settings state move next → kept next (sent ++ (state.sends? move).toList))
    (placed : Placed settings hosts path state) (sent : List Sending) (holds : kept state sent)
    {moves : List Move} (played : state.play moves = some last) :
    Placed settings hosts path last ∧ kept last (sent ++ state.sendings moves) := by
  induction moves generalizing state sent with
  | nil =>
    cases played
    rw [State.sendings, List.append_nil]
    exact ⟨placed, holds⟩
  | cons move moves ih =>
    simp only [State.play, Option.bind_eq_bind, Option.bind_eq_some_iff] at played
    obtain ⟨next, moved, played⟩ := played
    have happens := moves_of_move resolves placed moved
    simp only [State.sendings, moved, ← List.append_assoc]
    exact ih (placed.moves happens) _ (keeps placed holds happens) played

end FileGateway.Lookup
