import FileGateway.Proofs.Monitor.Lookup.Moves

/-! A lookup comes to its end in a bounded number of steps unless a gateway does not answer, and the
length that a monitor gives is what comes of one that is not disturbed. -/
namespace FileGateway.Lookup

/-- Some moves lead from one state to the other. -/
def State.Reaches (state last : State) : Prop := ∃ moves, state.play moves = some last

theorem State.Reaches.refl (state : State) : state.Reaches state := ⟨[], rfl⟩

theorem State.Reaches.trans {state next last : State} (before : state.Reaches next)
    (after : next.Reaches last) : state.Reaches last := by
  obtain ⟨moves, played⟩ := before
  induction moves generalizing state with
  | nil =>
    cases played
    exact after
  | cons move moves ih =>
    simp only [play, Option.bind_eq_bind, Option.bind_eq_some_iff] at played
    obtain ⟨between, moved, played⟩ := played
    obtain ⟨others, played'⟩ := ih played
    refine ⟨move :: others, ?_⟩
    rw [play, moved]
    exact played'

section Visit
variable {hub hub' : Hub} {stats stats' : StatCache} {now : Nat} {path host : String}
  {rest : List String} {failures : List GatewayError} {stage stage' : Stage}

theorem step_of_advance
    (advanced : stage.advance now path host stats hub = some (stage', stats', hub')) :
    State.step ⟨hub, stats, now, path, host :: rest, failures, stage⟩ =
      some ⟨hub', stats', now, path, host :: rest, failures, stage'⟩ := by
  rw [State.step]
  split
  · contradiction
  · rename_i failed
    cases failed
    contradiction
  · rename_i same _
    cases same
    rw [advanced]
    rfl

theorem reaches_advance
    (advanced : stage.advance now path host stats hub = some (stage', stats', hub')) :
    State.Reaches ⟨hub, stats, now, path, host :: rest, failures, stage⟩
      ⟨hub', stats', now, path, host :: rest, failures, stage'⟩ := by
  refine ⟨[.step], ?_⟩
  rw [State.play, State.move, step_of_advance advanced]
  rfl

theorem reaches_left (error : GatewayError) :
    State.Reaches ⟨hub, stats, now, path, host :: rest, failures, .failed error⟩
      ⟨hub, stats, now, path, rest, failures ++ [error], .lookup⟩ :=
  ⟨[.step], rfl⟩

/-- A host whose client is not to be had is connected to in the third step. -/
theorem reaches_connect {address : String}
    (resolved : hub.pool.settings.resolve host = .ok address)
    (absent : hub.pool.usable? hub.network now address = none) :
    State.Reaches ⟨hub, stats, now, path, host :: rest, failures, .lookup⟩
      ⟨hub.forget address, stats, now, path, host :: rest, failures, .connect address⟩ := by
  have missed : Stage.advance now path host stats hub .lookup =
      some (.approach address, stats, hub.forget address) := by
    simp only [Stage.advance, resolved, Pool.live_eq, absent]
    rfl
  have missedAgain : Stage.advance now path host stats (hub.forget address) (.recheck address) =
      some (.connect address, stats, hub.forget address) := by
    simp only [Stage.advance, Hub.forget, Pool.live_eq, Pool.usable?_forget, Pool.forget_forget]
  exact (reaches_advance missed).trans ((reaches_advance rfl).trans (reaches_advance missedAgain))

/-- Where asking for the client of a host leads. -/
def Stage.ofClient : Except GatewayError ClientId → Stage
  | .ok id => .consult id
  | .error error => .failed error

theorem reaches_client (hub : Hub) :
    State.Reaches ⟨hub, stats, now, path, host :: rest, failures, .lookup⟩
      ⟨(hub.client now host).2, stats, now, path, host :: rest, failures,
        .ofClient (hub.client now host).1⟩ := by
  have given := hub.given_client now host
  generalize hub.client now host = result at given
  cases given with
  | unresolved error refused =>
    refine reaches_advance ?_
    simp only [Stage.advance, refused]
    rfl
  | reused address id resolved usable =>
    refine reaches_advance ?_
    simp only [Stage.advance, resolved, Pool.live_eq, usable]
    rfl
  | failed address fault resolved absent unrouted =>
    refine (reaches_connect resolved absent).trans (reaches_advance ?_)
    simp only [Stage.advance, Hub.forget, Pool.connect_of_route_error unrouted]
    rfl
  | connected address resolved absent routed =>
    refine (reaches_connect resolved absent).trans (reaches_advance ?_)
    simp only [Stage.advance, Hub.forget, Hub.adopt, Pool.connect_of_route_ok routed]
    rfl

/-- Where asking for the metadata at a client leads, unless the call is given up. -/
def Stage.ofStat? : Except Failure FileStat → Option Stage
  | .ok stat => some (.found stat)
  | .error (.error error) => some (.discard error)
  | .error .cancelled => none

/-- Where the visit of a host leads then. -/
def Stage.ofVisit? : Except Failure FileStat → Option Stage
  | .ok stat => some (.found stat)
  | .error (.error error) => some (.failed error)
  | .error .cancelled => none

theorem reaches_stat {id : ClientId} {outcome : Except Failure FileStat} {network : Network}
    (given : stats.stat hub.network now id path = (outcome, stats', network))
    (comes : Stage.ofStat? outcome = some stage) :
    State.Reaches ⟨hub, stats, now, path, host :: rest, failures, .consult id⟩
      ⟨{ hub with network }, stats', now, path, host :: rest, failures, stage⟩ := by
  have looked : stats.cached now path = ((stats.cached now path).1, (stats.cached now path).2) := rfl
  cases held : (stats.cached now path).1 with
  | some stat =>
    rw [StatCache.stat_of_cached held] at given
    cases given
    cases comes
    refine reaches_advance ?_
    rw [held] at looked
    simp only [Stage.advance]
    rw [looked]
  | none =>
    have consulted : Stage.advance now path host stats hub (.consult id) =
        some (.query id, (stats.cached now path).2, hub) := by
      rw [held] at looked
      simp only [Stage.advance]
      rw [looked]
    rw [StatCache.stat_of_not_cached held] at given
    refine (reaches_advance consulted).trans (reaches_advance ?_)
    simp only [Stage.advance, given]
    cases outcome with
    | ok stat =>
      cases comes
      rfl
    | error failure =>
      cases failure with
      | error error =>
        cases comes
        rfl
      | cancelled => cases comes

theorem reaches_statAt {outcome : Except Failure FileStat}
    (given : Monitor.statAt stats hub now path host = (outcome, stats', hub'))
    (comes : Stage.ofVisit? outcome = some stage) :
    State.Reaches ⟨hub, stats, now, path, host :: rest, failures, .lookup⟩
      ⟨hub', stats', now, path, host :: rest, failures, stage⟩ := by
  refine (reaches_client hub).trans ?_
  rw [Monitor.statAt] at given
  cases asked : hub.client now host with
  | mk client next =>
    rw [asked] at given
    cases client with
    | error error =>
      cases given
      cases comes
      exact .refl _
    | ok id =>
      cases looked : stats.stat next.network now id path with
      | mk answer left =>
        obtain ⟨stats₁, network⟩ := left
        simp only [looked] at given
        match answer with
        | .ok stat =>
          cases given
          cases comes
          exact reaches_stat looked rfl
        | .error .cancelled =>
          cases given
          cases comes
        | .error (.error error) =>
          cases given
          cases comes
          exact (reaches_stat looked rfl).trans (reaches_advance rfl)

/-- The length that hosts give without a disturbance is the result of a lookup. -/
theorem reaches_lengthAt {hosts : List String} {known : Option UInt64}
    (failures : List GatewayError)
    (given : Monitor.lengthAt now path stats hub hosts = (some known, stats', hub')) :
    ∃ last, State.Reaches ⟨hub, stats, now, path, hosts, failures, .lookup⟩ last ∧
      last.result? = some known ∧ last.stats = stats' ∧ last.hub = hub' ∧ last.now = now := by
  induction hosts generalizing stats hub failures with
  | nil =>
    cases given
    exact ⟨_, .refl _, rfl, rfl, rfl, rfl⟩
  | cons host rest ih =>
    rw [Monitor.lengthAt] at given
    cases visited : Monitor.statAt stats hub now path host with
    | mk outcome next =>
      obtain ⟨stats₁, hub₁⟩ := next
      rw [visited] at given
      match outcome with
      | .ok stat =>
        cases given
        exact ⟨_, reaches_statAt visited rfl, rfl, rfl, rfl, rfl⟩
      | .error .cancelled => cases given
      | .error (.error error) =>
        obtain ⟨last, reaches, ends⟩ := ih (failures ++ [error]) given
        refine ⟨last, ?_, ends⟩
        exact (reaches_statAt visited rfl).trans ((reaches_left error).trans reaches)

end Visit

section Progress
variable {settings : Settings} {hosts : List String} {path : String} {state last : State}

/-- Whether a lookup waits for a gateway that does not answer. -/
def State.IsStalled (state : State) : Prop :=
  ∃ id, state.stage = .query id ∧
    (state.hub.network.perform id (.getStat state.path)).1 = .error .cancelled

/-- A visit goes on as long as the gateway answers. -/
theorem exists_advance {stage : Stage} (hub : Hub) (stats : StatCache) (now : Nat)
    (path host : String) (unfailed : ∀ error, stage ≠ .failed error)
    (unfound : ∀ stat, stage ≠ .found stat)
    (answered : ∀ id, stage = .query id →
      (hub.network.perform id (.getStat path)).1 ≠ .error .cancelled) :
    (stage.advance now path host stats hub).isSome = true := by
  cases stage with
  | lookup =>
    simp only [Stage.advance]
    split
    · rfl
    · split <;> rfl
  | approach address | discard error => rfl
  | recheck address | connect address | consult id =>
    simp only [Stage.advance]
    split <;> rfl
  | query id =>
    have comes := answered id rfl
    simp only [Stage.advance]
    rcases stats.fetch_cases hub.network now id path with
      ⟨stat, told, given⟩ | ⟨failure, told, given⟩
    · rw [given]
      rfl
    · rw [given]
      cases failure with
      | cancelled => exact absurd told comes
      | error error => rfl
  | failed error => exact absurd rfl (unfailed error)
  | found stat => exact absurd rfl (unfound stat)

/-- A lookup that has no result takes another step, or it is stalled. -/
theorem exists_step (unended : state.result? = none) :
    (∃ next, state.step = some next) ∨ state.IsStalled := by
  by_cases stalled : state.IsStalled
  · exact .inr stalled
  obtain ⟨hub, stats, now, path, hosts, failures, stage⟩ := state
  cases hosts with
  | nil => cases unended
  | cons host rest =>
    left
    by_cases failed : ∃ error, stage = .failed error
    · obtain ⟨error, rfl⟩ := failed
      exact ⟨_, rfl⟩
    have unfailed : ∀ error, stage ≠ .failed error := fun error same => failed ⟨error, same⟩
    have unfound : ∀ stat, stage ≠ .found stat := by
      rintro stat rfl
      cases unended
    have answered : ∀ id, stage = .query id →
        (hub.network.perform id (.getStat path)).1 ≠ .error .cancelled :=
      fun id asks cancelled => stalled ⟨id, asks, cancelled⟩
    obtain ⟨⟨stage', stats', hub'⟩, advanced⟩ := Option.isSome_iff_exists.mp
      (exists_advance hub stats now path host unfailed unfound answered)
    exact ⟨_, step_of_advance advanced⟩

/-- A lookup that has a result does nothing more. -/
theorem move_of_result? {known : Option UInt64} (ended : state.result? = some known)
    (placed : Placed settings hosts path state) {move : Move} (own : move.isOwn = true) :
    state.move move = none := by
  obtain ⟨hub, stats, now, path, hosts, failures, stage⟩ := state
  cases hosts with
  | nil =>
    have idle : stage = .lookup := placed.idle rfl
    subst idle
    cases move with
    | step | fault reply fault => rfl
    | _ => contradiction
  | cons host rest =>
    cases stage with
    | found stat =>
      cases move with
      | step | fault reply fault => rfl
      | _ => contradiction
    | _ => contradiction

/-- Every step brings a lookup nearer to its end. -/
theorem countP_isOwn_le (resolves : ∀ host ∈ hosts, ∃ address, settings.resolve host = .ok address)
    (placed : Placed settings hosts path state) {moves : List Move}
    (played : state.play moves = some last) :
    moves.countP Move.isOwn + (8 * state.failures.length + state.stage.depth) ≤
      8 * last.failures.length + last.stage.depth := by
  induction moves generalizing state with
  | nil =>
    cases played
    exact Nat.le_of_eq (Nat.zero_add _)
  | cons move moves ih =>
    simp only [State.play, Option.bind_eq_bind, Option.bind_eq_some_iff] at played
    obtain ⟨next, moved, played⟩ := played
    have happens := moves_of_move resolves placed moved
    have rest := ih (placed.moves happens) played
    cases happens with
    | left own here failed =>
      have deepest : state.stage.depth = 7 := by
        rw [failed]
        rfl
      have shallow : Stage.depth .lookup = 0 := rfl
      simp only [List.length_append, List.length_singleton, shallow] at rest
      rw [List.countP_cons_of_pos own]
      omega
    | @acted _ _ stage stats hub own here resolved effect =>
      have deeper : state.stage.depth < stage.depth := effect.deeper
      simp only at rest
      rw [List.countP_cons_of_pos own]
      omega
    | drifted outside grows same duration =>
      rw [List.countP_cons_of_neg (Bool.eq_false_iff.mp outside)]
      exact rest

end Progress
end FileGateway.Lookup
