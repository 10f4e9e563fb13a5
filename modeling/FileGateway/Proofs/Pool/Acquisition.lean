import FileGateway.Proofs.Address.Canonical
import FileGateway.Proofs.ExpiringCache.Insertion
import FileGateway.Proofs.Pool.SingleFlight

/-! Asking a pool for the client of a host makes at most one connection and has one of four ends: the
host is refused, a client is given again, a new one is given and kept, or the connection fails. A
call that goes through the gate of its address, and looks for a client twice, comes to the same if
no other call is in progress. -/
namespace FileGateway

namespace Pool

/-- What comes of the one attempt to connect an address that a call makes at `later`. -/
structure Attempts (pool : Pool) (network : Network) (later : Nat) (address : String)
    (result : Except GatewayError ClientId) (next : Pool) (reached : Network) : Prop where
  attempted : reached.history = network.history ++ [.attempt (Network.gatewayName address)]
  gateways : reached.gateways = network.gateways
  connected : network.route (Network.gatewayName address) = .ok () →
    result = .ok network.clients.size ∧ reached.clients = network.clients.push { address } ∧
    (reached.client network.clients.size).closed = false ∧
    next.clients.find? address = some ⟨address, network.clients.size, later⟩ ∧
    ExpiringCache.SparesOthers pool.clients next.clients address
  failed : ∀ fault, network.route (Network.gatewayName address) = .error fault →
    result = .error (.connect address fault) ∧ reached.clients = network.clients ∧
    next.clients.find? address = none ∧
    ∀ other, other ≠ address → next.clients.find? other = pool.clients.find? other

/-- What comes of a call for an address that looks for a client at `now` and, if there is none to be
had, connects at `later`. -/
structure Acquires (pool : Pool) (network : Network) (now later : Nat) (address : String)
    (result : Except GatewayError ClientId) (next : Pool) (reached : Network) : Prop where
  reused : ∀ id, pool.usable? network now address = some id →
    result = .ok id ∧ next = pool ∧ reached = network
  missed : pool.usable? network now address = none →
    pool.Attempts network later address result next reached

variable {pool : Pool} {network : Network} {now later : Nat} {address : String}

theorem acquires_of_usable {id : ClientId}
    (usable : pool.usable? network now address = some id) (later : Nat) :
    pool.Acquires network now later address (.ok id) pool network := by
  constructor
  · intro other same
    exact ⟨congrArg Except.ok (Option.some.inj (usable.symm.trans same)), rfl, rfl⟩
  · intro absent
    rw [usable] at absent
    contradiction

theorem acquires_of_attempts (absent : pool.usable? network now address = none)
    {result : Except GatewayError ClientId} {next : Pool} {reached : Network}
    (attempts : pool.Attempts network later address result next reached) :
    pool.Acquires network now later address result next reached := by
  constructor
  · intro id usable
    rw [absent] at usable
    contradiction
  · exact fun _ => attempts

theorem attempts_of_route_error {fault : LinkFault}
    (unrouted : network.route (Network.gatewayName address) = .error fault) (pool : Pool)
    (later : Nat) :
    pool.Attempts network later address (.error (.connect address fault)) (pool.forget address)
      (network.connect address).2 where
  attempted := network.history_connect address
  gateways := network.gateways_connect address
  connected := by
    intro routed
    rw [unrouted] at routed
    contradiction
  failed := by
    intro other same
    cases unrouted.symm.trans same
    refine ⟨rfl, Network.clients_connect_of_route_error unrouted, ?_, ?_⟩
    · exact ExpiringCache.find?_erase_self ..
    · exact fun other apart => ExpiringCache.find?_erase_of_ne _ apart

theorem attempts_of_route_ok (consistent : ExpiringCache.Consistent ⟨later, pool.clients⟩)
    (routed : network.route (Network.gatewayName address) = .ok ()) :
    pool.Attempts network later address (.ok network.clients.size)
      { pool.forget address with clients :=
        (pool.forget address).clients.insert later address network.clients.size }
      (network.connect address).2 where
  attempted := network.history_connect address
  gateways := network.gateways_connect address
  connected := by
    intro _
    have erased : ExpiringCache.Consistent ⟨later, pool.clients.erase address⟩ :=
      consistent.of_sublist rfl List.filter_sublist
    refine ⟨rfl, Network.clients_connect_of_route_ok routed, ?_, ?_, ?_⟩
    · exact congrArg Client.closed (Network.client_connect_self routed)
    · exact erased.find?_insert_self address network.clients.size
    · exact consistent.sparesOthers address network.clients.size
  failed := by
    intro fault unrouted
    rw [routed] at unrouted
    contradiction

theorem get_of_resolve_error {host : String} {error : GatewayError}
    (refused : pool.settings.resolve host = .error error) (network : Network) (now : Nat) :
    pool.get network now host = (.error error, pool, network) := by
  simp only [get, refused]

/-- A call that takes no time. -/
theorem acquires_get (consistent : ExpiringCache.Consistent ⟨now, pool.clients⟩) {host : String}
    (resolved : pool.settings.resolve host = .ok address) (network : Network) :
    pool.Acquires network now now address (pool.get network now host).1
      (pool.get network now host).2.1 (pool.get network now host).2.2 := by
  have given := Hub.given_client ⟨pool, network⟩ now host
  rw [Hub.client] at given
  generalize pool.get network now host = result at given ⊢
  obtain ⟨result, next, reached⟩ := result
  cases given with
  | unresolved error refused => cases resolved.symm.trans refused
  | reused address' id resolved' usable =>
    cases resolved.symm.trans resolved'
    exact acquires_of_usable usable now
  | failed address' fault resolved' absent unrouted =>
    cases resolved.symm.trans resolved'
    exact acquires_of_attempts absent (attempts_of_route_error unrouted pool now)
  | connected address' resolved' absent routed =>
    cases resolved.symm.trans resolved'
    exact acquires_of_attempts absent (attempts_of_route_ok consistent routed)

end Pool

namespace SingleFlight

/-- A step of a caller, or time that passes. -/
def Move.isOwn : Move → Bool
  | .caller _ | .turn (.event (.advance _)) => true
  | .turn _ => false

/-- What holds of a call for an address that looked for a client at `now`, while it is the only one
in progress. -/
structure Alone (pool : Pool) (network : Network) (now : Nat) (address : String) (stage : Stage)
    (state : State) : Prop where
  callers : state.callers = [⟨address, stage⟩]
  gates : state.gates = (stage.gate?.map (address, ·)).toList
  passed : now ≤ state.now
  waits : stage.outcome? = none → pool.usable? network now address = none ∧
    state.pool = pool.forget address ∧ state.network = network
  acquires : ∀ outcome, stage.outcome? = some outcome → ∃ later, now ≤ later ∧ later ≤ state.now ∧
    pool.Acquires network now later address outcome state.pool state.network

variable {pool : Pool} {network : Network} {now : Nat} {address : String} {stage stage' : Stage}
  {state next shared : State}

/-- A caller that keeps its outcome, or its lack of one, and changes no more than the gates. -/
theorem Alone.keep (alone : Alone pool network now address stage state)
    (pool_eq : shared.pool = state.pool) (network_eq : shared.network = state.network)
    (now_eq : shared.now = state.now)
    (gates : shared.gates = (stage'.gate?.map (address, ·)).toList)
    (same : stage'.outcome? = stage.outcome?) :
    Alone pool network now address stage'
      { shared with callers := state.callers.set 0 ⟨address, stage'⟩ } := by
  refine ⟨?_, gates, now_eq ▸ alone.passed, ?_, ?_⟩
  · rw [alone.callers]
    rfl
  · intro unfinished
    obtain ⟨missed, forgotten, unchanged⟩ := alone.waits (same ▸ unfinished)
    exact ⟨missed, pool_eq.trans forgotten, network_eq.trans unchanged⟩
  · intro outcome has
    rw [same] at has
    simpa only [pool_eq, network_eq, now_eq] using alone.acquires outcome has

/-- A caller that comes to an outcome. -/
theorem Alone.settle (alone : Alone pool network now address stage state)
    (same : shared.now = state.now) (gates : shared.gates = (stage'.gate?.map (address, ·)).toList)
    {outcome : Outcome} (has : stage'.outcome? = some outcome)
    (acquires : pool.Acquires network now state.now address outcome shared.pool shared.network) :
    Alone pool network now address stage'
      { shared with callers := state.callers.set 0 ⟨address, stage'⟩ } := by
  refine ⟨?_, gates, same ▸ alone.passed, ?_, ?_⟩
  · rw [alone.callers]
    rfl
  · intro unfinished
    rw [has] at unfinished
    contradiction
  · intro other has'
    cases has.symm.trans has'
    exact ⟨state.now, alone.passed, Nat.le_of_eq same.symm, acquires⟩

theorem Alone.unusable (alone : Alone pool network now address stage state)
    (unfinished : stage.outcome? = none) (instant : Nat) :
    state.pool.usable? state.network instant address = none := by
  rw [(alone.waits unfinished).2.1]
  exact pool.usable?_forget ..

theorem Alone.forget_eq (alone : Alone pool network now address stage state)
    (unfinished : stage.outcome? = none) : state.pool.forget address = state.pool := by
  rw [(alone.waits unfinished).2.1]
  exact pool.forget_forget address

theorem alone_step (consistent : ExpiringCache.Consistent ⟨now, pool.clients⟩)
    (alone : Alone pool network now address stage state) {index : Nat}
    (stepped : state.step index = some next) :
    ∃ stage', Alone pool network now address stage' next := by
  obtain ⟨caller, stage', shared, present, proceeds, rfl⟩ := step_cases stepped
  rw [alone.callers] at present
  obtain ⟨rfl, rfl⟩ : index = 0 ∧ caller = ⟨address, stage⟩ := by
    cases index with
    | zero => exact ⟨rfl, (Option.some.inj present).symm⟩
    | succ index => contradiction
  have gates := alone.gates
  refine ⟨stage', ?_⟩
  cases proceeds with
  | found usable | foundAgain usable =>
    have absent := alone.unusable rfl state.now
    rw [usable] at absent
    contradiction
  | missed absent | missedAgain absent =>
    exact alone.keep (alone.forget_eq rfl) rfl rfl gates rfl
  | joined known =>
    rw [gates] at known
    contradiction
  | opened unknown => exact alone.keep rfl rfl rfl (congrArg _ gates) rfl
  | passed free => exact alone.keep rfl rfl rfl gates rfl
  | refused unrouted =>
    obtain ⟨missed, forgotten, unchanged⟩ := alone.waits rfl
    rw [unchanged] at unrouted
    refine alone.settle rfl gates rfl ?_
    apply Pool.acquires_of_attempts missed
    simp only [forgotten, unchanged]
    exact Pool.attempts_of_route_error unrouted pool state.now
  | connected routed =>
    obtain ⟨missed, forgotten, unchanged⟩ := alone.waits rfl
    rw [unchanged] at routed
    refine alone.settle rfl gates rfl ?_
    apply Pool.acquires_of_attempts missed
    simp only [forgotten, unchanged]
    exact Pool.attempts_of_route_ok (consistent.later alone.passed) routed
  | left => exact alone.keep rfl rfl rfl gates rfl
  | @kept gate outcome shared =>
    -- the address and the caller are all that refer to the gate
    have few : state.references gate = 2 := by
      rw [State.references, gates, alone.callers]
      simp [Stage.gate?]
    omega
  | removed last =>
    refine alone.keep rfl rfl rfl ?_ rfl
    rw [gates]
    simp [Stage.gate?]

theorem alone_move (consistent : ExpiringCache.Consistent ⟨now, pool.clients⟩)
    (alone : Alone pool network now address stage state) {move : Move} (own : move.isOwn = true)
    (moved : state.move move = some next) :
    ∃ stage', Alone pool network now address stage' next := by
  match move with
  | .caller index => exact alone_step consistent alone moved
  | .turn (.event (.advance duration)) =>
    cases moved
    refine ⟨stage, alone.callers, alone.gates, ?_, alone.waits, ?_⟩
    · exact Nat.le_trans alone.passed (Nat.le_add_right ..)
    · intro outcome has
      obtain ⟨later, began, ended, acquires⟩ := alone.acquires outcome has
      exact ⟨later, began, Nat.le_trans ended (Nat.le_add_right ..), acquires⟩

theorem alone_play (consistent : ExpiringCache.Consistent ⟨now, pool.clients⟩)
    (alone : Alone pool network now address stage state) {moves : List Move}
    (own : ∀ move ∈ moves, move.isOwn = true) {last : State}
    (played : state.play moves = some last) :
    ∃ stage', Alone pool network now address stage' last := by
  induction moves generalizing stage state with
  | nil =>
    cases played
    exact ⟨stage, alone⟩
  | cons move moves ih =>
    simp only [State.play, Option.bind_eq_bind, Option.bind_eq_some_iff] at played
    obtain ⟨next, moved, played⟩ := played
    obtain ⟨first, others⟩ := List.forall_mem_cons.mp own
    obtain ⟨stage', alone'⟩ := alone_move consistent alone first moved
    exact ih alone' others played

theorem Alone.exists_step_or_finished (alone : Alone pool network now address stage state) :
    (∃ next, state.step 0 = some next) ∨ ∃ outcome, stage = .finished outcome := by
  by_cases finished : ∃ outcome, stage = .finished outcome
  · exact .inr finished
  left
  have present : state.callers[0]? = some ⟨address, stage⟩ := by
    rw [alone.callers]
    rfl
  apply exists_step present
  · intro outcome same
    exact finished ⟨outcome, same⟩
  · intro gate waiting
    rw [State.isOccupied, alone.callers, show stage = .wait gate from waiting]
    rfl

/-- The first step of a call decides whether it connects. -/
theorem alone_start (stepped : (State.start pool network now [address]).step 0 = some next) :
    ∃ stage, Alone pool network now address stage next := by
  obtain ⟨caller, stage, shared, present, proceeds, rfl⟩ := step_cases stepped
  cases present
  refine ⟨stage, ?_⟩
  cases proceeds with
  | found usable =>
    refine ⟨rfl, rfl, Nat.le_refl now, nofun, ?_⟩
    rintro outcome ⟨⟩
    exact ⟨now, Nat.le_refl now, Nat.le_refl now, Pool.acquires_of_usable usable now⟩
  | missed absent => exact ⟨rfl, rfl, Nat.le_refl now, fun _ => ⟨absent, rfl, rfl⟩, nofun⟩

end SingleFlight

namespace Pool

/-- A host without a valid address is refused. An open client that has not expired is given again.
Otherwise there is one attempt to connect, which adds the new client or drops what the pool had for
the address, and which costs no other address its client unless every place was taken and none by
this address. So it is with a call in an instant. It is the same with a call in steps, which may
take its time between looking for a client and connecting, if no other call is in progress: after
seven steps at most it has come to its end. -/
theorem get_acquires {capacity lifetime start now : Nat} {pool : Pool}
    (reachable : ExpiringCache.Reachable ⟨start, .ofLimits capacity lifetime⟩ ⟨now, pool.clients⟩)
    (network : Network) (host : String) :
    let given := pool.get network now host
    (∀ error, pool.settings.resolve host = .error error →
      error = .invalidHost (String.ofList (Blank.trim host.toList)) ∧
      given = (.error error, pool, network)) ∧
    ∀ address, pool.settings.resolve host = .ok address →
      pool.Acquires network now now address given.1 given.2.1 given.2.2 ∧
      ∀ (moves : List SingleFlight.Move) (last : SingleFlight.State),
        (∀ move ∈ moves, move.isOwn = true) →
        (SingleFlight.State.start pool network now [address]).play (.caller 0 :: moves) =
          some last →
          moves.countP SingleFlight.Move.isCaller ≤ 6 ∧
          ((∃ next, last.step 0 = some next) ∨
            ∃ outcome, last.callers = [⟨address, .finished outcome⟩] ∧ last.gates = [] ∧
              ∃ later, now ≤ later ∧ later ≤ last.now ∧
                pool.Acquires network now later address outcome last.pool last.network) := by
  intro given
  have consistent := reachable.consistent (ExpiringCache.consistent_ofLimits ..)
  constructor
  · intro error refused
    exact ⟨Settings.error_of_resolve refused, get_of_resolve_error refused network now⟩
  · intro address resolved
    apply And.intro (acquires_get consistent resolved network)
    intro moves last own played
    have counted := SingleFlight.countP_play played
    rw [SingleFlight.rank_start, List.countP_cons_of_pos rfl, List.length_singleton] at counted
    apply And.intro (by omega)
    simp only [SingleFlight.State.play, Option.bind_eq_bind, Option.bind_eq_some_iff] at played
    obtain ⟨next, moved, played⟩ := played
    obtain ⟨stage, begun⟩ := SingleFlight.alone_start moved
    obtain ⟨stage', alone⟩ := SingleFlight.alone_play consistent begun own played
    rcases alone.exists_step_or_finished with goes | ⟨outcome, rfl⟩
    · exact .inl goes
    · exact .inr ⟨outcome, alone.callers, alone.gates, alone.acquires outcome rfl⟩

/-- A pool whose places are taken, one of them by a closed client. -/
def twoPlaces : Pool where
  settings := {}
  clients := ⟨some 2, some 10, [⟨"a:9090", 0, 0⟩, ⟨"b:1", 1, 3⟩]⟩

def twoClients : Network where
  gateways := [("a:9090", { replies := [] })]
  clients := #[{ address := "a:9090", closed := true }, { address := "b:1" }]

theorem get_acquires_reconnected :
    let given := twoPlaces.get twoClients 7 " a "
    given.1 = .ok 2 ∧ given.2.1.clients.find? "a:9090" = some ⟨"a:9090", 2, 7⟩ ∧
      given.2.1.clients.find? "b:1" = some ⟨"b:1", 1, 3⟩ := by
  intro given
  have reachable : ExpiringCache.Reachable ⟨0, .ofLimits 2 10⟩ ⟨7, twoPlaces.clients⟩ :=
    ExpiringCache.reachable_run ⟨0, .ofLimits 2 10⟩
      [.insert "a:9090" 0, .advance 3, .insert "b:1" 1, .advance 4]
  have resolved : twoPlaces.settings.resolve " a " = .ok "a:9090" := rfl
  obtain ⟨acquires, -⟩ := (get_acquires reachable twoClients " a ").2 "a:9090" resolved
  obtain ⟨given_eq, -, -, stored, others⟩ := (acquires.missed rfl).connected rfl
  refine ⟨given_eq, stored, ?_⟩
  rcases others with kept | ⟨absent, -⟩
  · exact kept "b:1" (by decide)
  · contradiction

end Pool
end FileGateway
