import FileGateway.Proofs.Hub.Accounts
import FileGateway.Proofs.Pool.Gates

/-! As long as the clients that the pool holds stay usable, the first caller to come behind the gate
of an address connects, and everybody else finds the client. -/
namespace FileGateway

namespace Hub

/-- A client that was just connected is the one to be had for its address. -/
theorem Lawful.usable?_adopt_self {settings : Settings} {now : Nat} {hub : Hub}
    (lawful : Lawful settings ⟨now, hub⟩) {address : String}
    (routed : hub.network.route (Network.gatewayName address) = .ok ()) :
    (hub.adopt now address).pool.usable? (hub.adopt now address).network now address =
      some hub.network.clients.size := by
  have adopted : (hub.adopt now address).Consistent now := lawful.consistent.adopt routed
  let entry : ExpiringCache.Entry String ClientId := ⟨address, hub.network.clients.size, now⟩
  have stored : entry ∈ (hub.adopt now address).pool.clients.entries :=
    ExpiringCache.mem_insert_self ..
  refine Pool.usable?_eq_some_iff.mpr ⟨entry, ?_, rfl, ?_, ?_⟩
  · exact (ExpiringCache.find?_eq_some_iff adopted.pool.distinct).mpr ⟨stored, rfl⟩
  · refine (ExpiringCache.isStale_insert ..).trans ?_
    refine (ExpiringCache.isStale_ofLimits_iff lawful.limits.lifetime).mpr ?_
    rw [Nat.sub_self]
    exact Nat.eq_zero_or_pos _
  · exact congrArg Client.closed (Network.client_connect_self routed)

/-- Connecting an address makes no client usable for another. -/
theorem Consistent.usable?_adopt_of_ne {hub : Hub} {now : Nat} (consistent : hub.Consistent now)
    {address other : String} (distinct : other ≠ address)
    (absent : hub.pool.usable? hub.network now other = none) :
    (hub.adopt now address).pool.usable? (hub.adopt now address).network now other = none := by
  refine Option.eq_none_iff_forall_not_mem.mpr ?_
  intro id usable
  obtain ⟨entry, found, rfl, fresh, opened⟩ := Pool.usable?_eq_some_iff.mp usable
  obtain ⟨stored, named⟩ := ExpiringCache.mem_of_find? found
  rcases ExpiringCache.mem_of_mem_insert stored with ⟨former, _⟩ | rfl
  · have present := (ExpiringCache.find?_eq_some_iff consistent.pool.distinct).mpr ⟨former, named⟩
    have known := hub.network.client_connect_of_lt address (consistent.known entry former)
    have before : hub.pool.usable? hub.network now other = some entry.value := by
      refine Pool.usable?_eq_some_iff.mpr ⟨entry, present, rfl, ?_, ?_⟩
      · exact (ExpiringCache.isStale_insert ..).symm.trans fresh
      · exact (congrArg Client.closed known).symm.trans opened
    rw [absent] at before
    contradiction
  · exact distinct named.symm

end Hub

theorem Pool.usable?_forget_of_ne (pool : Pool) (network : Network) (now : Nat)
    {address other : String} (distinct : other ≠ address) :
    (pool.forget address).usable? network now other = pool.usable? network now other := by
  rw [usable?, usable?, forget, ExpiringCache.find?_erase_of_ne _ distinct]
  rfl

namespace SingleFlight

/-- The outcome of a caller that has one. -/
def Stage.outcome? : Stage → Option Outcome
  | leave _ outcome | release _ outcome | finished outcome => some outcome
  | lookup | approach | wait _ | recheck _ | connect _ => none

/-- The client that is to be had for an address without connecting. -/
def State.cached? (state : State) (address : String) : Option ClientId :=
  state.pool.usable? state.network state.now address

/-- A move that lets single flight be seen: if it connects, it succeeds, no client expires, is
evicted, forgotten or closed that the pool holds for a caller's address, and only callers connect
these. -/
def State.Spares (state : State) (move : Move) (next : State) : Prop :=
  ∀ caller ∈ state.callers,
    (∀ outcome ∈ state.connect? caller.address move, outcome.toOption.isSome = true) ∧
    (∀ id ∈ state.cached? caller.address, next.cached? caller.address = some id) ∧
    (move.isCaller = false → state.cached? caller.address = none →
      next.cached? caller.address = none)
  deriving Decidable

/-- Moves all of which spare the clients of the callers. -/
def State.Undisturbed (state : State) : List Move → Prop
  | [] => True
  | move :: moves => ∀ next ∈ state.move move, state.Spares move next ∧ next.Undisturbed moves

instance decidableUndisturbed : (state : State) → (moves : List Move) →
    Decidable (state.Undisturbed moves)
  | _, [] => isTrue trivial
  | state, move :: moves =>
    have (next : State) : Decidable (next.Undisturbed moves) := decidableUndisturbed next moves
    inferInstanceAs (Decidable (∀ next ∈ state.move move,
      state.Spares move next ∧ next.Undisturbed moves))

/-- How the client of an address came to be there, from what was to be had before, what is to be had
now, and the connects in between. -/
inductive Fetched : Option ClientId → Option ClientId → List Outcome → Prop where
  | cached (id : ClientId) : Fetched (some id) (some id) []
  | absent : Fetched none none []
  | connected (id : ClientId) : Fetched none (some id) [.ok id]

theorem Fetched.connect {before : Option ClientId} {log : List Outcome}
    (fetched : Fetched before none log) (id : ClientId) :
    Fetched before (some id) (log ++ [.ok id]) := by
  cases fetched
  exact .connected id

theorem Fetched.of_some {current : Option ClientId} {log : List Outcome} {id : ClientId}
    (fetched : Fetched (some id) current log) : current = some id ∧ log = [] := by
  cases fetched
  exact ⟨rfl, rfl⟩

theorem Fetched.of_none {current : Option ClientId} {log : List Outcome}
    (fetched : Fetched none current log) :
    current = none ∧ log = [] ∨ ∃ id, current = some id ∧ log = [.ok id] := by
  cases fetched with
  | absent => exact .inl ⟨rfl, rfl⟩
  | connected id => exact .inr ⟨id, rfl, rfl⟩

/-- What holds at any time of callers that are not disturbed. -/
structure Flight (settings : Settings) (before : String → Option ClientId)
    (log : String → List Outcome) (state : State) : Prop where
  lawful : Hub.Lawful settings state.timed
  gated : Gated state
  fetched : ∀ caller ∈ state.callers,
    Fetched (before caller.address) (state.cached? caller.address) (log caller.address)
  given : ∀ caller ∈ state.callers, ∀ outcome, caller.stage.outcome? = some outcome →
    ∃ id, outcome = .ok id ∧ state.cached? caller.address = some id
  absent : ∀ caller ∈ state.callers, ∀ gate, caller.stage = .connect gate →
    state.cached? caller.address = none

variable {settings : Settings} {before : String → Option ClientId}
  {log log' : String → List Outcome} {state next shared : State} {index : Nat} {caller : Caller}
  {stage : Stage}

theorem connect?_eq_none (present : state.callers[index]? = some caller)
    (quiet : ∀ gate, caller.stage ≠ .connect gate) (address : String) :
    state.connect? address (.caller index) = none := by
  obtain ⟨place, stage⟩ := caller
  simp only [State.connect?, present]
  cases stage with
  | connect gate => exact absurd rfl (quiet gate)
  | _ => rfl

/-- A step of one caller, seen by what it does to the clients that are to be had. -/
theorem Flight.set (flight : Flight settings before log state)
    (present : state.callers[index]? = some caller) (lawful : Hub.Lawful settings shared.timed)
    (gated : Gated { shared with callers := state.callers.set index ⟨caller.address, stage⟩ })
    (fetched : ∀ other ∈ state.callers,
      Fetched (before other.address) (shared.cached? other.address) (log' other.address))
    (kept : ∀ other ∈ state.callers, ∀ id, state.cached? other.address = some id →
      shared.cached? other.address = some id)
    (given : ∀ outcome, stage.outcome? = some outcome →
      ∃ id, outcome = .ok id ∧ shared.cached? caller.address = some id)
    (absent : ∀ gate, stage = .connect gate → shared.cached? caller.address = none)
    (others : ∀ (place : Nat) (other : Caller) (gate : GateId), place ≠ index →
      state.callers[place]? = some other → other.stage = .connect gate →
        shared.cached? other.address = none) :
    Flight settings before log'
      { shared with callers := state.callers.set index ⟨caller.address, stage⟩ } := by
  obtain ⟨bound, _⟩ := List.getElem?_eq_some_iff.mp present
  refine ⟨lawful, gated, ?_, ?_, ?_⟩
  · intro other member
    rcases List.mem_or_eq_of_mem_set member with former | rfl
    · exact fetched other former
    · exact fetched caller (List.mem_of_getElem? present)
  · intro other member outcome has
    rcases List.mem_or_eq_of_mem_set member with former | rfl
    · obtain ⟨id, same, cached⟩ := flight.given other former outcome has
      exact ⟨id, same, kept other former id cached⟩
    · exact given outcome has
  · intro other member gate connects
    obtain ⟨place, there⟩ := List.getElem?_of_mem member
    by_cases same : index = place
    · subst same
      rw [List.getElem?_set_self bound] at there
      cases there
      exact absent gate connects
    · rw [List.getElem?_set_ne same] at there
      exact others place other gate (Ne.symm same) there connects

/-- A step that changes nothing about the clients that are to be had. -/
theorem Flight.keep (flight : Flight settings before log state)
    (present : state.callers[index]? = some caller) (lawful : Hub.Lawful settings shared.timed)
    (gated : Gated { shared with callers := state.callers.set index ⟨caller.address, stage⟩ })
    (same : ∀ address, shared.cached? address = state.cached? address)
    (quiet : ∀ gate, caller.stage ≠ .connect gate)
    (given : ∀ outcome, stage.outcome? = some outcome →
      ∃ id, outcome = .ok id ∧ state.cached? caller.address = some id)
    (absent : ∀ gate, stage = .connect gate → state.cached? caller.address = none) :
    Flight settings before
      (fun address => log address ++ (state.connect? address (.caller index)).toList)
      { shared with callers := state.callers.set index ⟨caller.address, stage⟩ } := by
  refine flight.set present lawful gated ?_ ?_ ?_ ?_ ?_
  · intro other member
    rw [same, connect?_eq_none present quiet, Option.toList_none, List.append_nil]
    exact flight.fetched other member
  · exact fun other _ id cached => (same _).trans cached
  · rw [same]
    exact given
  · rw [same]
    exact absent
  · intro place other gate _ there connects
    exact (same _).trans (flight.absent other (List.mem_of_getElem? there) gate connects)

/-- Forgetting an address whose client cannot be used changes nothing. -/
theorem cached?_forget {address : String} (absent : state.cached? address = none)
    (other : String) :
    State.cached? { state with pool := state.pool.forget address } other = state.cached? other := by
  by_cases same : other = address
  · subst same
    exact (state.pool.usable?_forget ..).trans absent.symm
  · exact state.pool.usable?_forget_of_ne _ _ same

/-- The state after a client of an address was connected. -/
def State.adopt (state : State) (address : String) : State where
  __ := state
  pool := (Hub.adopt ⟨state.pool, state.network⟩ state.now address).pool
  network := (Hub.adopt ⟨state.pool, state.network⟩ state.now address).network

/-- The first caller to miss the client of an address twice connects it, and nobody else does. -/
theorem Flight.connect (flight : Flight settings before log state) {address : String}
    {gate : GateId} (present : state.callers[index]? = some ⟨address, .connect gate⟩)
    (routed : state.network.route (Network.gatewayName address) = .ok ())
    (gated : Gated { state.adopt address with
      callers := state.callers.set index
        ⟨address, .leave gate (.ok state.network.clients.size)⟩ })
    (kept : ∀ other ∈ state.callers, ∀ id, state.cached? other.address = some id →
      (state.adopt address).cached? other.address = some id) :
    Flight settings before
      (fun place => log place ++ (state.connect? place (.caller index)).toList)
      { state.adopt address with
        callers := state.callers.set index
          ⟨address, .leave gate (.ok state.network.clients.size)⟩ } := by
  have lawful := flight.lawful
  have absent : state.cached? address = none :=
    flight.absent _ (List.mem_of_getElem? present) gate rfl
  have limits := state.pool.clients.insert_limits state.now address state.network.clients.size
  have adopted : Hub.Lawful settings (state.adopt address).timed :=
    ⟨lawful.consistent.adopt routed, lawful.limits.trans ⟨rfl, limits.1, limits.2⟩⟩
  have own : (state.adopt address).cached? address = some state.network.clients.size :=
    lawful.usable?_adopt_self routed
  have elsewhere {other : String} (distinct : other ≠ address)
      (missing : state.cached? other = none) : (state.adopt address).cached? other = none :=
    lawful.consistent.usable?_adopt_of_ne distinct missing
  refine flight.set present adopted gated ?_ kept ?_ nofun ?_
  · intro other listed
    have former := flight.fetched other listed
    by_cases same : other.address = address
    · have connects : state.connect? address (.caller index) =
          some (.ok state.network.clients.size) := by
        simp [State.connect?, present, Pool.connect_of_route_ok routed]
      rw [same, absent] at former
      rw [same, connects, own]
      exact former.connect _
    · have quiet : state.connect? other.address (.caller index) = none := by
        simp [State.connect?, present, Ne.symm same]
      rw [quiet, Option.toList_none, List.append_nil]
      cases cached : state.cached? other.address with
      | none =>
        rw [cached] at former
        rw [elsewhere same cached]
        exact former
      | some id =>
        rw [cached] at former
        rw [kept other listed id cached]
        exact former
  · rintro _ ⟨⟩
    exact ⟨_, rfl, own⟩
  · intro place other gate' apart there connecting
    refine elsewhere ?_ (flight.absent other (List.mem_of_getElem? there) gate' connecting)
    intro same
    refine apart (flight.gated.exclusive there present same ?_ rfl)
    rw [connecting]
    rfl

theorem flight_step (flight : Flight settings before log state)
    (stepped : state.step index = some next) (spares : state.Spares (.caller index) next) :
    Flight settings before
      (fun address => log address ++ (state.connect? address (.caller index)).toList) next := by
  have gated := gated_step flight.gated stepped
  obtain ⟨⟨address, stage⟩, stage', shared, present, proceeds, rfl⟩ := step_cases stepped
  have member := List.mem_of_getElem? present
  have lawful := flight.lawful
  have forgotten : Hub.Lawful settings
      ⟨state.now, ⟨state.pool.forget address, state.network⟩⟩ :=
    ⟨lawful.consistent.forget address, lawful.limits.trans ⟨rfl, rfl, rfl⟩⟩
  cases proceeds with
  | found usable =>
    refine flight.keep present lawful gated (fun _ => rfl) nofun ?_ nofun
    rintro _ ⟨⟩
    exact ⟨_, rfl, usable⟩
  | missed absent =>
    exact flight.keep present forgotten gated (cached?_forget absent) nofun nofun nofun
  | joined known => exact flight.keep present lawful gated (fun _ => rfl) nofun nofun nofun
  | opened unknown => exact flight.keep present lawful gated (fun _ => rfl) nofun nofun nofun
  | passed free => exact flight.keep present lawful gated (fun _ => rfl) nofun nofun nofun
  | foundAgain usable =>
    refine flight.keep present lawful gated (fun _ => rfl) nofun ?_ nofun
    rintro _ ⟨⟩
    exact ⟨_, rfl, usable⟩
  | missedAgain absent =>
    refine flight.keep present forgotten gated (cached?_forget absent) nofun nofun ?_
    exact fun _ _ => absent
  | @refused gate fault unrouted =>
    have connects : state.connect? address (.caller index) =
        some (.error (.connect address fault)) := by
      simp [State.connect?, present, Pool.connect_of_route_error unrouted]
    have succeeds := (spares _ member).1 _ connects
    contradiction
  | connected routed =>
    exact flight.connect present routed gated (fun other listed => (spares other listed).2.1)
  | left =>
    exact flight.keep present lawful gated (fun _ => rfl) nofun
      (flight.given _ member) nofun
  | kept many =>
    exact flight.keep present lawful gated (fun _ => rfl) nofun
      (flight.given _ member) nofun
  | removed last =>
    exact flight.keep present lawful gated (fun _ => rfl) nofun
      (flight.given _ member) nofun

theorem flight_move (flight : Flight settings before log state) {move : Move}
    (moved : state.move move = some next) (spares : state.Spares move next) :
    Flight settings before
      (fun address => log address ++ (state.connect? address move).toList) next := by
  have gated := gated_move flight.gated moved
  cases move with
  | caller index => exact flight_step flight moved spares
  | turn turn =>
    cases moved
    have same : ∀ caller ∈ state.callers,
        (state.turn turn).cached? caller.address = state.cached? caller.address := by
      intro caller member
      obtain ⟨_, kept, unasked⟩ := spares caller member
      cases cached : state.cached? caller.address with
      | none => exact unasked rfl cached
      | some id => exact kept id cached
    refine ⟨Hub.lawful_turn flight.lawful turn, gated, ?_, ?_, ?_⟩
    · intro caller member
      rw [same caller member, State.connect?, Option.toList_none, List.append_nil]
      exact flight.fetched caller member
    · intro caller member
      rw [same caller member]
      exact flight.given caller member
    · intro caller member
      rw [same caller member]
      exact flight.absent caller member

theorem flight_play (flight : Flight settings before log state) {moves : List Move} {last : State}
    (played : state.play moves = some last) (undisturbed : state.Undisturbed moves) :
    Flight settings before (fun address => log address ++ state.connects address moves) last := by
  induction moves generalizing state log with
  | nil =>
    cases played
    simpa only [State.connects, List.append_nil] using flight
  | cons move moves ih =>
    simp only [State.play, Option.bind_eq_bind, Option.bind_eq_some_iff] at played
    obtain ⟨next, moved, played⟩ := played
    obtain ⟨spares, later⟩ := undisturbed next moved
    simpa only [State.connects, moved, List.append_assoc]
      using ih (flight_move flight moved spares) played later

theorem flight_start {pool : Pool} {network : Network} {now : Nat}
    (lawful : Hub.Lawful settings ⟨now, ⟨pool, network⟩⟩) (addresses : List String) :
    Flight settings (State.start pool network now addresses).cached? (fun _ => [])
      (.start pool network now addresses) := by
  refine ⟨lawful, gated_start .., ?_, ?_, ?_⟩
  · intro caller _
    cases (State.start pool network now addresses).cached? caller.address with
    | none => exact .absent
    | some id => exact .cached id
  · intro caller member outcome has
    obtain ⟨address, _, rfl⟩ := List.mem_map.mp member
    contradiction
  · intro caller member gate connects
    obtain ⟨address, _, rfl⟩ := List.mem_map.mp member
    contradiction

/-- Callers keep their addresses. -/
theorem map_address_move {move : Move} (moved : state.move move = some next) :
    next.callers.map Caller.address = state.callers.map Caller.address := by
  cases move with
  | caller index =>
    obtain ⟨caller, stage, shared, present, _, rfl⟩ := step_cases moved
    obtain ⟨bound, here⟩ := List.getElem?_eq_some_iff.mp present
    rw [List.map_set, ← here, ← List.getElem_map Caller.address]
    exact List.set_getElem_self (by rwa [List.length_map])
  | turn turn =>
    cases moved
    rfl

theorem map_address_play {moves : List Move} {last : State}
    (played : state.play moves = some last) :
    last.callers.map Caller.address = state.callers.map Caller.address := by
  refine play_induction (motive := fun reached =>
    reached.callers.map Caller.address = state.callers.map Caller.address) ?_ rfl played
  exact fun kept moved => (map_address_move moved).trans kept

/-- Every outcome of an address is the client that is to be had for it. -/
theorem Flight.returned (flight : Flight settings before log state) {address : String}
    {outcome : Outcome} (given : outcome ∈ state.returned address) :
    ∃ id, outcome = .ok id ∧ state.cached? address = some id := by
  obtain ⟨⟨place, stage⟩, member, result⟩ := List.mem_filterMap.mp given
  cases stage with
  | finished outcome' =>
    obtain ⟨rfl, same⟩ := Option.ite_none_right_eq_some.mp result
    cases same
    exact flight.given _ member _ rfl
  | _ => contradiction

/-- However callers interleave, with each other and with all else that happens to the pool: one
caller of an address at a time looks for a client again and connects, whoever holds a gate holds
the one of its address, a gate is there only while a call is in progress, and no caller waits for
ever. As long as connects succeed and the clients that are there stay usable, there is one connect
for an address without a client and none for any other, and all calls for an address give the same
client. -/
theorem play_single_flight {settings : Settings} {pool : Pool} {network : Network} {now : Nat}
    (lawful : Hub.Lawful settings ⟨now, ⟨pool, network⟩⟩) {addresses : List String}
    {moves : List Move} {state : State}
    (played : (State.start pool network now addresses).play moves = some state) :
    (∀ (index index' : Nat) (caller caller' : Caller), state.callers[index]? = some caller →
      state.callers[index']? = some caller' → caller.address = caller'.address →
        caller.stage.inside?.isSome = true → caller'.stage.inside?.isSome = true →
          index = index') ∧
    (∀ caller ∈ state.callers, ∀ gate, caller.stage.gate? = some gate →
      state.gates.lookup caller.address = some gate) ∧
    ((∀ caller ∈ state.callers,
      caller.stage = .lookup ∨ ∃ outcome, caller.stage = .finished outcome) →
        state.gates = []) ∧
    (moves.countP Move.isCaller ≤ 7 * addresses.length ∧
      ((∀ caller ∈ state.callers, ∃ outcome, caller.stage = .finished outcome) ∨
        ∃ index next, state.step index = some next)) ∧
    ((State.start pool network now addresses).Undisturbed moves → ∀ address ∈ addresses,
      let connects := (State.start pool network now addresses).connects address moves
      (∀ id, pool.usable? network now address = some id →
        connects = [] ∧ ∀ outcome ∈ state.returned address, outcome = .ok id) ∧
      (pool.usable? network now address = none →
        connects = [] ∧ state.returned address = [] ∨
          ∃ id, connects = [.ok id] ∧ ∀ outcome ∈ state.returned address, outcome = .ok id)) := by
  have gated := gated_play (gated_start pool network now addresses) played
  refine ⟨?_, ?_, ?_, ⟨?_, finished_or_exists_step state⟩, ?_⟩
  · exact fun index index' caller caller' => gated.exclusive
  · intro caller member gate holds
    exact (lookup_eq_some_iff_mem gated.distinct).mpr (gated.held caller member gate holds)
  · intro idle
    refine gated.gates_eq_nil ?_
    intro caller member
    rcases idle caller member with begins | ⟨outcome, ended⟩
    · rw [begins]
      rfl
    · rw [ended]
      rfl
  · have counted := countP_play played
    rw [rank_start] at counted
    omega
  · intro undisturbed address listed
    have flight := flight_play (flight_start lawful addresses) played undisturbed
    have listed' : address ∈ state.callers.map Caller.address := by
      rw [map_address_play played, State.start, List.map_map]
      exact List.mem_map.mpr ⟨address, listed, rfl⟩
    obtain ⟨caller, member, rfl⟩ := List.mem_map.mp listed'
    have fetched : Fetched (pool.usable? network now caller.address) (state.cached? caller.address)
        ((State.start pool network now addresses).connects caller.address moves) :=
      flight.fetched caller member
    have same {id : ClientId} (cached : state.cached? caller.address = some id) :
        ∀ outcome ∈ state.returned caller.address, outcome = .ok id := by
      intro outcome given
      obtain ⟨id', rfl, cached'⟩ := flight.returned given
      rw [Option.some.inj (cached.symm.trans cached')]
    refine ⟨?_, ?_⟩
    · intro id usable
      obtain ⟨cached, unconnected⟩ := Fetched.of_some (usable ▸ fetched)
      exact ⟨unconnected, same cached⟩
    · intro absent
      rcases Fetched.of_none (absent ▸ fetched) with ⟨missing, unconnected⟩ | ⟨id, cached, one⟩
      · refine .inl ⟨unconnected, List.eq_nil_iff_forall_not_mem.mpr ?_⟩
        intro outcome given
        obtain ⟨id, _, cached⟩ := flight.returned given
        rw [missing] at cached
        contradiction
      · exact .inr ⟨id, one, same cached⟩

/-- Two callers of one address and one of another, which has a client. -/
def threeCalls : State :=
  .start ⟨{}, ⟨some 64, some 300000, [⟨"b:2", 0, 0⟩]⟩⟩
    { gateways := [("a:1", ⟨[], true⟩)], clients := #[{ address := "b:2" }] } 0
    ["a:1", "a:1", "b:2"]

/-- The second caller takes hold of the gate first, and the first one passes it first. -/
def interleaved : List Move :=
  [.caller 0, .caller 1, .caller 1, .caller 0, .turn (.event (.advance 5)), .caller 0, .caller 2,
    .caller 0, .caller 0, .caller 0, .caller 1, .caller 0, .turn (.event .size), .caller 1,
    .caller 1, .caller 1]

theorem play_single_flight_interleaved :
    ∃ state id, threeCalls.play interleaved = some state ∧ state.gates = [] ∧
      threeCalls.connects "a:1" interleaved = [.ok id] ∧
      threeCalls.connects "b:2" interleaved = [] ∧
      ∀ outcome ∈ state.returned "a:1", outcome = .ok id := by
  have lawful : Hub.Lawful {} threeCalls.timed := by
    refine ⟨⟨⟨?_, ?_, ?_, ?_⟩, ?_, ?_⟩, ⟨rfl, rfl, rfl⟩⟩ <;> decide
  have finishes : (threeCalls.play interleaved).any (fun state =>
      state.callers.all (fun caller =>
        caller.stage.outcome?.isSome && caller.stage.gate?.isNone) &&
        decide ((state.returned "a:1").length = 2)) = true := by
    decide +kernel
  obtain ⟨state, played, ends⟩ := (Option.any_eq_true ..).mp finishes
  obtain ⟨finished, both⟩ := Bool.and_eq_true_iff.mp ends
  have undisturbed : threeCalls.Undisturbed interleaved := by decide +kernel
  obtain ⟨-, -, empty, -, fetched⟩ := play_single_flight lawful played
  have ended : ∀ caller ∈ state.callers,
      caller.stage = .lookup ∨ ∃ outcome, caller.stage = .finished outcome := by
    rintro ⟨address, stage⟩ member
    have here := List.all_eq_true.mp finished _ member
    cases stage with
    | finished outcome => exact .inr ⟨outcome, rfl⟩
    | _ => contradiction
  obtain ⟨unconnected, -⟩ := (fetched undisturbed "b:2" (by decide)).1 0 (by decide +kernel)
  rcases (fetched undisturbed "a:1" (by decide)).2 (by decide +kernel) with
    ⟨-, none⟩ | ⟨id, once, same⟩
  · rw [none] at both
    contradiction
  · exact ⟨state, id, played, empty ended, once, unconnected, same⟩

end SingleFlight
end FileGateway
